import RecordBridge.Bridge.Callable
import RecordBridge.Bridge.Startup
import RecordBridge.Proofs.Bridge.Reporting
import RecordBridge.Proofs.Guest.Loading

namespace RecordBridge

open Guest (Object Raised Source Interpreter Program)

namespace Bridge

variable {α β : Type}

-- No panic, no call that is noted, and an interpreter that runs goes on running.
structure Orderly (body : Bridge α) : Prop where
  whole : ∀ world, (body world).1 ≠ .panicked
  seen : ∀ world, (body world).2.interpreter.program.seen = world.interpreter.program.seen
  running : ∀ world, world.running = true → (body world).2.running = true

theorem Orderly.bind {first : Bridge α} {next : α → Bridge β} (one : first.Orderly)
    (two : ∀ a, (next a).Orderly) : (first >>= next).Orderly := by
  refine ⟨fun world => ?_, ?_, ?_⟩
  · rcases ran : first world with ⟨a | error | _ | status, after⟩
    · rw [bind_of_returned ran]
      exact (two a).whole after
    · rw [bind_of_failed ran]
      exact nofun
    · exact absurd (congrArg (·.1) ran) (one.whole world)
    · rw [bind_of_exited ran]
      exact nofun
  · exact bind_moves (fun before after => after.interpreter.program.seen = before.interpreter.program.seen)
      (fun early late => late.trans early) one.seen fun a => (two a).seen
  · exact bind_moves (fun before after => before.running = true → after.running = true)
      (fun early late started => late (early started)) one.running fun a => (two a).running

theorem orderly_pure (a : α) : (Pure.pure a : Bridge α).Orderly :=
  ⟨fun _ => nofun, fun _ => rfl, fun _ started => started⟩

theorem orderly_fail (error : BridgeError) : (fail error : Bridge α).Orderly :=
  ⟨fun _ => nofun, fun _ => rfl, fun _ started => started⟩

theorem orderly_log (event : Event) : (log event).Orderly :=
  ⟨fun _ => nofun, fun _ => rfl, fun _ started => started⟩

theorem orderly_report (raised : Raised) : (report raised).Orderly := by
  have left := leaves_report raised
  refine ⟨fun world => ?_, fun world => congrArg (·.seen) (left world).program,
    fun world started => (left world).running.trans started⟩
  cases asked : raised.exitStatus? with
  | none =>
    rw [(gives_report asked world).1]
    exact nofun
  | some status =>
    unfold report
    rw [asked]
    exact nofun

theorem Orderly.held {body : Bridge α} (inner : body.Orderly) : (held body).Orderly :=
  ⟨fun world => inner.whole (world.settle Ledger.enter), fun world => inner.seen (world.settle Ledger.enter),
    fun world started => inner.running (world.settle Ledger.enter) started⟩

theorem Orderly.withLock {body : Bridge α} (inner : body.Orderly) : (withLock body).Orderly := by
  have scope : ∀ world, Bridge.withLock body world = Bridge.held body world ∨
      Bridge.withLock body world = fail .notInitialized world := by
    intro world
    unfold Bridge.withLock
    split
    · exact .inl rfl
    · exact .inr rfl
  refine ⟨fun world => ?_, fun world => ?_, fun world started => ?_⟩ <;>
    rcases scope world with same | same <;> rw [same]
  · exact inner.held.whole world
  · exact (orderly_fail _).whole world
  · exact inner.held.seen world
  · exact (orderly_fail _).seen world
  · exact inner.held.running world started
  · exact (orderly_fail _).running world started

-- Leaves the interpreter and the machine's files alone, and does not end the process.
structure Idle (body : Bridge α) : Prop where
  orderly : body.Orderly
  interpreter : ∀ world, (body world).2.interpreter = world.interpreter
  site : ∀ world, (body world).2.site = world.site
  stays : ∀ world status, (body world).1 ≠ .exited status

theorem Idle.bind {first : Bridge α} {next : α → Bridge β} (one : first.Idle) (two : ∀ a, (next a).Idle) :
    (first >>= next).Idle := by
  refine ⟨one.orderly.bind fun a => (two a).orderly, ?_, ?_, fun world status ended => ?_⟩
  · exact bind_moves (fun before after => after.interpreter = before.interpreter)
      (fun early late => late.trans early) one.interpreter fun a => (two a).interpreter
  · exact bind_moves (fun before after => after.site = before.site)
      (fun early late => late.trans early) one.site fun a => (two a).site
  · obtain early | ⟨a, between, -, late⟩ := bind_exited (Prod.ext ended rfl)
    · exact one.stays world status (congrArg (·.1) early)
    · exact (two a).stays between status (congrArg (·.1) late)

theorem idle_pure (a : α) : (Pure.pure a : Bridge α).Idle :=
  ⟨orderly_pure a, fun _ => rfl, fun _ => rfl, fun _ _ => nofun⟩

theorem idle_log (event : Event) : (log event).Idle :=
  ⟨orderly_log event, fun _ => rfl, fun _ => rfl, fun _ _ => nofun⟩

theorem idle_refused (event : Event) (error : BridgeError) : (do log event; fail error : Bridge α).Idle :=
  (idle_log event).bind fun _ => ⟨orderly_fail error, fun _ => rfl, fun _ => rfl, fun _ _ => nofun⟩

theorem idle_get : get.Idle :=
  ⟨⟨fun _ => nofun, fun _ => rfl, fun _ started => started⟩, fun _ => rfl, fun _ => rfl, fun _ _ => nofun⟩

theorem idle_isRunning : isRunning.Idle :=
  ⟨⟨fun _ => nofun, fun _ => rfl, fun _ started => started⟩, fun _ => rfl, fun _ => rfl, fun _ _ => nofun⟩

theorem idle_switchOn : switchOn.Idle :=
  ⟨⟨fun _ => nofun, fun _ => rfl, fun _ _ => rfl⟩, fun _ => rfl, fun _ => rfl, fun _ _ => nofun⟩

theorem idle_preloadConfigured (config : Config) : (preloadConfigured config).Idle := by
  unfold preloadConfigured
  cases config.library with
  | none => exact idle_pure ()
  | some library =>
    refine idle_get.bind fun world => ?_
    cases world.site.preload library with
    | ok done => exact idle_log _
    | error reason => exact idle_refused _ _

theorem idle_start : start.Idle := by
  refine idle_isRunning.bind fun running => ?_
  cases running with
  | true => exact idle_log _
  | false => exact idle_switchOn.bind fun _ => idle_log _

theorem idle_readScript (path : Bytes) : (readScript path).Idle := by
  refine idle_get.bind fun world => ?_
  cases world.site.read path with
  | ok source => exact idle_pure source
  | error fault => exact idle_refused _ _

-- A step of the interpreter that goes on with what it gives, or ends with what it raises.
def stage (step : Guest.Step α) (event : Event) (cause : String → BridgeError) (next : α → Bridge β) :
    Bridge β := do
  match ← onInterpreter step with
  | .ok a => next a
  | .error e =>
    log event
    let message ← report e
    fail (cause message)

def onState (step : Program → Except Raised α × Program) : Guest.Step α := fun interpreter =>
  ((step interpreter.program).1, { interpreter with program := (step interpreter.program).2 })

-- What the script does, and what loading the module does.
def script (path : Bytes) (source : Source) : Guest.Step Unit :=
  onState (·.runMain (.ofString (Utf8.lossy path)) source)

def loading (site : Site) (module : String) : Guest.Step Unit := onState (Program.load site module)

theorem runScript_stage (path : Bytes) (source : Source) : runScript path source =
    withLock (stage (script path source) (.scriptFailed (Utf8.lossy path)) (.setupScriptFailed path)
      Pure.pure) := by
  unfold runScript stage
  refine congrArg withLock (bind_same fun ran => ?_)
  cases ran <;> rfl

theorem importModule_stage (module : String) : Callable.importModule module = (do
    let world ← get
    stage (loading world.site module) (.moduleMissing module) (.moduleImport module)
      fun _ => log (.moduleImported module)) := by
  refine bind_same fun world => bind_same fun ran => ?_
  cases ran <;> rfl

theorem find_stage (module function : String) : Callable.find module function =
    stage (Interpreter.lookup module function) (.functionNotFound module function)
      (.functionMissing module function) Pure.pure := by
  refine bind_same fun ran => ?_
  cases ran <;> rfl

theorem orderly_stage {step : Guest.Step α} {next : α → Bridge β}
    (still : ∀ interpreter, (step interpreter).2.program.seen = interpreter.program.seen) (event : Event)
    (cause : String → BridgeError) (later : ∀ a, (next a).Orderly) : (stage step event cause next).Orderly := by
  have stepped : (onInterpreter step).Orderly :=
    ⟨fun _ => nofun, fun world => still world.interpreter, fun _ started => started⟩
  refine stepped.bind fun ran => ?_
  cases ran with
  | ok a => exact later a
  | error e => exact (orderly_log event).bind fun _ => (orderly_report e).bind fun _ => orderly_fail _

theorem orderly_runScript (path : Bytes) (source : Source) : (runScript path source).Orderly := by
  rw [runScript_stage]
  exact Orderly.withLock
    (orderly_stage (fun interpreter => interpreter.program.runMain_seen _ source) _ _ orderly_pure)

theorem orderly_bootstrap (config : Config) (path : Bytes) : (bootstrap config path).Orderly :=
  (idle_preloadConfigured config).orderly.bind fun _ => idle_start.orderly.bind fun _ =>
    (idle_readScript path).orderly.bind fun source =>
      (orderly_runScript path source).bind fun _ => orderly_log _

theorem orderly_load (module function : String) : (Callable.load module function).Orderly := by
  have imported : (Callable.importModule module).Orderly := by
    rw [importModule_stage]
    refine idle_get.orderly.bind fun world => orderly_stage ?_ _ _ fun _ => orderly_log _
    exact fun interpreter => Program.load_seen world.site module interpreter.program
  have found : (Callable.find module function).Orderly := by
    rw [find_stage]
    exact orderly_stage (Interpreter.lookup_seen module function) _ _ orderly_pure
  refine Orderly.withLock (imported.bind fun _ => found.bind fun object => ?_)
  cases object.call? with
  | some call => exact (orderly_log _).bind fun _ => orderly_pure _
  | none => exact (orderly_log _).bind fun _ => orderly_fail _

-- What the step did stays, and what it raised is told.
theorem stage_raised {step : Guest.Step α} {event : Event} {cause : String → BridgeError}
    {next : α → Bridge β} {world : World} {raised : Raised} (raises : (step world.interpreter).1 = .error raised) :
    Told raised cause { world with interpreter := (step world.interpreter).2 }
      (stage step event cause next world) := by
  have stepped : onInterpreter step world =
      (.returned (.error raised), { world with interpreter := (step world.interpreter).2 }) := by
    rw [onInterpreter, raises]
  unfold stage
  rw [bind_of_returned stepped]
  exact (gives_log event).quiet.tells (fun _ => tells_reported raised cause) _

theorem stage_gives {step : Guest.Step α} {event : Event} {cause : String → BridgeError} {next : α → Bridge β}
    {world : World} {a : α} (gives : (step world.interpreter).1 = .ok a) :
    stage step event cause next world = next a { world with interpreter := (step world.interpreter).2 } := by
  have stepped : onInterpreter step world =
      (.returned (.ok a), { world with interpreter := (step world.interpreter).2 }) := by
    rw [onInterpreter, gives]
  unfold stage
  rw [bind_of_returned stepped]

theorem stage_returned {step : Guest.Step α} {event : Event} {cause : String → BridgeError}
    {next : α → Bridge β} {world after : World} {b : β}
    (ended : stage step event cause next world = (.returned b, after)) :
    ∃ a, (step world.interpreter).1 = .ok a ∧
      next a { world with interpreter := (step world.interpreter).2 } = (.returned b, after) := by
  cases gives : (step world.interpreter).1 with
  | ok a => exact ⟨a, rfl, (stage_gives gives).symm.trans ended⟩
  | error e => exact absurd (congrArg (·.1) ended) ((stage_raised gives).stops b)

theorem stage_exited {step : Guest.Step α} {event : Event} {cause : String → BridgeError}
    {next : α → Bridge β} {world after : World} {status : UInt8}
    (ended : stage step event cause next world = (.exited status, after)) :
    (∃ raised, (step world.interpreter).1 = .error raised ∧ EndsFor raised status after) ∨
      ∃ a, (step world.interpreter).1 = .ok a ∧
        next a { world with interpreter := (step world.interpreter).2 } = (.exited status, after) := by
  cases gives : (step world.interpreter).1 with
  | ok a => exact .inr ⟨a, rfl, (stage_gives gives).symm.trans ended⟩
  | error e =>
    have told := @stage_raised α β step event cause next world e gives
    rw [ended] at told
    exact .inl ⟨e, rfl, told.ends rfl⟩

theorem withLock_ended {body : Bridge α} {world after : World} {ended : Outcome α}
    (scope : withLock body world = (ended, after)) : ended = .failed .notInitialized ∨
      ∃ inside, body (world.settle Ledger.enter) = (ended, inside) ∧ after = inside.settle Ledger.leave := by
  unfold withLock at scope
  split at scope
  · cases scope
    exact .inr ⟨_, rfl, rfl⟩
  · cases scope
    exact .inl rfl

-- The world in which the script is run, and the script.
structure Reached (world : World) (path : Bytes) (source : Source) (reached : World) : Prop where
  read : world.site.read path = .ok source
  interpreter : reached.interpreter = world.interpreter
  site : reached.site = world.site
  running : reached.running = true

theorem start_running {world after : World} (started : start world = (.returned (), after)) :
    after.running = true := by
  obtain ⟨running, between, asked, rest⟩ := bind_returned started
  cases asked
  cases up : world.running with
  | true =>
    rw [up] at rest
    cases rest
    exact up
  | false =>
    rw [up] at rest
    cases rest
    rfl

theorem readScript_found {path : Bytes} {source : Source} {world : World}
    (read : world.site.read path = .ok source) : readScript path world = (.returned source, world) := by
  unfold readScript
  rw [bind_of_returned (rfl : get world = (.returned world, world)), read]
  rfl

theorem readScript_missing {path : Bytes} {fault : PathFault} {world : World}
    (refused : world.site.read path = .error fault) : readScript path world =
      (.failed (.setupScriptMissing path fault.message),
        world.settle (·.record (.scriptNotFound (Utf8.lossy path) fault.message))) := by
  unfold readScript
  rw [bind_of_returned (rfl : get world = (.returned world, world)), refused]
  rfl

theorem readScript_returned {path : Bytes} {world after : World} {source : Source}
    (read : readScript path world = (.returned source, after)) :
    world.site.read path = .ok source ∧ after = world := by
  cases found : world.site.read path with
  | ok text =>
    cases (readScript_found found).symm.trans read
    exact ⟨rfl, rfl⟩
  | error fault => cases (readScript_missing found).symm.trans read

theorem script_reached {config : Config} {path : Bytes} {source : Source}
    {world preloaded started reached : World}
    (preloads : preloadConfigured config world = (.returned (), preloaded))
    (starts : start preloaded = (.returned (), started))
    (reads : readScript path started = (.returned source, reached)) : Reached world path source reached := by
  obtain ⟨read, rfl⟩ := readScript_returned reads
  have early := (idle_preloadConfigured config).interpreter world
  have earlySite := (idle_preloadConfigured config).site world
  have late := idle_start.interpreter preloaded
  have lateSite := idle_start.site preloaded
  rw [preloads] at early earlySite
  rw [starts] at late lateSite
  have site := lateSite.trans earlySite
  exact ⟨site ▸ read, late.trans early, site, start_running starts⟩

theorem bootstrap_returned {config : Config} {path : Bytes} {world after : World}
    (ended : bootstrap config path world = (.returned (), after)) :
    ∃ source, world.site.read path = .ok source ∧ after.interpreter = (script path source world.interpreter).2 ∧
      after.site = world.site ∧ after.running = true := by
  obtain ⟨⟨⟩, preloaded, preloads, rest⟩ := bind_returned ended
  obtain ⟨⟨⟩, started, starts, rest⟩ := bind_returned rest
  obtain ⟨source, ready, reads, rest⟩ := bind_returned rest
  obtain ⟨⟨⟩, ran, runs, logged⟩ := bind_returned rest
  obtain ⟨read, interpreter, site, running⟩ := script_reached preloads starts reads
  rw [runScript_stage] at runs
  obtain failed | ⟨inside, staged, rfl⟩ := withLock_ended runs
  · cases failed
  obtain ⟨⟨⟩, -, done⟩ := stage_returned staged
  cases done
  cases logged
  exact ⟨source, read, congrArg (fun state => (script path source state).2) interpreter, site, running⟩

theorem bootstrap_exited {config : Config} {path : Bytes} {world after : World} {status : UInt8}
    (ended : bootstrap config path world = (.exited status, after)) :
    ∃ source raised, world.site.read path = .ok source ∧
      (script path source world.interpreter).1 = .error raised ∧ EndsFor raised status after := by
  obtain early | ⟨⟨⟩, preloaded, preloads, rest⟩ := bind_exited ended
  · exact absurd (congrArg (·.1) early) ((idle_preloadConfigured config).stays world status)
  obtain early | ⟨⟨⟩, started, starts, rest⟩ := bind_exited rest
  · exact absurd (congrArg (·.1) early) (idle_start.stays preloaded status)
  obtain early | ⟨source, ready, reads, rest⟩ := bind_exited rest
  · exact absurd (congrArg (·.1) early) ((idle_readScript path).stays started status)
  obtain runs | ⟨⟨⟩, ran, -, logged⟩ := bind_exited rest
  · obtain ⟨read, interpreter, -, -⟩ := script_reached preloads starts reads
    rw [runScript_stage] at runs
    obtain failed | ⟨inside, staged, rfl⟩ := withLock_ended runs
    · cases failed
    obtain ⟨raised, raises, ends⟩ | ⟨⟨⟩, -, done⟩ := stage_exited staged
    · exact ⟨source, raised, read, interpreter ▸ raises, ends⟩
    · cases done
  · cases logged

theorem load_exited {module function : String} {world after : World} {status : UInt8}
    (ended : Callable.load module function world = (.exited status, after)) :
    ∃ raised, EndsFor raised status after ∧ ((loading world.site module world.interpreter).1 = .error raised ∨
      (Interpreter.lookup module function (loading world.site module world.interpreter).2).1 =
        .error raised) := by
  obtain failed | ⟨inside, loads, rfl⟩ := withLock_ended ended
  · cases failed
  obtain imports | ⟨⟨⟩, imported, imports, rest⟩ := bind_exited loads
  · rw [importModule_stage] at imports
    obtain never | ⟨seen, between, asked, rest⟩ := bind_exited imports
    · cases never
    cases asked
    obtain ⟨raised, raises, ends⟩ | ⟨⟨⟩, -, done⟩ := stage_exited rest
    · exact ⟨raised, ends, .inl raises⟩
    · cases done
  -- The module is there, so it was the look for the name, and that started where loading ended.
  · rw [importModule_stage] at imports
    obtain ⟨seen, between, asked, loaded⟩ := bind_returned imports
    cases asked
    obtain ⟨⟨⟩, -, logged⟩ := stage_returned loaded
    cases logged
    obtain finds | ⟨object, found, -, rest⟩ := bind_exited rest
    · rw [find_stage] at finds
      obtain ⟨raised, raises, ends⟩ | ⟨object, -, done⟩ := stage_exited finds
      · exact ⟨raised, ends, .inr raises⟩
      · cases done
    · cases called : object.call? with
      | some call =>
        rw [called] at rest
        cases rest
      | none =>
        rw [called] at rest
        cases rest

end Bridge
end RecordBridge
