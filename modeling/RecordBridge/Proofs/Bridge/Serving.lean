import RecordBridge.Bridge.Adapter
import RecordBridge.Proofs.Bridge.Preparing

namespace RecordBridge

variable {α β : Type}

namespace Bridge

-- In a world whose interpreter runs, nobody is told that it does not, and it runs on.
def Served (body : Bridge α) : Prop := ∀ world, world.running = true →
  (body world).1 ≠ .failed .notInitialized ∧ (body world).2.running = true

theorem Served.bind {first : Bridge α} {next : α → Bridge β} (one : first.Served)
    (two : ∀ a, (next a).Served) : (first >>= next).Served := by
  intro world running
  obtain ⟨told, goesOn⟩ := one world running
  rcases ran : first world with ⟨a | error | _ | status, after⟩ <;> rw [ran] at told goesOn
  · rw [bind_of_returned ran]
    exact two a after goesOn
  · rw [bind_of_failed ran]
    exact ⟨fun same => told (congrArg Outcome.failed (Outcome.failed.inj same)), goesOn⟩
  · rw [bind_of_panicked ran]
    exact ⟨nofun, goesOn⟩
  · rw [bind_of_exited ran]
    exact ⟨nofun, goesOn⟩

theorem served_pure (a : α) : (Pure.pure a : Bridge α).Served := fun _ running => ⟨nofun, running⟩

theorem served_log (event : Event) : (log event).Served := fun _ running => ⟨nofun, running⟩

theorem served_get : get.Served := fun _ running => ⟨nofun, running⟩

theorem served_onInterpreter (step : Guest.Step α) : (onInterpreter step).Served :=
  fun _ running => ⟨nofun, running⟩

theorem served_fail {error : BridgeError} (other : error ≠ .notInitialized) : (fail error : Bridge α).Served :=
  fun _ running => ⟨fun same => other (Outcome.failed.inj same), running⟩

theorem served_report (raised : Guest.Raised) : (report raised).Served := by
  intro world running
  refine ⟨?_, (leaves_report raised world).running.trans running⟩
  cases asked : raised.exitStatus? with
  | none =>
    rw [(gives_report asked world).1]
    exact nofun
  | some status =>
    unfold report
    rw [asked]
    exact nofun

theorem served_reported (raised : Guest.Raised) {cause : String → BridgeError}
    (other : ∀ message, cause message ≠ .notInitialized) :
    (do let message ← report raised; fail (cause message) : Bridge α).Served :=
  (served_report raised).bind fun message => served_fail (other message)

theorem Served.withLock {body : Bridge α} (inner : body.Served) : (withLock body).Served := by
  intro world running
  rw [Bridge.withLock, if_pos running]
  exact inner (world.settle Ledger.enter) running

theorem served_stage (step : Guest.Step α) (event : Event) {cause : String → BridgeError}
    {next : α → Bridge β} (other : ∀ message, cause message ≠ .notInitialized) (later : ∀ a, (next a).Served) :
    (stage step event cause next).Served := by
  refine (served_onInterpreter step).bind fun ran => ?_
  cases ran with
  | ok a => exact later a
  | error e => exact (served_log event).bind fun _ => served_reported e other

theorem served_preloadConfigured (config : Config) : (preloadConfigured config).Served := by
  unfold preloadConfigured
  cases config.library with
  | none => exact served_pure ()
  | some library =>
    refine served_get.bind fun world => ?_
    cases world.site.preload library with
    | ok done => exact served_log _
    | error reason => exact (served_log _).bind fun _ => served_fail nofun

theorem served_start : start.Served := by
  intro world running
  have asked : isRunning world = (.returned true, world) := by rw [isRunning, running]
  unfold start
  rw [bind_of_returned asked]
  exact ⟨nofun, running⟩

-- What is left to do once the interpreter runs.
def runSetup (path : Bytes) : Bridge Unit := do
  let source ← readScript path
  runScript path source
  log (.scriptCompleted (Utf8.lossy path))

theorem served_runSetup (path : Bytes) : (runSetup path).Served := by
  have read : (readScript path).Served := by
    refine served_get.bind fun world => ?_
    cases world.site.read path with
    | ok source => exact served_pure source
    | error fault => exact (served_log _).bind fun _ => served_fail nofun
  refine read.bind fun source => ?_
  rw [runScript_stage]
  have ran := served_stage (script path source) (.scriptFailed (Utf8.lossy path))
    (fun message => (nofun : BridgeError.setupScriptFailed path message ≠ .notInitialized)) served_pure
  exact ran.withLock.bind fun _ => served_log _

theorem served_bootstrap (config : Config) (path : Bytes) : (bootstrap config path).Served :=
  (served_preloadConfigured config).bind fun _ => served_start.bind fun _ => served_runSetup path

end Bridge

open Bridge

theorem Callable.served_load (module function : String) : (load module function).Served := by
  have imported : (importModule module).Served := by
    rw [importModule_stage]
    exact served_get.bind fun world => served_stage _ _ (fun _ => nofun) fun _ => served_log _
  have found : (find module function).Served := by
    rw [find_stage]
    exact served_stage _ _ (fun _ => nofun) served_pure
  refine (imported.bind fun _ => found.bind fun object => ?_).withLock
  cases object.call? with
  | some call => exact (served_log _).bind fun _ => served_pure _
  | none => exact (served_log _).bind fun _ => served_fail nofun

namespace Adapter

variable [Attribute α] [Attribute β]

theorem served_callWith (callable : Callable) (value : α) : (callWith callable value).Served := by
  have converted : (convert callable value).Served := by
    unfold convert
    cases Attribute.toObject value with
    | ok argument => exact served_pure argument
    | error e => exact (served_log _).bind fun _ => served_reported e fun _ => nofun
  refine converted.bind fun argument => (served_onInterpreter _).bind fun answered => ?_
  cases answered with
  | ok result => exact served_pure result
  | error e => exact (served_log _).bind fun _ => served_reported e fun _ => nofun

theorem served_describe (o : Guest.Object) : (describe o).Served := fun _ running => ⟨nofun, running⟩

theorem served_sink (callable : Callable) (value : α) : (sink callable value).Served :=
  ((served_callWith callable value).bind fun _ => served_pure ()).withLock

theorem served_filter (callable : Callable) (value : α) : (filter callable value).Served := by
  refine ((served_callWith callable value).bind fun result => ?_).withLock
  refine (served_onInterpreter _).bind fun asked => ?_
  cases asked with
  | ok truth => exact served_pure truth
  | error e => exact served_reported e fun _ => nofun

theorem served_hash (callable : Callable) (value : α) : (hash callable value).Served := by
  refine ((served_callWith callable value).bind fun result => ?_).withLock
  refine (served_onInterpreter _).bind fun read => ?_
  cases read with
  | ok low => exact served_pure _
  | error e =>
    exact (served_describe result).bind fun _ => (served_log _).bind fun _ => served_reported e fun _ => nofun

theorem served_fill (callable : Callable) (result : Guest.Object) (destination : β) :
    (fill callable result destination).1.Served := by
  unfold fill
  split
  · exact served_pure false
  · refine (served_describe result).bind fun _ => (served_log _).bind fun _ => ?_
    cases (Attribute.assign destination result).1 with
    | ok done => exact served_pure true
    | error e => exact served_reported e fun _ => nofun

theorem served_transform (callable : Callable) (value : α) (destination : β) {world : World}
    (running : world.running = true) :
    (transform callable value destination world).outcome ≠ .failed .notInitialized ∧
      (transform callable value destination world).world.running = true := by
  have called := served_callWith callable value (world.settle Ledger.enter) running
  rw [transform, if_pos running]
  rcases ran : callWith callable value (world.settle Ledger.enter) with ⟨result | error | _ | status, after⟩ <;>
    rw [ran] at called
  · exact served_fill callable result destination after called.2
  · exact ⟨fun same => called.1 (congrArg Outcome.failed (Outcome.failed.inj same)), called.2⟩
  · exact ⟨nofun, called.2⟩
  · exact ⟨nofun, called.2⟩

end Adapter
end RecordBridge
