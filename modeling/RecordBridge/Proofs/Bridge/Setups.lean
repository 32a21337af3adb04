import RecordBridge.Proofs.Bridge.Starting
import RecordBridge.Proofs.Guest.Scripts

namespace RecordBridge

variable {α β : Type}

open Guest (Object Program Raised Source Statement fileVariable mainModule)

namespace Bridge

-- Holds the lock as often in the end as at the start.
def Level (body : Bridge α) : Prop := ∀ world, (body world).2.store.ledger.depth = world.store.ledger.depth

theorem Level.bind {first : Bridge α} {next : α → Bridge β} (one : first.Level) (two : ∀ a, (next a).Level) :
    (first >>= next).Level :=
  bind_moves (fun before after => after.store.ledger.depth = before.store.ledger.depth)
    (fun early late => late.trans early) one two

theorem level_pure (a : α) : (Pure.pure a : Bridge α).Level := fun _ => rfl

theorem level_fail (error : BridgeError) : (fail error : Bridge α).Level := fun _ => rfl

theorem level_get : get.Level := fun _ => rfl

theorem level_log (event : Event) : (log event).Level := fun _ => rfl

theorem level_onInterpreter (step : Guest.Step α) : (onInterpreter step).Level := fun _ => rfl

theorem level_flushOne (name : String) (flushed : Except Raised Unit) : (flushOne name flushed).Level := by
  cases flushed with
  | ok done => exact level_pure ()
  | error e => exact level_log _

theorem level_flushStreams : flushStreams.Level :=
  (level_onInterpreter _).bind fun first => (level_flushOne "stderr" first).bind fun _ =>
    (level_onInterpreter _).bind fun second => level_flushOne "stdout" second

theorem level_report (raised : Raised) : (report raised).Level := by
  unfold report
  cases raised.exitStatus? with
  | none =>
    have shown : (showRaised raised).Level := fun _ => rfl
    exact shown.bind fun _ => level_flushStreams.bind fun _ => level_pure _
  | some status => exact level_get.bind fun _ => fun _ => rfl

theorem level_stage (step : Guest.Step α) (event : Event) (cause : String → BridgeError) {next : α → Bridge β}
    (later : ∀ a, (next a).Level) : (stage step event cause next).Level := by
  refine (level_onInterpreter step).bind fun ran => ?_
  cases ran with
  | ok a => exact later a
  | error e => exact (level_log event).bind fun _ => (level_report e).bind fun _ => level_fail _

theorem level_preloadConfigured (config : Config) : (preloadConfigured config).Level :=
  fun world => by
    obtain ⟨-, ledger, left, unlocked⟩ := preloadConfigured_quiet config world
    rw [left]
    exact unlocked.depth

theorem level_start : start.Level := by
  have asked : isRunning.Level := fun _ => rfl
  have switched : switchOn.Level := fun _ => rfl
  refine asked.bind fun running => ?_
  cases running with
  | true => exact level_log _
  | false => exact switched.bind fun _ => level_log _

theorem level_readScript (path : Bytes) : (readScript path).Level := by
  refine level_get.bind fun world => ?_
  cases world.site.read path with
  | ok source => exact level_pure source
  | error fault => exact (level_log _).bind fun _ => level_fail _

-- Leaves the lock free where it was free.
def Frees (body : Bridge α) : Prop := ∀ world, world.isHeld = false → (body world).2.isHeld = false

theorem Frees.bind {first : Bridge α} {next : α → Bridge β} (one : first.Frees) (two : ∀ a, (next a).Frees) :
    (first >>= next).Frees :=
  bind_moves (fun before after => before.isHeld = false → after.isHeld = false)
    (fun early late free => late (early free)) one two

theorem Level.frees {body : Bridge α} (level : body.Level) : body.Frees := by
  intro world free
  rw [World.isHeld, Ledger.isHeld, level world]
  exact free

-- The scope of the lock goes one deep and back.
theorem Level.withLock {body : Bridge α} (level : body.Level) : (withLock body).Frees := by
  intro world free
  have outside : world.store.ledger.depth = 0 := by
    simpa [World.isHeld, Ledger.isHeld, UInt32.lt_iff_toNat_lt, ← UInt32.toNat_inj] using free
  rw [Bridge.withLock]
  split
  · have inside : (body (world.settle Ledger.enter)).2.store.ledger.depth = 1 := by
      rw [level, World.settle, Store.settle, Ledger.enter, outside]
      rfl
    change (body (world.settle Ledger.enter)).2.store.ledger.leave.isHeld = false
    rw [Ledger.isHeld, Ledger.leave, inside]
    rfl
  · exact free

theorem frees_bootstrap (config : Config) (path : Bytes) : (bootstrap config path).Frees := by
  refine (level_preloadConfigured config).frees.bind fun _ => level_start.frees.bind fun _ =>
    (level_readScript path).frees.bind fun source => ?_
  rw [runScript_stage]
  exact (level_stage _ _ _ level_pure).withLock.bind fun _ => (level_log _).frees

section Script

variable {path : Bytes} {source : Source} {world : World}

theorem runScript_raised (running : world.running = true) {raised : Raised}
    (raises : (world.interpreter.program.runMain (.ofString (Utf8.lossy path)) source).1 = .error raised)
    (ordinary : raised.Ordinary) :
    (runScript path source world).1 = .failed (.setupScriptFailed path raised.summary) ∧
      (runScript path source world).2.interpreter.program =
        (world.interpreter.program.runMain (.ofString (Utf8.lossy path)) source).2 := by
  have inside : (script path source (world.settle Ledger.enter).interpreter).1 = .error raised := raises
  have told := @stage_raised Unit Unit _ (.scriptFailed (Utf8.lossy path)) (.setupScriptFailed path) Pure.pure
    (world.settle Ledger.enter) raised inside
  rw [runScript_stage, withLock, if_pos running]
  exact ⟨told.failed ordinary, told.same.program⟩

theorem runScript_finished (running : world.running = true)
    (finishes : (world.interpreter.program.runMain (.ofString (Utf8.lossy path)) source).1 = .ok ()) :
    (runScript path source world).1 = .returned () ∧
      (runScript path source world).2.interpreter.program =
        (world.interpreter.program.runMain (.ofString (Utf8.lossy path)) source).2 := by
  have inside : (script path source (world.settle Ledger.enter).interpreter).1 = .ok () := finishes
  rw [runScript_stage, withLock, if_pos running, held, stage_gives inside]
  exact ⟨rfl, rfl⟩

end Script

theorem start_returned (world : World) : (start world).1 = .returned () := by
  have asked : isRunning world = (.returned world.running, world) := rfl
  unfold start
  rw [bind_of_returned asked]
  cases world.running <;> rfl

end Bridge

open Bridge

-- What is read as a script is text.
theorem Site.read_text {site : Site} {path : Bytes} {source : Source} (read : site.read path = .ok source)
    (body : List Statement) : source ≠ .undecodable body := by
  unfold Site.read at read
  split at read
  · cases read
  · cases read
  · cases read
  · rename_i text _
    cases read
    exact text body

-- One bringing up: what the machine offers by then, the configuration, and where the script is.
structure Setup where
  site : Site
  config : Config
  path : Bytes

namespace Setup

-- What the script is told that its file is called.
def file (setup : Setup) : Guest.Text := .ofString (Utf8.lossy setup.path)

def perform (setup : Setup) (world : World) : Outcome Unit × World :=
  bootstrap setup.config setup.path { world with site := setup.site }

-- What a number of them leave, however each of them ended.
def performAll (setups : List Setup) (world : World) : World :=
  setups.foldl (fun world setup => (setup.perform world).2) world

-- The script, if there is one, does not ask for the end of the process.
def Ordinary (setup : Setup) : Prop := ∀ source, setup.site.read setup.path = .ok source → source.Ordinary

-- The library that is configured can be opened, if one is.
def Opens (setup : Setup) : Prop :=
  ∀ library, setup.config.library = some library → setup.site.preload library = .ok ()

-- How it ends on a program, and the program after it: the first step that fails is the answer.
inductive Ended (setup : Setup) (program : Program) : Outcome Unit → Program → Prop where
  | unopened {library reason : String} (asked : setup.config.library = some library)
      (refused : setup.site.preload library = .error reason) :
      Ended setup program (.failed (.symbolPreload library reason)) program
  | unread {fault : PathFault} (opens : setup.Opens) (refused : setup.site.read setup.path = .error fault) :
      Ended setup program (.failed (.setupScriptMissing setup.path fault.message)) program
  | stopped {source : Source} {raised : Raised} {left : Program} (opens : setup.Opens)
      (read : setup.site.read setup.path = .ok source)
      (runs : program.RunsMain setup.file source (.error raised) left) :
      Ended setup program (.failed (.setupScriptFailed setup.path raised.summary)) left
  | finished {source : Source} {left : Program} (opens : setup.Opens)
      (read : setup.site.read setup.path = .ok source) (runs : program.RunsMain setup.file source (.ok ()) left) :
      Ended setup program (.returned ()) left

-- Every step of it succeeds.
def Succeeds (setup : Setup) (program : Program) : Prop :=
  setup.Opens ∧ ∃ body left, setup.site.read setup.path = .ok (.script body) ∧
    Statement.Performs body (program.begun setup.file) left

variable {setup : Setup} {world : World}

theorem preload_ended (setup : Setup) (world : World) (site : world.site = setup.site) :
    (setup.Opens ∧ ∃ after, preloadConfigured setup.config world = (.returned (), after)) ∨
      ∃ library reason after, setup.config.library = some library ∧ setup.site.preload library = .error reason ∧
        preloadConfigured setup.config world = (.failed (.symbolPreload library reason), after) := by
  unfold preloadConfigured Opens
  cases setup.config.library with
  | none => exact .inl ⟨fun _ => nofun, world, rfl⟩
  | some library =>
    dsimp only
    rw [preload_exact, site]
    cases opened : setup.site.preload library with
    | ok done =>
      refine .inl ⟨fun other same => ?_, _, rfl⟩
      cases same
      exact opened
    | error reason => exact .inr ⟨library, reason, _, rfl, opened, rfl⟩

-- What is left to do in a world whose interpreter runs.
theorem runSetup_ended (site : world.site = setup.site) (running : world.running = true)
    (absent : fileVariable ∉ Named.names world.interpreter.program.main) (own : setup.Ordinary)
    (opens : setup.Opens) :
    setup.Ended world.interpreter.program (runSetup setup.path world).1
      (runSetup setup.path world).2.interpreter.program := by
  cases read : setup.site.read setup.path with
  | error fault =>
    have missing := readScript_missing (site ▸ read : world.site.read setup.path = .error fault)
    have failed : runSetup setup.path world = _ := bind_of_failed missing
    rw [failed]
    exact .unread opens read
  | ok source =>
    have found := readScript_found (site ▸ read : world.site.read setup.path = .ok source)
    have reads : runSetup setup.path world = _ := bind_of_returned found
    rw [reads]
    have runs := world.interpreter.program.runMain_ended absent setup.file (Site.read_text read)
    cases ended : (world.interpreter.program.runMain setup.file source).1 with
    | error raised =>
      rw [ended] at runs
      obtain ⟨failed, left⟩ := runScript_raised running ended (runs.ordinary (own source read))
      rw [bind_of_failed (Prod.ext failed rfl)]
      dsimp only
      rw [left]
      exact .stopped opens read runs
    | ok done =>
      rw [ended] at runs
      obtain ⟨returned, left⟩ := runScript_finished running ended
      rw [bind_of_returned (Prod.ext returned rfl)]
      change setup.Ended _ (.returned ()) (runScript setup.path source world).2.interpreter.program
      rw [left]
      exact .finished opens read runs

theorem perform_ended (absent : fileVariable ∉ Named.names world.interpreter.program.main)
    (own : setup.Ordinary) : setup.Ended world.interpreter.program (setup.perform world).1
      (setup.perform world).2.interpreter.program := by
  obtain ⟨opens, ready, preloads⟩ | ⟨library, reason, after, asked, refused, failed⟩ :=
    setup.preload_ended { world with site := setup.site } rfl
  · have starts : start ready = (.returned (), (start ready).2) := Prod.ext (start_returned ready) rfl
    have whole : setup.perform world = runSetup setup.path (start ready).2 := by
      change (preloadConfigured setup.config >>= fun _ => start >>= fun _ => runSetup setup.path) _ = _
      rw [bind_of_returned preloads, bind_of_returned starts]
    have early := (idle_preloadConfigured setup.config).interpreter { world with site := setup.site }
    have earlySite := (idle_preloadConfigured setup.config).site { world with site := setup.site }
    rw [preloads] at early earlySite
    have interpreter := (idle_start.interpreter ready).trans early
    have site := (idle_start.site ready).trans earlySite
    have ended := runSetup_ended site (start_running starts) (interpreter ▸ absent) own opens
    rw [interpreter] at ended
    rw [whole]
    exact ended
  · have same := (idle_preloadConfigured setup.config).interpreter { world with site := setup.site }
    have whole : setup.perform world = _ := bind_of_failed failed
    rw [failed] at same
    rw [whole]
    dsimp only
    rw [same]
    exact .unopened asked refused

theorem Ended.absent {program left : Program} {outcome : Outcome Unit}
    (clean : fileVariable ∉ Named.names program.main) (ended : setup.Ended program outcome left) :
    fileVariable ∉ Named.names left.main := by
  cases ended with
  | unopened asked refused => exact clean
  | unread opens refused => exact clean
  | stopped opens read runs => exact runs.absent clean
  | finished opens read runs => exact runs.absent clean

theorem Ended.phase {program left : Program} {outcome : Outcome Unit} {error : BridgeError}
    (ended : setup.Ended program outcome left) (failed : outcome = .failed error) : error.phase = .bootstrap := by
  cases ended <;> cases failed <;> rfl

-- Of the four ways to end it is the last exactly when no step fails.
theorem Ended.returned_iff {program left : Program} {outcome : Outcome Unit}
    (ended : setup.Ended program outcome left) : outcome = .returned () ↔ setup.Succeeds program := by
  constructor
  · rintro rfl
    cases ended with
    | finished opens read runs =>
      cases runs with
      | finished performs => exact ⟨opens, _, _, read, performs⟩
  · rintro ⟨opens, body, after, read, performs⟩
    cases ended with
    | unopened asked refused =>
      rw [opens _ asked] at refused
      cases refused
    | unread opens refused =>
      rw [read] at refused
      cases refused
    | stopped opens found runs =>
      rw [read] at found
      cases found
      cases runs.finishes performs
    | finished opens found runs => rfl

theorem performAll_concat (history : List Setup) (setup : Setup) (world : World) :
    performAll (history ++ [setup]) world = (setup.perform (performAll history world)).2 :=
  List.foldl_concat _ _ _ _

theorem performAll_clean {history : List Setup} (ordinary : ∀ setup ∈ history, setup.Ordinary)
    (absent : fileVariable ∉ Named.names world.interpreter.program.main) :
    fileVariable ∉ Named.names (performAll history world).interpreter.program.main := by
  induction history generalizing world with
  | nil => exact absent
  | cons setup rest ih =>
    have ended := perform_ended absent (ordinary setup List.mem_cons_self)
    exact ih (fun later member => ordinary later (List.mem_cons_of_mem _ member)) (ended.absent absent)

theorem performAll_frees (history : List Setup) (free : world.isHeld = false) :
    (performAll history world).isHeld = false := by
  induction history generalizing world with
  | nil => exact free
  | cons setup rest ih => exact ih (frees_bootstrap setup.config setup.path _ free)

end Setup

theorem setups_leave_no_file {world : World} (absent : fileVariable ∉ Named.names world.interpreter.program.main)
    {history : List Setup} (ordinary : ∀ setup ∈ history, setup.Ordinary) :
    let before := Setup.performAll history world
    let program := before.interpreter.program
    fileVariable ∉ Named.names program.main ∧ (world.isHeld = false → before.isHeld = false) ∧
      ∀ setup : Setup, setup.Ordinary →
        let done := setup.perform before
        Setup.performAll (history ++ [setup]) world = done.2 ∧
        program.Begins setup.file (program.begun setup.file) ∧
        setup.Ended program done.1 done.2.interpreter.program ∧
        (done.1 = .returned () ↔ setup.Succeeds program) ∧
        ∀ error, done.1 = .failed error → error.phase = .bootstrap := by
  intro before program
  have clean := Setup.performAll_clean ordinary absent
  refine ⟨clean, Setup.performAll_frees history, fun setup own => ?_⟩
  have ended := Setup.perform_ended clean own
  exact ⟨Setup.performAll_concat history setup world, program.begins_begun setup.file, ended,
    ended.returned_iff, fun error => ended.phase⟩

-- A machine with one file, whose name is no text.
def Setup.ofScript (body : List Statement) : Setup :=
  ⟨⟨[], [([], .directory), ([[0xff]], .file (.script body) false)], [], "", Guest.Interpreter.noCode⟩, .initial, [0xff]⟩

-- Tells everyone the name of its file, replaces it, and takes it and what is known everywhere away. There is
-- nothing more to take away then.
def Setup.grabbing : Setup := .ofScript [.publish "told" "__file__" rfl, .assign "marker" (.int 7),
  .assign "__file__" .none, .delete "__file__", .delete "__builtins__", .delete "__file__"]

-- Counts on, replaces the name of its file, and raises.
def Setup.counting : Setup := .ofScript [.increment "marker", .assign "__file__" (.int 1),
  .raise (.builtin "RuntimeError") [.ofString "on purpose"]]

-- A library is to be opened that is not there.
def Setup.preloading : Setup := { Setup.counting with config := ⟨some "lib.so", "info"⟩ }

theorem Setup.ofScript_ordinary {body : List Statement} (own : (Source.script body).Ordinary) :
    (Setup.ofScript body).Ordinary := by
  intro source read
  cases read
  exact own

def World.grabbed : World := Setup.performAll [.grabbing, .preloading] (.initial ⟨[], [], [], "", Guest.Interpreter.noCode⟩)

theorem setups_leave_no_file_counting :
    fileVariable ∉ Named.names World.grabbed.interpreter.program.main ∧ World.grabbed.isHeld = false ∧
      Named.find? "told" World.grabbed.interpreter.program.builtins = some (.ofString "\ufffd") ∧
      (Setup.counting.perform .grabbed).1 =
        .failed (.setupScriptFailed [0xff] "RuntimeError: on purpose") ∧
      ¬ Setup.counting.Succeeds World.grabbed.interpreter.program ∧
      Named.names (Setup.counting.perform .grabbed).2.interpreter.program.main =
        ["__name__", "__doc__", "__package__", "__loader__", "__spec__", "__annotations__", "marker",
          "__builtins__"] ∧
      Named.find? "marker" (Setup.counting.perform .grabbed).2.interpreter.program.main = some (.int 8) := by
  have counting : Setup.counting.Ordinary := Setup.ofScript_ordinary (by simp [Source.Ordinary]; rfl)
  have grabbing : Setup.grabbing.Ordinary := Setup.ofScript_ordinary (by simp [Source.Ordinary])
  have failed : (Setup.counting.perform .grabbed).1 =
      .failed (.setupScriptFailed [0xff] "RuntimeError: on purpose") := by rfl
  have ordinary : ∀ setup ∈ [Setup.grabbing, .preloading], setup.Ordinary := by
    simp only [List.mem_cons, List.not_mem_nil, or_false]
    rintro setup (rfl | rfl)
    · exact grabbing
    · exact counting
  have start : fileVariable ∉ Named.names (World.initial ⟨[], [], [], "", Guest.Interpreter.noCode⟩).interpreter.program.main := by
    decide
  obtain ⟨absent, free, each⟩ := setups_leave_no_file start ordinary
  obtain ⟨-, -, -, iff, -⟩ := each .counting counting
  refine ⟨absent, free rfl, rfl, failed, fun succeeds => ?_, rfl, rfl⟩
  cases failed.symm.trans (iff.mpr succeeds)

end RecordBridge
