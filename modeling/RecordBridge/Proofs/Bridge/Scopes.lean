import Mathlib.Algebra.Group.Nat.Defs
import RecordBridge.Bridge.Lock

namespace RecordBridge

namespace Ledger

def recordAll (events : List Event) (ledger : Ledger) : Ledger := events.foldl record ledger

theorem recordAll_append (first second : List Event) (ledger : Ledger) :
    ledger.recordAll (first ++ second) = (ledger.recordAll first).recordAll second := List.foldl_append

theorem recordAll_reported (events : List Event) (ledger : Ledger) :
    ledger.recordAll events = { ledger with reported := events.reverse ++ ledger.reported } := by
  induction events generalizing ledger with
  | nil => rfl
  | cons event rest ih =>
    refine (ih (ledger.record event)).trans ?_
    simp only [record, List.reverse_cons, List.append_assoc, List.singleton_append]

theorem recordAll_depth (events : List Event) (ledger : Ledger) :
    (ledger.recordAll events).depth = ledger.depth := by rw [recordAll_reported]

theorem recordAll_events (events : List Event) (ledger : Ledger) :
    (ledger.recordAll events).events = ledger.events ++ events := by
  rw [recordAll_reported, Ledger.events, List.reverse_append, List.reverse_reverse, Ledger.events]

-- What the acquisitions report that were made at these depths.
def nestings (depths : List Nat) : List Event :=
  (depths.filter (0 < ·)).map fun outer => .nestedAcquisition (outer + 1)

theorem nestings_append (first second : List Nat) :
    nestings (first ++ second) = nestings first ++ nestings second := by
  rw [nestings, List.filter_append, List.map_append, nestings, nestings]

theorem enter_exact {ledger : Ledger} (room : ledger.depth.toNat + 1 < 2 ^ 32) :
    ledger.enter = { ledger.recordAll (nestings [ledger.depth.toNat]) with depth := ledger.depth + 1 } := by
  have deeper : (ledger.depth + 1).toNat = ledger.depth.toNat + 1 := by
    rw [UInt32.toNat_add]
    exact Nat.mod_eq_of_lt room
  unfold enter
  by_cases outer : 0 < ledger.depth
  · have counted : 0 < ledger.depth.toNat := UInt32.lt_iff_toNat_lt.mp outer
    simp only [outer, if_true, nestings, counted, decide_true, List.filter_cons_of_pos, List.filter_nil,
      List.map_cons, List.map_nil, deeper]
    rfl
  · have counted : ¬ 0 < ledger.depth.toNat := fun deep => outer (UInt32.lt_iff_toNat_lt.mpr deep)
    simp only [outer, if_false, nestings, counted, decide_false, Bool.false_eq_true, not_false_eq_true,
      List.filter_cons_of_neg, List.filter_nil, List.map_nil]
    rfl

-- A scope gives its depth back, whatever was reported in it. The count does not wrap, so leaving finds
-- one to take away.
theorem leave_enter {ledger : Ledger} (room : ledger.depth.toNat + 1 < 2 ^ 32) (events : List Event) :
    (ledger.enter.recordAll events).leave =
      ledger.recordAll (nestings [ledger.depth.toNat] ++ events) := by
  have deep : ledger.depth + 1 ≠ 0 := by
    intro wrapped
    have zero := congrArg UInt32.toNat wrapped
    rw [UInt32.toNat_add, UInt32.toNat_one, Nat.mod_eq_of_lt room] at zero
    exact absurd zero (Nat.succ_ne_zero _)
  rw [enter_exact room, recordAll_append]
  simp only [recordAll_reported, leave, if_neg deep]
  rw [UInt32.add_sub_cancel]

end Ledger

namespace World

def depth (world : World) : Nat := world.store.ledger.depth.toNat

def reporting (events : List Event) (world : World) : World := world.settle (·.recordAll events)

theorem reporting_append (first second : List Event) (world : World) :
    (world.reporting first).reporting second = world.reporting (first ++ second) :=
  congrArg (fun ledger => world.settle fun _ => ledger)
    (Ledger.recordAll_append first second world.store.ledger).symm

theorem reporting_depth (events : List Event) (world : World) :
    (world.reporting events).depth = world.depth :=
  congrArg UInt32.toNat (Ledger.recordAll_depth events world.store.ledger)

theorem enter_depth {world : World} (room : world.depth + 1 < 2 ^ 32) :
    (world.settle Ledger.enter).depth = world.depth + 1 := by
  have entered := congrArg Ledger.depth (Ledger.enter_exact room)
  refine (congrArg UInt32.toNat entered).trans ?_
  rw [UInt32.toNat_add]
  exact Nat.mod_eq_of_lt room

theorem isHeld_depth {world : World} {depth : Nat} (same : world.depth = depth) :
    world.isHeld = decide (0 < depth) := by
  subst same
  exact decide_eq_decide.mpr UInt32.lt_iff_toNat_lt

end World

namespace Bridge

-- How a body ends as long as the process lives.
inductive Ending where
  | returned
  | failed (error : BridgeError)
  | panicked

namespace Ending

def outcome : Ending → Outcome Unit
  | .returned => .returned ()
  | .failed error => .failed error
  | .panicked => .panicked

def isReturned : Ending → Bool
  | .returned => true
  | _ => false

def of? : Outcome Unit → Option Ending
  | .returned _ => some .returned
  | .failed error => some (.failed error)
  | .panicked => some .panicked
  | .exited _ => none

@[simp] theorem of?_outcome (ending : Ending) : of? ending.outcome = some ending := by
  cases ending <;> rfl

end Ending

-- Hands the ending of a body to whoever catches it. The end of the process is caught by nobody.
def catching (body : Bridge Unit) (handler : Ending → Bridge Unit) : Bridge Unit := fun world =>
  let done := body world
  match Ending.of? done.1 with
  | some ending => handler ending done.2
  | none => done

-- A scope as anybody may open it, or as only the owner of an object may.
def acquiring (asks : Bool) (body : Bridge Unit) : Bridge Unit := if asks then withLock body else held body

-- An action that ends in a certain way and does nothing to the state but report.
def Reports (action : Bridge Unit) (world : World) (ending : Ending) (events : List Event) : Prop :=
  action world = (ending.outcome, world.reporting events)

theorem reports_held {body : Bridge Unit} {world : World} {ending : Ending} {events : List Event}
    (room : world.depth + 1 < 2 ^ 32)
    (inner : body.Reports (world.settle Ledger.enter) ending events) :
    (held body).Reports world ending (Ledger.nestings [world.depth] ++ events) := by
  unfold Reports held at *
  rw [inner]
  have left := Ledger.leave_enter room events
  exact congrArg (fun ledger => (ending.outcome, world.settle fun _ => ledger)) left

theorem reports_acquiring (asks : Bool) {body : Bridge Unit} {world : World} {ending : Ending}
    {events : List Event} (running : world.running = true)
    (room : world.depth + 1 < 2 ^ 32)
    (inner : body.Reports (world.settle Ledger.enter) ending events) :
    (acquiring asks body).Reports world ending
      (Ledger.nestings [world.depth] ++ events) := by
  have within := reports_held room inner
  cases asks with
  | false => exact within
  | true => exact (if_pos running).trans within

-- What comes after a bad end does not happen.
theorem reports_bind {first rest : Bridge Unit} {world : World} {early late : Ending}
    {before after : List Event} (one : first.Reports world early before)
    (two : early.isReturned = true → rest.Reports (world.reporting before) late after) :
    (first >>= fun _ => rest).Reports world (if early.isReturned then late else early)
      (before ++ if early.isReturned then after else []) := by
  change Bridge.bind first (fun _ => rest) world = _
  unfold Reports at one two
  unfold Bridge.bind
  rw [one]
  cases early with
  | returned =>
    refine (two rfl).trans ?_
    rw [World.reporting_append]
    rfl
  | failed error | panicked =>
    simp only [Ending.outcome, Ending.isReturned, Bool.false_eq_true, if_false, List.append_nil]

theorem reports_catching {body : Bridge Unit} {handler : Ending → Bridge Unit} {world : World}
    {early late : Ending} {before after : List Event} (one : body.Reports world early before)
    (two : (handler early).Reports (world.reporting before) late after) :
    (body.catching handler).Reports world late (before ++ after) := by
  unfold Reports at *
  simp only [catching, one, Ending.of?_outcome]
  rw [two, World.reporting_append]

-- What one thread does with the lock. A scope or a question is followed by the rest, unless the scope
-- ends badly; a handler goes on after any ending of its body, which it may also pass on.
inductive Routine where
  | finish (ending : Ending)
  | probe (rest : Routine)
  | scope (asks : Bool) (body rest : Routine)
  | attempt (body : Routine) (handler : Ending → Routine)

namespace Routine

def run : Routine → Bridge Unit
  | .finish ending => fun world => (ending.outcome, world)
  | .probe rest => isHeld >>= fun _ => rest.run
  | .scope asks body rest => acquiring asks body.run >>= fun _ => rest.run
  | .attempt body handler => body.run.catching fun ending => (handler ending).run

-- A question that a run got to, with the number of scopes of the routine that it stands in.
structure Answer where
  scopes : Nat
  given : Outcome Bool

-- All of them in their order. A scope hands its body the state it has after entering.
def answers (scopes : Nat) : Routine → World → List Answer
  | .finish _, _ => []
  | .probe rest, world => ⟨scopes, (isHeld world).1⟩ :: rest.answers scopes world
  | .scope asks body rest, world =>
    let done := acquiring asks body.run world
    body.answers (scopes + 1) (world.settle Ledger.enter) ++
      match Ending.of? done.1 with
      | some .returned => rest.answers scopes done.2
      | _ => []
  | .attempt body handler, world =>
    let done := body.run world
    body.answers scopes world ++
      match Ending.of? done.1 with
      | some ending => (handler ending).answers scopes done.2
      | none => []

def ending : Routine → Ending
  | .finish ending => ending
  | .probe rest => rest.ending
  | .scope _ body rest => if body.ending.isReturned then rest.ending else body.ending
  | .attempt body handler => (handler body.ending).ending

-- How many scopes stand in each other at most.
def height : Routine → Nat
  | .finish _ => 0
  | .probe rest => rest.height
  | .scope _ body rest => max (body.height + 1) (if body.ending.isReturned then rest.height else 0)
  | .attempt body handler => max body.height (handler body.ending).height

-- The depths at which scopes are opened, in the order in which they are.
def entries (depth : Nat) : Routine → List Nat
  | .finish _ => []
  | .probe rest => rest.entries depth
  | .scope _ body rest =>
    depth :: body.entries (depth + 1) ++ if body.ending.isReturned then rest.entries depth else []
  | .attempt body handler => body.entries depth ++ (handler body.ending).entries depth

end Routine

open Routine

theorem room_scope {asks : Bool} {body rest : Routine} {depth : Nat}
    (room : depth + (Routine.scope asks body rest).height < 2 ^ 32) :
    depth + 1 < 2 ^ 32 ∧ depth + 1 + body.height < 2 ^ 32 ∧
      (body.ending.isReturned = true → depth + rest.height < 2 ^ 32) := by
  unfold height at room
  refine ⟨by omega, by omega, fun returned => ?_⟩
  rw [if_pos returned] at room
  omega

theorem room_attempt {body : Routine} {handler : Ending → Routine} {depth : Nat}
    (room : depth + (Routine.attempt body handler).height < 2 ^ 32) :
    depth + body.height < 2 ^ 32 ∧ depth + (handler body.ending).height < 2 ^ 32 := by
  unfold height at room
  omega

theorem reports_scope (asks : Bool) {body : Routine} {world : World} (running : world.running = true)
    (room : world.depth + 1 < 2 ^ 32)
    (inner : body.run.Reports (world.settle Ledger.enter) body.ending
      (Ledger.nestings (body.entries (world.settle Ledger.enter).depth))) :
    (acquiring asks body.run).Reports world body.ending
      (Ledger.nestings (world.depth :: body.entries (world.depth + 1))) := by
  have whole := reports_acquiring asks running room inner
  rw [World.enter_depth room, ← Ledger.nestings_append] at whole
  exact whole

-- Everything a routine leaves behind is its ending and what it reports. The induction is on the routine,
-- at all depths that leave room for it.
theorem reports_run (routine : Routine) (world : World) (running : world.running = true)
    (room : world.depth + routine.height < 2 ^ 32) :
    routine.run.Reports world routine.ending (Ledger.nestings (routine.entries world.depth)) := by
  induction routine generalizing world with
  | finish ending => rfl
  | probe rest later => exact later world running room
  | scope asks body rest inner later =>
    obtain ⟨below, inside, after⟩ := room_scope room
    have one := reports_scope asks running below
      (inner (world.settle Ledger.enter) running (by rwa [World.enter_depth below]))
    have both := reports_bind one fun returned =>
      later (world.reporting _) running (by rw [World.reporting_depth]; exact after returned)
    rw [World.reporting_depth] at both
    unfold entries
    rw [Ledger.nestings_append, apply_ite Ledger.nestings]
    exact both
  | attempt body handler inner later =>
    obtain ⟨inside, after⟩ := room_attempt room
    have one := inner world running inside
    have two := later body.ending (world.reporting (Ledger.nestings (body.entries world.depth))) running
      (by rwa [World.reporting_depth])
    rw [World.reporting_depth] at two
    unfold entries
    rw [Ledger.nestings_append]
    exact reports_catching one two

-- What stands after a scope is asked only if the scope ended well.
theorem answers_scope {asks : Bool} {body rest : Routine} {world after : World} {scopes : Nat}
    {answer : Answer} (ran : acquiring asks body.run world = (body.ending.outcome, after))
    (member : answer ∈ (Routine.scope asks body rest).answers scopes world) :
    answer ∈ body.answers (scopes + 1) (world.settle Ledger.enter) ∨
      body.ending.isReturned = true ∧ answer ∈ rest.answers scopes after := by
  simp only [answers, ran, Ending.of?_outcome, List.mem_append] at member
  refine member.imp id fun late => ?_
  cases ended : body.ending with
  | returned =>
    rw [ended] at late
    exact ⟨rfl, late⟩
  | failed error | panicked =>
    rw [ended] at late
    exact absurd late List.not_mem_nil

-- A question stands at the depth that the routine started from and as many scopes deeper as are around
-- it.
theorem answers_depth (routine : Routine) (world : World) (scopes : Nat) {outer : Nat}
    (running : world.running = true) (room : world.depth + routine.height < 2 ^ 32)
    (start : world.depth = outer + scopes) :
    ∀ answer ∈ routine.answers scopes world,
      answer.given = .returned (decide (0 < outer + answer.scopes)) := by
  induction routine generalizing world scopes with
  | finish ending => exact fun _ member => absurd member List.not_mem_nil
  | probe rest later =>
    intro answer member
    rcases List.mem_cons.mp member with rfl | others
    · exact congrArg Outcome.returned (World.isHeld_depth start)
    · exact later world scopes running room start answer others
  | scope asks body rest inner later =>
    obtain ⟨below, inside, after⟩ := room_scope room
    have entered : (world.settle Ledger.enter).depth + body.height < 2 ^ 32 := by
      rwa [World.enter_depth below]
    have ran : acquiring asks body.run world = _ :=
      reports_scope asks running below (reports_run body _ running entered)
    intro answer member
    rcases answers_scope ran member with early | ⟨returned, late⟩
    · have deeper : (world.settle Ledger.enter).depth = outer + (scopes + 1) := by
        rw [World.enter_depth below, start, Nat.add_assoc]
      exact inner (world.settle Ledger.enter) (scopes + 1) running entered deeper answer early
    · have left := after returned
      exact later (world.reporting _) scopes running (by rwa [World.reporting_depth])
        (by rwa [World.reporting_depth]) answer late
  | attempt body handler inner later =>
    obtain ⟨inside, after⟩ := room_attempt room
    have ran : body.run world = _ := reports_run body world running inside
    intro answer member
    simp only [answers, ran, Ending.of?_outcome, List.mem_append] at member
    rcases member with early | late
    · exact inner world scopes running inside start answer early
    · exact later body.ending (world.reporting _) scopes running (by rwa [World.reporting_depth])
        (by rwa [World.reporting_depth]) answer late

theorem scopes_balanced (routine : Routine) (world : World) (running : world.running = true)
    (room : world.store.ledger.depth.toNat + routine.height < 2 ^ 32) :
    let done := routine.run world
    let depths := (routine.entries world.store.ledger.depth.toNat).filter (0 < ·)
    done.1 = routine.ending.outcome ∧
    done.2.store.ledger.depth = world.store.ledger.depth ∧
    (∀ answer ∈ routine.answers 0 world, 0 < answer.scopes → answer.given = .returned true) ∧
    (world.store.ledger.depth = 0 →
      (isHeld world).1 = .returned false ∧ (isHeld done.2).1 = .returned false) ∧
    ∃ news, done.2.events = world.events ++ news ∧
      news.map (fun event => (event.level, event.message, event.fields)) =
        depths.map fun outer => (.warn, "Nested execution lock acquisition",
          [("depth", .shown (toString (outer + 1)))]) := by
  have ran : routine.run world = _ := reports_run routine world running room
  simp only [ran]
  refine ⟨trivial, Ledger.recordAll_depth _ world.store.ledger, ?_, ?_, ?_⟩
  · intro answer member inside
    have asked := answers_depth routine world 0 running room rfl answer member
    rw [asked, decide_eq_true (Nat.lt_add_left _ inside)]
  · intro free
    have zero : world.depth = 0 := congrArg UInt32.toNat free
    have still := (World.reporting_depth (Ledger.nestings (routine.entries world.depth)) world).trans zero
    exact ⟨congrArg Outcome.returned (World.isHeld_depth zero),
      congrArg Outcome.returned (World.isHeld_depth still)⟩
  · refine ⟨_, Ledger.recordAll_events _ world.store.ledger, ?_⟩
    rw [Ledger.nestings, List.map_map]
    rfl

-- A scope whose inner scope panics, which is caught and asked about, and which fails then itself.
def Routine.guarded : Routine :=
  .scope true
    (.attempt (.scope false (.probe (.finish .panicked)) (.finish .returned))
      fun _ => .probe (.finish (.failed .notInitialized)))
    (.finish .returned)

def atRest : World := { World.initial ⟨[], [], [], "", Guest.Interpreter.noCode⟩ with running := true }

theorem scopes_balanced_guarded :
    atRest.running = true ∧ atRest.store.ledger.depth.toNat + guarded.height < 2 ^ 32 ∧
    (guarded.run atRest).1 = .failed .notInitialized ∧
    (guarded.run atRest).2.store.ledger.depth = 0 ∧
    (∀ answer ∈ guarded.answers 0 atRest, 0 < answer.scopes → answer.given = .returned true) ∧
    (isHeld atRest).1 = .returned false ∧ (isHeld (guarded.run atRest).2).1 = .returned false ∧
    ∃ news, (guarded.run atRest).2.events = atRest.events ++ news ∧
      news.map (fun event => (event.level, event.message, event.fields)) =
        [(.warn, "Nested execution lock acquisition", [("depth", .shown "2")])] := by
  have room : atRest.store.ledger.depth.toNat + guarded.height < 2 ^ 32 := by decide
  obtain ⟨ended, same, inside, free, reported⟩ := scopes_balanced guarded atRest rfl room
  obtain ⟨before, after⟩ := free rfl
  exact ⟨rfl, room, ended, same, inside, before, after, reported⟩

end Bridge
end RecordBridge
