import RecordBridge.Proofs.Command.Runs

namespace RecordBridge

theorem Outcome.map_map {α β γ : Type} (f : α → β) (g : β → γ) (outcome : Outcome α) :
    (outcome.map f).map g = outcome.map fun a => g (f a) := by
  cases outcome <;> rfl

namespace Command.Run

section Using

variable {α : Type} (use : Bytes → Bridge α)

-- Lines that pass, each with what came of it.
inductive InTurn : World → List (Bytes × α) → World → Prop where
  | start (world : World) : InTurn world [] world
  | next {world between after : World} {line : Bytes} {a : α} {rest : List (Bytes × α)}
      (used : use line world = (.returned a, between)) (later : InTurn between rest after) :
      InTurn world ((line, a) :: rest) after

-- Why no more lines pass, and how that ends.
inductive Stops (world : World) : List Bytes → Outcome Unit → Prop where
  | finished : Stops world [] (.returned ())
  | failed {line : Bytes} {rest : List Bytes} (fails : ∀ a, (use line world).1 ≠ .returned a) :
      Stops world (line :: rest) ((use line world).1.map fun _ => ())

-- Lines up to the first that fails, and what is left of them.
structure Splits (world : World) (lines : List Bytes) (passed : List (Bytes × α)) (left : List Bytes)
    (between : World) (ending : Outcome Unit) : Prop where
  all : lines = passed.map (·.1) ++ left
  inTurn : InTurn use world passed between
  stops : Stops use between left ending

end Using

variable {α : Type} {use : Bytes → Bridge α}

theorem Stops.returned_iff {world : World} {left : List Bytes} {ending : Outcome Unit}
    (stops : Stops use world left ending) : ending = .returned () ↔ left = [] := by
  cases stops with
  | finished => exact ⟨fun _ => rfl, fun _ => rfl⟩
  | @failed line rest fails =>
    exact ⟨fun returned => absurd returned (map_stopped fails), nofun⟩

variable {callable : Callable} {operation : Operation} {blob : Bool}

-- An operation that does nothing but use a line and put out a record of what came of it.
theorem each_splits {record : Bytes → α → Bytes}
    (applies : ∀ line world, apply callable operation (inputOf blob line) world =
      ((use line world).1.map (record line), (use line world).2))
    (lines : List Bytes) (world : World) : ∃ passed left between,
      Splits use world lines passed left between (each callable operation blob lines world).outcome ∧
        (each callable operation blob lines world).output =
          (passed.map fun entry => record entry.1 entry.2).flatten := by
  induction lines generalizing world with
  | nil => exact ⟨[], [], world, ⟨rfl, .start world, .finished⟩, rfl⟩
  | cons line rest ih =>
    have stopped : ∀ {ended : Outcome α} {after : World}, use line world = (ended, after) →
        (∀ a, ended ≠ .returned a) → Stops use world (line :: rest) (ended.map fun _ => ()) := by
      intro ended after ran without
      have fails : ∀ a, (use line world).1 ≠ .returned a := by
        rw [ran]
        exact without
      have stops : Stops use world (line :: rest) _ := .failed fails
      rwa [ran] at stops
    have applied := applies line world
    rcases ran : use line world with ⟨a | error | _ | status, next⟩ <;> rw [ran] at applied
    · obtain ⟨passed, left, between, ⟨all, inTurn, stops⟩, output⟩ := ih next
      rw [each, applied]
      refine ⟨(line, a) :: passed, left, between, ⟨?_, .next ran inTurn, stops⟩, ?_⟩
      · rw [all]
        rfl
      · exact congrArg (record line a ++ ·) output
    all_goals
      have stops := stopped ran fun a returned => by cases returned
      rw [each, applied]
      exact ⟨[], line :: rest, world, ⟨rfl, .start world, stops⟩, rfl⟩

theorem conclude_splits {record : Bytes → α → Bytes} (arguments : Arguments)
    (applies : ∀ line world, apply callable arguments.operation (inputOf arguments.blob line) world =
      ((use line world).1.map (record line), (use line world).2))
    (input : Bytes) (ready : World) : ∃ passed left between,
      Splits use ready (Lines.ofBytes input) passed left between (conclude arguments callable input ready).outcome ∧
        (conclude arguments callable input ready).output =
          (passed.map fun entry => record entry.1 entry.2).flatten := by
  obtain ⟨passed, left, between, splits, output⟩ := each_splits applies (Lines.ofBytes input) ready
  obtain ⟨ending, printed, -⟩ := finish_exact (Lines.ofBytes input)
    (each callable arguments.operation arguments.blob (Lines.ofBytes input) ready)
  exact ⟨passed, left, between, ending ▸ splits, printed.trans output⟩

-- One line after the other is handed over, up to and including the first that fails.
theorem calls_split {world between : World} {lines left : List Bytes} {passed : List (Bytes × Answer)}
    {ending : Outcome Unit}
    (splits : Splits (fun line => hand callable operation (inputOf blob line)) world lines passed left between
      ending) : calls callable operation blob lines world =
        (passed.map (·.1) ++ left.take 1).flatMap fun line => handed (inputOf blob line) := by
  obtain ⟨rfl, inTurn, stops⟩ := splits
  induction inTurn with
  | start world =>
    cases stops with
    | finished => rfl
    | @failed line rest fails =>
      rw [List.map_nil, List.nil_append, calls_stops operation blob (Prod.ext rfl rfl) fails]
      exact (List.append_nil _).symm
  | next used later ih =>
    rw [List.map_cons, List.cons_append, calls_passes operation blob used, ih stops]
    rfl

end Command.Run
end RecordBridge
