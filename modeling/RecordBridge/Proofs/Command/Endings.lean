import Mathlib.Data.List.Forall2
import RecordBridge.Proofs.Command.Passing

namespace RecordBridge.Command

namespace Lines

-- A line that can be told from its ending.
def Plain (line : Bytes) : Prop := lineFeed ∉ line ∧ line.getLast? ≠ some carriageReturn

-- Lines written down, in any mixture of endings.
inductive Written : List Bytes → Bytes → Prop where
  | nothing : Written [] []
  | unended {line ending : Bytes} (ends : ending = [] ∨ ending = [carriageReturn])
      (present : line ++ ending ≠ []) : Written [line] (line ++ ending)
  | ended {line ending input : Bytes} {rest : List Bytes}
      (ends : ending = [lineFeed] ∨ ending = [carriageReturn, lineFeed]) (later : Written rest input) :
      Written (line :: rest) (line ++ ending ++ input)

theorem strip_return (line : Bytes) : strip (line ++ [carriageReturn]) = line := by
  rw [strip, if_pos List.getLast?_concat, List.dropLast_concat]

theorem strip_other {line : Bytes} (other : line.getLast? ≠ some carriageReturn) : strip line = line :=
  if_neg other

theorem strip_ending {line ending : Bytes} (plain : Plain line) (ends : ending = [] ∨ ending = [carriageReturn]) :
    strip (line ++ ending) = line ∧ lineFeed ∉ line ++ ending := by
  obtain ⟨unbroken, other⟩ := plain
  obtain rfl | rfl := ends
  · rw [List.append_nil]
    exact ⟨strip_other other, unbroken⟩
  · refine ⟨strip_return line, fun broken => ?_⟩
    obtain early | last := List.mem_append.mp broken
    · exact unbroken early
    · cases List.mem_singleton.mp last

theorem ofBytes_line {line : Bytes} (unbroken : lineFeed ∉ line) (rest : Bytes) :
    ofBytes (line ++ lineFeed :: rest) = strip line :: ofBytes rest := by
  rw [ofBytes_terminated, Pieces.split_single lineFeed unbroken]
  rfl

theorem ofBytes_written {lines : List Bytes} {input : Bytes} (written : Written lines input)
    (plain : ∀ line ∈ lines, Plain line) : ofBytes input = lines := by
  induction written with
  | nothing => rfl
  | @unended line ending ends present =>
    obtain ⟨stripped, unbroken⟩ := strip_ending (plain line List.mem_cons_self) ends
    rw [ofBytes_unterminated unbroken, if_neg present, stripped]
  | @ended line ending input rest ends later ih =>
    rw [List.forall_mem_cons] at plain
    -- All of the ending but the line feed belongs to the piece that the line is cut from.
    obtain ⟨start, short, rfl⟩ : ∃ start, (start = [] ∨ start = [carriageReturn]) ∧
        ending = start ++ [lineFeed] := by
      obtain rfl | rfl := ends
      · exact ⟨[], .inl rfl, rfl⟩
      · exact ⟨[carriageReturn], .inr rfl, rfl⟩
    obtain ⟨stripped, unbroken⟩ := strip_ending plain.1 short
    rw [← List.append_assoc, List.append_assoc _ _ input, List.singleton_append, ofBytes_line unbroken, stripped,
      ih plain.2]

-- A line without one carriage return at its end.
inductive Shortened : Bytes → Bytes → Prop where
  | shorter (line : Bytes) : Shortened (line ++ [carriageReturn]) line
  | same {line : Bytes} (other : line.getLast? ≠ some carriageReturn) : Shortened line line

theorem shortened_exact {piece line : Bytes} : Shortened piece line ↔ strip piece = line := by
  constructor
  · intro shortened
    cases shortened with
    | shorter line => exact strip_return line
    | same other => exact strip_other other
  · rintro rfl
    by_cases returns : piece.getLast? = some carriageReturn
    · obtain ⟨line, rfl⟩ := List.getLast?_eq_some_iff.mp returns
      rw [strip_return]
      exact .shorter line
    · rw [strip_other returns]
      exact .same returns

-- An input between its line feeds. What follows the last one counts only if there is something.
def Cut (input : Bytes) (pieces : List Bytes) : Prop := ∃ whole final,
  input = (whole.map (· ++ [lineFeed])).flatten ++ final ∧ (∀ piece ∈ whole, lineFeed ∉ piece) ∧
    lineFeed ∉ final ∧ pieces = whole ++ if final = [] then [] else [final]

theorem ofBytes_pieces {input : Bytes} {pieces : List Bytes} (cuts : Cut input pieces) :
    ofBytes input = pieces.map strip := by
  obtain ⟨whole, final, rfl, unbroken, last, rfl⟩ := cuts
  rw [ofBytes_cut unbroken last, List.map_append]
  split <;> rfl

theorem ofBytes_exact {input : Bytes} {lines : List Bytes} :
    ofBytes input = lines ↔ ∃ pieces, Cut input pieces ∧ List.Forall₂ Shortened pieces lines := by
  have stripped : ∀ {pieces : List Bytes}, List.Forall₂ Shortened pieces lines ↔ pieces.map strip = lines := by
    intro pieces
    have exact : Shortened = fun piece line => strip piece = line :=
      funext fun _ => funext fun _ => propext shortened_exact
    rw [exact, ← List.forall₂_map_left_iff, List.forall₂_eq_eq_eq]
  constructor
  · intro same
    obtain ⟨whole, final, cuts, unbroken, last⟩ := cut input
    have pieces : Cut input _ := ⟨whole, final, cuts, unbroken, last, rfl⟩
    exact ⟨_, pieces, stripped.mpr ((ofBytes_pieces pieces).symm.trans same)⟩
  · rintro ⟨pieces, cuts, shortened⟩
    rw [ofBytes_pieces cuts, stripped.mp shortened]

end Lines

namespace Run

open Lines (lineFeed carriageReturn)

-- A run that hands over these lines: one after the other, each once, up to and including the first that fails.
-- The callable is called with the content of each, and has noted just these arguments if it takes notes.
def HandsOver (arguments : Arguments) (callable : Callable) (lines : List Bytes) (ready : World)
    (made : List Guest.Object) (progress : Progress) : Prop :=
  (∃ passed left between,
    Splits (fun line => hand callable arguments.operation (inputOf arguments.blob line)) ready lines passed left
        between progress.outcome ∧
      progress.output = (passed.map fun entry => entry.2.record entry.1).flatten ∧
      made = (passed.map (·.1) ++ left.take 1).flatMap fun line => handed (inputOf arguments.blob line)) ∧
  ∃ records, Worked arguments callable lines made ready records progress

theorem conclude_hands (arguments : Arguments) (callable : Callable) (input : Bytes) {ready : World}
    (running : ready.running = true) : HandsOver arguments callable (Lines.ofBytes input) ready
      (calls callable arguments.operation arguments.blob (Lines.ofBytes input) ready)
      (conclude arguments callable input ready) := by
  have applies : ∀ line world, apply callable arguments.operation (inputOf arguments.blob line) world =
      ((hand callable arguments.operation (inputOf arguments.blob line) world).1.map (·.record line),
        (hand callable arguments.operation (inputOf arguments.blob line) world).2) := by
    intro line world
    rw [apply_hand, bytes_inputOf]
  obtain ⟨passed, left, between, splits, output⟩ := conclude_splits arguments applies input ready
  exact ⟨⟨passed, left, between, splits, output, calls_split splits⟩,
    conclude_worked arguments callable input running⟩

-- What is done with an input depends on its lines.
theorem run_lines {one other : Bytes} (same : Lines.ofBytes one = Lines.ofBytes other) (arguments : Arguments)
    (config : Config) (world : World) : run arguments config one world = run arguments config other world := by
  unfold run
  rw [same]

theorem invoke_lines {one other : Bytes} (same : Lines.ofBytes one = Lines.ofBytes other) (site : Site)
    (environment : Environment) (line : List String) :
    invoke site environment line one = invoke site environment line other := by
  unfold invoke
  simp only [run_lines same]

theorem endings_indifferent (arguments : Arguments) :
    (∀ lines one other, (∀ line ∈ lines, Lines.Plain line) → Lines.Written lines one → Lines.Written lines other →
      (∀ config world, run arguments config one world = run arguments config other world) ∧
      (∀ site environment line, invoke site environment line one = invoke site environment line other) ∧
      ∀ callable ready, ready.running = true →
        let made := calls callable arguments.operation arguments.blob lines ready
        calls callable arguments.operation arguments.blob (Lines.ofBytes one) ready = made ∧
          HandsOver arguments callable lines ready made (conclude arguments callable one ready)) ∧
    (∀ config world callable ready, prepare arguments config world = (.returned callable, ready) →
      ready.running = true ∧ ∀ input, run arguments config input world = conclude arguments callable input ready ∧
        HandsOver arguments callable (Lines.ofBytes input) ready
          (calls callable arguments.operation arguments.blob (Lines.ofBytes input) ready)
          (conclude arguments callable input ready)) ∧
    (∀ callable ready, calls callable arguments.operation arguments.blob (Lines.ofBytes []) ready = [] ∧
      (conclude arguments callable [] ready).world.interpreter = ready.interpreter) ∧
    (∀ input, Lines.ofBytes (input ++ [lineFeed]) = (Pieces.split lineFeed input).map Lines.strip) ∧
    ∀ input lines, Lines.ofBytes input = lines ↔
      ∃ pieces, Lines.Cut input pieces ∧ List.Forall₂ Lines.Shortened pieces lines := by
  refine ⟨?_, ?_, fun _ _ => ⟨rfl, rfl⟩, ?_, fun _ _ => Lines.ofBytes_exact⟩
  · intro lines one other plain first second
    have found := Lines.ofBytes_written first plain
    have same := found.trans (Lines.ofBytes_written second plain).symm
    refine ⟨run_lines same arguments, invoke_lines same, ?_⟩
    intro callable ready running made
    have hands := conclude_hands arguments callable one running
    rw [found] at hands ⊢
    exact ⟨rfl, hands⟩
  · intro config world callable ready prepared
    have running := prepare_running prepared
    exact ⟨running, fun input =>
      ⟨run_prepared prepared input, conclude_hands arguments callable input running⟩⟩
  · intro input
    rw [Lines.ofBytes_terminated, Lines.ofBytes_nil, List.append_nil]

-- Three lines, the second of them empty, written down in two ways.
def threeLines : List Bytes := [[0x61], [], [0x62]]

theorem threeLines_plain : ∀ line ∈ threeLines, Lines.Plain line := by
  unfold threeLines Lines.Plain
  decide

theorem endings_of_mixture :
    let second := [0x61, 0x0a, 0x0d, 0x0a, 0x62, 0x0d]
    Lines.Written threeLines [0x61, 0x0d, 0x0a, 0x0a, 0x62] ∧ Lines.Written threeLines second ∧
    World.started.running = true ∧ (Callable.noting (.bool true)).Notes ∧
    (∀ config world, run (sampleArguments "setup.py") config [0x61, 0x0d, 0x0a, 0x0a, 0x62] world =
      run (sampleArguments "setup.py") config second world) ∧
    calls (.noting (.bool true)) .filter true (Lines.ofBytes second) .started =
      [.bytes [0x61], .bytes [], .bytes [0x62]] ∧
    (conclude (sampleArguments "setup.py") (.noting (.bool true)) second .started).world.interpreter.program.seen =
      [[.bytes [0x61]], [.bytes []], [.bytes [0x62]]] := by
  intro second
  have one : Lines.Written threeLines [0x61, 0x0d, 0x0a, 0x0a, 0x62] :=
    .ended (.inr rfl) (.ended (.inl rfl) (.unended (.inl rfl) nofun))
  have other : Lines.Written threeLines second :=
    .ended (.inl rfl) (.ended (.inr rfl) (.unended (.inr rfl) nofun))
  have notes := noting_notes true
  obtain ⟨indifferent, -⟩ := endings_indifferent (sampleArguments "setup.py")
  obtain ⟨same, -⟩ := indifferent threeLines _ _ threeLines_plain one other
  obtain ⟨-, -, hands⟩ := indifferent threeLines _ _ threeLines_plain other one
  obtain ⟨made, -, records, worked⟩ := hands (.noting (.bool true)) .started rfl
  exact ⟨one, other, rfl, notes, same, made, worked.noted notes⟩

end Run
end RecordBridge.Command
