import RecordBridge.Proofs.Bridge.Filling
import RecordBridge.Proofs.Bridge.Hashing
import RecordBridge.Proofs.Bridge.Preparing
import RecordBridge.Proofs.Command.Passing

namespace RecordBridge

open Guest (Object)

namespace Adapter

open Bridge

variable {α β : Type} [Attribute α] {callable : Callable} {value : α} {world after : World}

-- An adapter that answers has been given something by the callable.
theorem used_returned (next : Object → Bridge β) {b : β}
    (ended : withLock (callWith callable value >>= next) world = (.returned b, after)) :
    ∃ v between, ReturnsLeaving callable value world v between.interpreter ∧ (next v between).1 = .returned b := by
  obtain failed | ⟨inside, used, -⟩ := withLock_ended ended
  · cases failed
  · obtain ⟨v, between, called, rest⟩ := bind_returned used
    obtain ⟨argument, made, returns⟩ : Returns callable value (world.settle Ledger.enter) v :=
      callWith_exact.mp (congrArg (·.1) called)
    obtain ⟨-, rfl⟩ := Prod.ext_iff.mp (called.symm.trans (callWith_returned made returns))
    exact ⟨v, _, ⟨argument, made, Prod.ext returns rfl⟩, congrArg (·.1) rest⟩

theorem filter_returned {keep : Bool} (ended : filter callable value world = (.returned keep, after)) :
    ∃ v left, ReturnsLeaving callable value world v left ∧ (v.truth left).1 = .ok keep := by
  obtain ⟨v, between, returned, weighed⟩ := used_returned (weigh callable) ended
  obtain ⟨answer, asked, rfl⟩ := (weigh_resolves callable v between).returned weighed
  exact ⟨v, between.interpreter, returned, asked⟩

theorem hash_returned {hashed : Int32} (ended : hash callable value world = (.returned hashed, after)) :
    ∃ v n, Returns callable value world v ∧ v.integer? = some n ∧ (¬ v.MasksItself → hashed = code n) := by
  obtain ⟨v, between, ⟨argument, made, returns⟩, judged⟩ := used_returned (judge callable) ended
  cases number : v.integer? with
  | none => cases judged.symm.trans (judge_other callable number between)
  | some n =>
    refine ⟨v, n, ⟨argument, made, congrArg (·.1) returns⟩, number, fun plain => ?_⟩
    exact Outcome.returned.inj (judged.symm.trans (judge_number callable number plain between))

end Adapter

namespace Command

namespace Lines

theorem strip_mem {b : UInt8} {line : Bytes} (member : b ∈ strip line) : b ∈ line := by
  unfold strip at member
  split at member
  · exact List.dropLast_subset line member
  · exact member

theorem ofBytes_unbroken (input : Bytes) : ∀ line ∈ ofBytes input, lineFeed ∉ line := by
  obtain ⟨whole, final, rfl, unbroken, last⟩ := cut input
  rw [ofBytes_cut unbroken last]
  intro line member broken
  obtain early | late := List.mem_append.mp member
  · obtain ⟨piece, present, rfl⟩ := List.mem_map.mp early
    exact unbroken piece present (strip_mem broken)
  · split at late
    · cases late
    · cases List.mem_singleton.mp late
      exact last (strip_mem broken)

end Lines

namespace Run

open Lines (lineFeed)

def tab : UInt8 := 0x09

-- A code as it is put out.
def numeral (code : Int32) : Bytes := Utf8.encode (toString code.toInt)

-- The contents of an output that consists of records with a line feed each.
def records? (output : Bytes) : Option (List Bytes) :=
  let pieces := Pieces.split lineFeed output
  if pieces.getLast? = some [] then some pieces.dropLast else none

def natural? (digits : List Char) : Option Nat :=
  if digits ≠ [] ∧ digits.all Char.isDigit = true then some (Nat.ofDigitChars 10 digits 0) else none

-- Digits, behind a sign if the number is negative.
def signed? : List Char → Option Int
  | '-' :: digits => (natural? digits).map fun n => -(n : Int)
  | digits => (natural? digits).map fun n => (n : Int)

-- The number in front of the first tab, and all that comes behind it.
def coded? (record : Bytes) : Option (Int × Bytes) :=
  match record.dropWhile (· ≠ tab) with
  | [] => none
  | _ :: line => do
    let text ← Utf8.text? (record.takeWhile (· ≠ tab))
    let n ← signed? text.toList
    return (n, line)

theorem records_terminated {contents : List Bytes} (unbroken : ∀ content ∈ contents, lineFeed ∉ content) :
    records? (contents.map terminated).flatten = some contents := by
  have pieces : Pieces.split lineFeed (contents.map terminated).flatten = contents ++ [[]] := by
    induction contents with
    | nil => rfl
    | cons content rest ih =>
      rw [List.forall_mem_cons] at unbroken
      rw [List.map_cons, List.flatten_cons, terminated, List.append_assoc, List.singleton_append,
        Pieces.split_append, Pieces.split_single lineFeed unbroken.1, ih unbroken.2]
      rfl
  rw [records?, pieces, List.getLast?_concat, if_pos rfl, List.dropLast_concat]

theorem natural_printed (n : Nat) : natural? n.repr.toList = some n := by
  have digits : (Nat.toDigits 10 n).all Char.isDigit = true :=
    List.all_eq_true.mpr fun c member => Nat.isDigit_of_mem_toDigits (by decide) (by decide) member
  rw [Nat.toList_repr, natural?, if_pos ⟨Nat.toDigits_ne_nil, digits⟩, Nat.ofDigitChars_ten_toDigits]

theorem signed_printed (n : Int) : signed? (toString n).toList = some n := by
  cases n with
  | ofNat m =>
    change signed? m.repr.toList = some (m : Int)
    have unsigned : '-' ∉ m.repr.toList := by
      rw [Nat.toList_repr]
      exact fun present => absurd (Nat.isDigit_of_mem_toDigits (by decide) (by decide) present) (by decide)
    unfold signed?
    split
    · next digits same => exact absurd (same ▸ List.mem_cons_self) unsigned
    · rw [natural_printed]
      rfl
  | negSucc m =>
    have printed : (toString (Int.negSucc m)).toList = '-' :: (m + 1).repr.toList := String.toList_append
    rw [printed, signed?, natural_printed]
    rfl

theorem printed_char {n : Int} {c : Char} (member : c ∈ (toString n).toList) : c = '-' ∨ c.isDigit = true := by
  have digits : ∀ {m : Nat}, c ∈ m.repr.toList → c.isDigit = true := by
    intro m present
    rw [Nat.toList_repr] at present
    exact Nat.isDigit_of_mem_toDigits (by decide) (by decide) present
  cases n with
  | ofNat m => exact .inr (digits member)
  | negSucc m =>
    obtain sign | present := List.mem_append.mp (String.toList_append ▸ member)
    · exact .inl (List.mem_singleton.mp sign)
    · exact .inr (digits present)

-- A numeral has no byte that could be taken for a separator.
theorem numeral_byte {code : Int32} {b : UInt8} (member : b ∈ numeral code) : b ≠ tab ∧ b ≠ lineFeed := by
  obtain ⟨c, present, made⟩ := List.mem_flatMap.mp member
  have range : 45 ≤ c.toNat ∧ c.toNat ≤ 57 := by
    obtain rfl | digit := printed_char present
    · decide
    · simp only [Char.isDigit, ge_iff_le, Bool.and_eq_true, decide_eq_true_eq, UInt32.le_iff_toNat_le] at digit
      exact ⟨Nat.le_trans (by decide) digit.1, digit.2⟩
  have small : c.toNat < 0x80 := by omega
  rw [Utf8.encodeChar, if_pos small, List.mem_singleton] at made
  have value : b.toNat = c.toNat := by rw [made, Utf8.toNat_byte (by omega)]
  constructor
  · rintro rfl
    have : tab.toNat = 9 := rfl
    omega
  · rintro rfl
    have : lineFeed.toNat = 10 := rfl
    omega

theorem coded_record (code : Int32) (line : Bytes) :
    coded? (numeral code ++ tab :: line) = some (code.toInt, line) := by
  have before : ∀ b ∈ numeral code, decide (b ≠ tab) = true :=
    fun b member => decide_eq_true (numeral_byte member).1
  rw [coded?, List.dropWhile_append_of_pos before, List.takeWhile_append_of_pos before,
    List.dropWhile_cons_of_neg (by simp), List.takeWhile_cons_of_neg (by simp), List.append_nil]
  dsimp only
  rw [numeral, Utf8.text?_encode]
  dsimp only [bind, Option.bind]
  rw [signed_printed]
  rfl

theorem hashRecord_exact (code : Int32) (line : Bytes) :
    hashRecord code line = terminated (numeral code ++ tab :: line) :=
  (List.append_assoc (numeral code) (tab :: line) [lineFeed]).symm

variable (callable : Callable) (blob : Bool)

theorem apply_hash (line : Bytes) (world : World) : apply callable .hash (inputOf blob line) world =
    ((Adapter.hash callable (inputOf blob line) world).1.map fun code => hashRecord code line,
      (Adapter.hash callable (inputOf blob line) world).2) := by
  rw [apply_hand, bytes_inputOf, hand, Outcome.map_map]
  rfl

theorem apply_filter (line : Bytes) (world : World) : apply callable .filter (inputOf blob line) world =
    ((Adapter.filter callable (inputOf blob line) world).1.map fun keep => if keep then terminated line else [],
      (Adapter.filter callable (inputOf blob line) world).2) := by
  rw [apply_hand, bytes_inputOf, hand, Outcome.map_map]
  rfl

-- Records that may be empty are those that are there.
theorem kept_records (verdicts : List (Bytes × Bool)) :
    (verdicts.map fun entry => if entry.2 then terminated entry.1 else []).flatten =
      (((verdicts.filter (·.2)).map (·.1)).map terminated).flatten := by
  induction verdicts with
  | nil => rfl
  | cons entry rest ih =>
    rw [List.map_cons, List.flatten_cons, ih]
    cases kept : entry.2 with
    | true => rw [List.filter_cons_of_pos kept, if_pos rfl, List.map_cons, List.map_cons, List.flatten_cons]
    | false => rw [List.filter_cons_of_neg (by simp [kept]), if_neg Bool.false_ne_true, List.nil_append]

-- The lines that pass are among those of the input.
theorem Splits.unbroken {α : Type} {use : Bytes → Bridge α} {world between : World} {input : Bytes}
    {passed : List (Bytes × α)} {left : List Bytes} {ending : Outcome Unit}
    (splits : Splits use world (Lines.ofBytes input) passed left between ending) :
    ∀ entry ∈ passed, lineFeed ∉ entry.1 := by
  intro entry member
  refine Lines.ofBytes_unbroken input entry.1 ?_
  rw [splits.all]
  exact List.mem_append_left _ (List.mem_map_of_mem member)

section Outcome

variable (arguments : Arguments) (input : Bytes) (ready : World)

-- What becomes of the lines of an input under one operation.
def outcomeOf (operation : Operation) : Progress :=
  conclude { arguments with operation := operation } callable input ready

theorem hashes_read : ∃ codes left between,
    Splits (fun line => Adapter.hash callable (inputOf arguments.blob line)) ready (Lines.ofBytes input) codes left
        between (outcomeOf callable arguments input ready .hash).outcome ∧
      records? (outcomeOf callable arguments input ready .hash).output =
        some (codes.map fun entry => numeral entry.2 ++ tab :: entry.1) := by
  obtain ⟨codes, left, between, splits, output⟩ :=
    conclude_splits { arguments with operation := .hash } (apply_hash callable arguments.blob) input ready
  refine ⟨codes, left, between, splits, ?_⟩
  have contents : (outcomeOf callable arguments input ready .hash).output =
      ((codes.map fun entry => numeral entry.2 ++ tab :: entry.1).map terminated).flatten := by
    rw [List.map_map]
    refine output.trans (congrArg List.flatten (List.map_congr_left fun entry _ => ?_))
    exact hashRecord_exact entry.2 entry.1
  rw [contents]
  refine records_terminated (List.forall_mem_map.mpr fun entry member broken => ?_)
  obtain early | late := List.mem_append.mp broken
  · exact (numeral_byte early).2 rfl
  · obtain same | inside := List.mem_cons.mp late
    · exact absurd same (by decide)
    · exact splits.unbroken entry member inside

theorem filtered_read : ∃ verdicts left between,
    Splits (fun line => Adapter.filter callable (inputOf arguments.blob line)) ready (Lines.ofBytes input) verdicts
        left between (outcomeOf callable arguments input ready .filter).outcome ∧
      records? (outcomeOf callable arguments input ready .filter).output =
        some ((verdicts.filter (·.2)).map (·.1)) := by
  obtain ⟨verdicts, left, between, splits, output⟩ :=
    conclude_splits { arguments with operation := .filter } (apply_filter callable arguments.blob) input ready
  refine ⟨verdicts, left, between, splits, ?_⟩
  have contents : (outcomeOf callable arguments input ready .filter).output = _ :=
    output.trans (kept_records verdicts)
  rw [contents]
  refine records_terminated (List.forall_mem_map.mpr fun entry member => ?_)
  exact splits.unbroken entry (List.mem_filter.mp member).1

end Outcome

theorem output_read_back (callable : Callable) (arguments : Arguments) (input : Bytes) (ready : World) :
    (∃ codes left between,
      Splits (fun line => Adapter.hash callable (inputOf arguments.blob line)) ready (Lines.ofBytes input) codes
          left between (outcomeOf callable arguments input ready .hash).outcome ∧
        ((outcomeOf callable arguments input ready .hash).outcome = .returned () ↔ left = []) ∧
        records? (outcomeOf callable arguments input ready .hash).output =
          some (codes.map fun entry => numeral entry.2 ++ tab :: entry.1) ∧
        ∀ entry ∈ codes, coded? (numeral entry.2 ++ tab :: entry.1) = some (entry.2.toInt, entry.1)) ∧
    (∃ verdicts left between,
      Splits (fun line => Adapter.filter callable (inputOf arguments.blob line)) ready (Lines.ofBytes input)
          verdicts left between (outcomeOf callable arguments input ready .filter).outcome ∧
        ((outcomeOf callable arguments input ready .filter).outcome = .returned () ↔ left = []) ∧
        records? (outcomeOf callable arguments input ready .filter).output =
          some ((verdicts.filter (·.2)).map (·.1))) ∧
    (∀ (value : Value) world after,
      (∀ code, Adapter.hash callable value world = (.returned code, after) → ∃ v n,
        Adapter.Returns callable value world v ∧ v.integer? = some n ∧
          (¬ v.MasksItself → code = Adapter.code n)) ∧
      ∀ keep, Adapter.filter callable value world = (.returned keep, after) → ∃ v left,
        Adapter.ReturnsLeaving callable value world v left ∧ (v.truth left).1 = .ok keep) ∧
    ∀ operation config world,
      prepare { arguments with operation := operation } config world = (.returned callable, ready) →
        run { arguments with operation := operation } config input world =
          outcomeOf callable arguments input ready operation := by
  refine ⟨?_, ?_, ?_, ?_⟩
  · obtain ⟨codes, left, between, splits, read⟩ := hashes_read callable arguments input ready
    refine ⟨codes, left, between, splits, splits.stops.returned_iff, read, ?_⟩
    exact fun entry _ => coded_record entry.2 entry.1
  · obtain ⟨verdicts, left, between, splits, read⟩ := filtered_read callable arguments input ready
    exact ⟨verdicts, left, between, splits, splits.stops.returned_iff, read⟩
  · exact fun value world after =>
      ⟨fun code => Adapter.hash_returned, fun keep => Adapter.filter_returned⟩
  · intro operation config world prepared
    exact run_prepared prepared input

-- A line with a tab in it, an empty one, and a last one that is not terminated.
def tabbed : Bytes := [0x61, 0x09, 0x62, 0x0d, 0x0a, 0x0a, 0x63]

theorem output_read_back_of_tabbed :
    let done := outcomeOf (.noting (.int (-5))) (sampleArguments "setup.py") tabbed .started .hash
    done.output = [0x2d, 0x35, 0x09, 0x61, 0x09, 0x62, 0x0a, 0x2d, 0x35, 0x09, 0x0a, 0x2d, 0x35, 0x09, 0x63, 0x0a] ∧
      ∃ codes : List (Bytes × Int32), codes.map (·.1) = [[0x61, 0x09, 0x62], [], [0x63]] ∧
        records? done.output = some (codes.map fun entry => numeral entry.2 ++ tab :: entry.1) := by
  intro done
  obtain ⟨⟨codes, left, between, splits, all, read, -⟩, -⟩ :=
    output_read_back (.noting (.int (-5))) (sampleArguments "setup.py") tabbed .started
  obtain rfl := all.mp rfl
  have lines := splits.all
  rw [List.append_nil] at lines
  exact ⟨rfl, codes, lines.symm, read⟩

end Run
end Command
end RecordBridge
