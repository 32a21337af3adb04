import Mathlib.Data.Int.ModEq
import RecordBridge.Proofs.Bridge.Adapters
import RecordBridge.Proofs.Guest.Masking

namespace RecordBridge

open Guest (Object)

namespace Adapter

-- The low bits of a number, as a signed word.
def code (n : Int) : Int32 := (UInt32.ofNat (Guest.Mask.common n wordMask)).toInt32

theorem low_word (n : Int) : ((UInt32.ofNat (Guest.Mask.common n wordMask)).toNat : Int) = n % 2 ^ 32 := by
  have low : (Guest.Mask.common n wordMask : Int) = n % 2 ^ 32 := Guest.Mask.common_residue n 32
  rw [UInt32.toNat_ofNat']
  omega

theorem toInt_toInt32 (low : UInt32) : low.toInt32.toInt = (low.toNat : Int).bmod (2 ^ 32) := by
  rw [← Int32.toInt_toBitVec, UInt32.toBitVec_toInt32, BitVec.toInt_eq_toNat_bmod, UInt32.toNat_toBitVec]

theorem code_bmod (n : Int) : (code n).toInt = n.bmod (2 ^ 32) := by
  rw [code, toInt_toInt32, low_word]
  exact Int.emod_bmod n (2 ^ 32)

theorem code_congruent (n : Int) : (code n).toInt ≡ n [ZMOD 2 ^ 32] := by
  rw [code_bmod]
  exact Int.bmod_emod

-- No other signed word differs from the number by a multiple of 2^32.
theorem code_unique {n other : Int} (low : -2 ^ 31 ≤ other) (high : other < 2 ^ 31)
    (congruent : other ≡ n [ZMOD 2 ^ 32]) : other = (code n).toInt := by
  have same : other % 2 ^ 32 = n % 2 ^ 32 := congruent
  have itself : other.bmod (2 ^ 32) = other := Int.bmod_eq_of_le (by omega) (by omega)
  calc other
      _ = other.bmod (2 ^ 32) := itself.symm
      _ = (other % 2 ^ 32).bmod (2 ^ 32) := (Int.emod_bmod other (2 ^ 32)).symm
      _ = (n % 2 ^ 32).bmod (2 ^ 32) := by rw [same]
      _ = n.bmod (2 ^ 32) := Int.emod_bmod n (2 ^ 32)
      _ = (code n).toInt := (code_bmod n).symm

theorem code_periodic (n k : Int) : code (n + k * 2 ^ 32) = code n := by
  refine Int32.toInt.inj ?_
  rw [code_bmod, code_bmod]
  exact Int.add_mul_bmod_self_right n k (2 ^ 32)

variable {α : Type} [Attribute α] {callable : Callable} {value : α} {world : World}

-- Behind the call the code depends on the result alone.
theorem hash_judged (running : world.running = true) {v : Object} (returned : Returns callable value world v) :
    ∃ after, (hash callable value world).1 = (judge callable v after).1 := by
  obtain ⟨argument, made, returns⟩ := returned
  have called := @callWith_returned α _ callable value argument made (world.settle Ledger.enter) v returns
  exact ⟨_, congrArg (·.1) (withLock_returned running called (judge callable))⟩

end Adapter

open Adapter

theorem hash_reduced {α : Type} [Attribute α] {callable : Callable} {value : α} {world : World}
    (running : world.running = true) {v : Object} (returned : Returns callable value world v) :
    (∀ n, v.integer? = some n → ¬ v.MasksItself →
      (∀ interpreter, v.mask wordMask interpreter = (.ok (.int (n.land wordMask)), interpreter)) ∧
      (∀ interpreter, ∃ low : UInt32,
        lowWord v interpreter = (.ok low, interpreter) ∧ (low.toNat : Int) = n % 2 ^ 32) ∧
      (Adapter.hash callable value world).1 = .returned (code n)) ∧
    (∀ n, -2 ^ 31 ≤ (code n).toInt ∧ (code n).toInt < 2 ^ 31 ∧ (code n).toInt ≡ n [ZMOD 2 ^ 32] ∧
      (∀ other, -2 ^ 31 ≤ other → other < 2 ^ 31 → other ≡ n [ZMOD 2 ^ 32] → other = (code n).toInt) ∧
      (∀ k, code (n + k * 2 ^ 32) = code n) ∧
      (-2 ^ 31 ≤ n → n < 2 ^ 31 → (code n).toInt = n)) ∧
    Object.integer? (.bool true) = some 1 ∧ Object.integer? (.bool false) = some 0 ∧
    (v.integer? = none → ∃ message,
      (Adapter.hash callable value world).1 = .failed (.notAnInteger callable.function message)) := by
  obtain ⟨after, judged⟩ := hash_judged running returned
  rw [judged]
  refine ⟨?_, ?_, rfl, rfl, ?_⟩
  · intro n number plain
    refine ⟨?_, ?_, ?_⟩
    · intro interpreter
      rw [Object.mask_plain number plain, Guest.Mask.common_land]
      rfl
    · exact fun interpreter => ⟨_, congrFun (lowWord_number number plain) interpreter, low_word n⟩
    · exact judge_number callable number plain after
  · intro n
    refine ⟨(code n).le_toInt, (code n).toInt_lt, code_congruent n, ?_, code_periodic n, ?_⟩
    · exact fun other low high congruent => code_unique low high congruent
    · exact fun low high => (code_unique low high (Int.ModEq.refl n)).symm
  · intro other
    exact ⟨_, judge_other callable other after⟩

-- A number far below all words, and a text in its place.
theorem hash_of_wide :
    World.started.running = true ∧
    Returns (.noting (.int (-2 ^ 70 - 1))) (Value.blob ⟨[1]⟩) .started (.int (-2 ^ 70 - 1)) ∧
    (Adapter.hash (.noting (.int (-2 ^ 70 - 1))) (Value.blob ⟨[1]⟩) .started).1 = .returned (-1) ∧
    Returns (.noting (.ofString "1")) (Value.blob ⟨[1]⟩) .started (.ofString "1") ∧
    ∃ message, (Adapter.hash (.noting (.ofString "1")) (Value.blob ⟨[1]⟩) .started).1 =
      .failed (.notAnInteger "noting" message) := by
  have wide : Returns (.noting (.int (-2 ^ 70 - 1))) (Value.blob ⟨[1]⟩) .started (.int (-2 ^ 70 - 1)) :=
    ⟨_, rfl, rfl⟩
  have text : Returns (.noting (.ofString "1")) (Value.blob ⟨[1]⟩) .started (.ofString "1") := ⟨_, rfl, rfl⟩
  obtain ⟨numbers, codes, -, -, -⟩ := hash_reduced rfl wide
  obtain ⟨-, -, -, -, others⟩ := hash_reduced rfl text
  obtain ⟨-, -, hashed⟩ := numbers _ rfl id
  obtain ⟨-, -, -, -, periodic, -⟩ := codes (-1)
  have reduced : code (-2 ^ 70 - 1) = -1 := periodic (-2 ^ 38)
  exact ⟨rfl, wide, hashed.trans (congrArg _ reduced), text, others rfl⟩

end RecordBridge
