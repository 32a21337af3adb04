import Mathlib.Algebra.Group.Nat.Defs
import RecordBridge.Guest.Mask
import RecordBridge.Guest.Question

namespace RecordBridge.Guest

-- An exception that does not ask for the end of the process.
def Raised.Ordinary (raised : Raised) : Prop := raised.exitStatus? = none

theorem Raised.builtin_ordinary {name : String} (other : name ≠ "SystemExit") (args : List Object)
    (traced : Bool) (suggestion : Option String) :
    Raised.Ordinary ⟨.builtin name, args, traced, suggestion⟩ := by
  have unlike : (ExceptionClass.builtin name).isBuiltin ["SystemExit"] = false := by
    simp [ExceptionClass.isBuiltin, ExceptionClass.builtin, other]
  simp [Raised.Ordinary, Raised.exitStatus?, unlike]

namespace Object

-- A number whose class answers for it when it is masked.
def MasksItself : Object → Prop
  | .masked _ _ => True
  | .own c base => c.methods.contains .mask = true ∨ base.MasksItself
  | _ => False

theorem mask_plain {o : Object} {n : Int} (number : o.integer? = some n) (plain : ¬ o.MasksItself)
    (bits : Nat) : o.mask bits = .of (.ok (.int (Mask.common n bits))) := by
  fun_induction mask o bits with
  | case1 => exact absurd trivial plain
  | case2 => exact absurd trivial plain
  | case3 c base answers => exact absurd (.inl answers) plain
  | case4 c base other ih => exact ih number fun itself => plain (.inr itself)
  | case5 o others itself plainly m found =>
    cases found.symm.trans number
    rfl
  | case6 o others itself plainly lacks => cases lacks.symm.trans number

end Object

namespace Mask

theorem common_le (n : Int) (bits : Nat) (width : Nat) (full : bits = 2 ^ width - 1) :
    common n bits ≤ bits := by
  cases n with
  | ofNat k => exact Nat.and_le_right
  | negSucc k =>
    have below : bits < 2 ^ width := by
      have positive : 0 < 2 ^ width := Nat.two_pow_pos width
      omega
    have part : k &&& bits < 2 ^ width := Nat.lt_of_le_of_lt Nat.and_le_right below
    have common := Nat.xor_lt_two_pow below part
    change bits ^^^ (k &&& bits) ≤ bits
    omega

end Mask

end RecordBridge.Guest
