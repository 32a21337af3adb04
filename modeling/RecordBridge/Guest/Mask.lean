import RecordBridge.Guest.Interpreter

namespace RecordBridge.Guest

namespace Mask

-- The bits that a number and a mask have in common. A negative number has those bits of the mask that
-- its complement does not have.
def common (n : Int) (mask : Nat) : Nat :=
  match n with
  | .ofNat k => k &&& mask
  | .negSucc k => mask ^^^ (k &&& mask)

end Mask

namespace Object

def noAnswer : Raised :=
  .inProgram "AttributeError" "'IntAnd' object has no attribute 'answer'"

-- The answer of a number that is masked. Some numbers answer for themselves.
def mask (o : Object) (bits : Nat) : Step Object :=
  match o with
  | .masked _ Option.none => .of (.error noAnswer)
  | .masked _ (some answer) => fun interpreter =>
    match answer.give interpreter with
    | (.ok result, after) => (.ok result, after)
    | (.error e, after) => (.error e.passed, after)
  | .own c base =>
    if c.methods.contains .mask then (Object.own c base).ask .mask [.int bits] else base.mask bits
  | other =>
    match other.integer? with
    | some n => .of (.ok (.int (Mask.common n bits)))
    | Option.none => .of (.ok other)

end Object
end RecordBridge.Guest
