import RecordBridge.Guest.Interpreter

namespace RecordBridge.Guest.Object

open RecordBridge.Guest

def negativeLength : Raised := .native "ValueError" "__len__() should return >= 0"

def noTruth : Raised := .inProgram "RuntimeError" "no truth value"

def refusedLength : Raised := .inProgram "KeyError" "len"

-- The length of an object that has one.
def length? : Object → Option (Except Raised Nat)
  | .str text => some (.ok text.length)
  | .bytes data => some (.ok data.length)
  | .bytearray data => some (.ok data.length)
  | .list items => some (.ok items.length)
  | .tuple items => some (.ok items.length)
  | .dict entries => some (.ok entries.length)
  | .derived _ base => base.length?
  | .own _ base => base.length?
  | .holder item => item.length?
  | .sample .lenZero => some (.ok 0)
  | .sample .lenOne => some (.ok 1)
  | .sample .boolOverLen => some (.ok 0)
  | .sample .lenNegative => some (.error negativeLength)
  | .sample .lenRaises => some (.error refusedLength)
  | _ => Option.none

-- An object without an answer of its own is true unless it is empty, and true without a length.
def truthByLength (o : Object) : Except Raised Bool :=
  match o.length? with
  | some (.ok n) => .ok (n ≠ 0)
  | some (.error e) => .error e
  | Option.none => .ok true

-- What a class says about truth has to be one of the two.
def readTruth : Object → Except Raised Bool
  | .bool b => .ok b
  | other => .error (.native "TypeError" ("__bool__ should return bool, returned " ++ other.className))

def truth : Object → Step Bool
  | .none => .of (.ok false)
  | .bool b => .of (.ok b)
  | .int n => .of (.ok (n ≠ 0))
  | .float bits => .of (.ok (!Double.isZero bits))
  | .masked n _ => .of (.ok (n ≠ 0))
  | .derived _ base => base.truth
  | .own c base =>
    if c.methods.contains .truth then ((Object.own c base).ask .truth []).bind fun answer => .of (readTruth answer)
    else base.truth
  | .sample .boolRaises => .of (.error noTruth)
  | .sample .noTruth => .of (.error noTruth)
  | .sample .boolInt => .of (readTruth (.int 1))
  | .sample .boolFalse => .of (.ok false)
  | .sample .boolOverLen => .of (.ok true)
  | other => .of other.truthByLength

def readIndex (o : Object) : Except Raised Int :=
  match o.integer? with
  | some n => .ok n
  | Option.none => .error (.native "TypeError" ("__index__ returned non-int (type " ++ o.className ++ ")"))

-- The number an object stands for where an integer is wanted. A few objects that are no numbers offer
-- one.
def index? (o : Object) : Option (Step Int) :=
  match o.integer? with
  | some n => some (.of (.ok n))
  | Option.none =>
    match o with
    | .sample .hasIndex => some (.of (.ok 9))
    | .own c base =>
      if c.methods.contains .index then
        some (((Object.own c base).ask .index []).bind fun answer => .of (readIndex answer))
      else base.index?
    | _ => Option.none

def index (o : Object) : Step Int :=
  o.index?.getD (.of (.error (.native "TypeError"
    ("'" ++ o.className ++ "' object cannot be interpreted as an integer"))))

end RecordBridge.Guest.Object
