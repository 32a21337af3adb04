import RecordBridge.Bridge.Attribute
import RecordBridge.Bridge.Report
import RecordBridge.Guest.Mask
import RecordBridge.Guest.Question

namespace RecordBridge.Adapter

open Bridge Guest
open Guest.Object (isLong)

variable {α β : Type} [Attribute α] [Attribute β]

-- The lock is held from the conversion until the result has been read.
def convert (callable : Callable) (value : α) : Bridge Object := do
  match Attribute.toObject value with
  | .ok argument => return argument
  | .error e =>
    log (.argumentNotConverted callable.function)
    let message ← report e
    fail (.conversion callable.function message)

def callWith (callable : Callable) (value : α) : Bridge Object := do
  let argument ← convert callable value
  match ← onInterpreter (callable.call [argument]) with
  | .ok result => return result
  | .error e =>
    log (.callFailed callable.module callable.function)
    let message ← report e
    fail (.invocation callable.function message)

-- Calls and forgets the result.
def sink (callable : Callable) (value : α) : Bridge Unit := withLock do
  let _ ← callWith callable value
  return ()

-- Calls and asks whether the result is true.
def filter (callable : Callable) (value : α) : Bridge Bool := withLock do
  let result ← callWith callable value
  match ← onInterpreter result.truth with
  | .ok truth => return truth
  | .error e =>
    let message ← report e
    fail (.invocation callable.function message)

-- What a result does to a destination: the rest of the step, and what the destination then is. A
-- result that is no object at all leaves it alone.
def fill (callable : Callable) (result : Object) (destination : β) : Bridge Bool × β :=
  if result.isNone then (return false, destination)
  else
    let filled := Attribute.assign destination result
    let finish : Bridge Bool := do
      log (.transformResult callable.function (← describe result))
      match filled.1 with
      | .ok () => return true
      | .error e =>
        let message ← report e
        fail (.conversion callable.function message)
    (finish, filled.2)

-- A transformation knows its destination however it ends.
structure Transformed (β : Type) where
  outcome : Outcome Bool
  destination : β
  world : World

def fillFrom (callable : Callable) (destination : β) : Outcome Object × World → Transformed β
  | (.returned result, world) =>
    let filled := fill callable result destination
    let done := filled.1 world
    ⟨done.1, filled.2, done.2⟩
  | (.failed error, world) => ⟨.failed error, destination, world⟩
  | (.panicked, world) => ⟨.panicked, destination, world⟩
  | (.exited status, world) => ⟨.exited status, destination, world⟩

-- Calls and puts the result into a destination, of whatever kind that is.
def transform (callable : Callable) (value : α) (destination : β) (world : World) :
    Transformed β :=
  if world.running then
    let called := callWith callable value (world.settle Ledger.enter)
    let done := fillFrom callable destination called
    { done with world := done.world.settle Ledger.leave }
  else ⟨.failed .notInitialized, destination, world⟩

def wordMask : Nat := 0xFFFFFFFF

def notInteger (o : Object) : Raised :=
  .native "TypeError" ("hash result must be an int, not " ++ o.className)

def overflow (message : String) : Raised := .native "OverflowError" message

-- A number as a word of 32 bits. The interpreter hands over no number wider than 64 bits.
def word (n : Int) : Except Raised UInt32 :=
  if !isLong n then .error (overflow "Python int too large to convert to C long")
  else if n < 0 then .error (overflow "number too small to fit in target type")
  else if wordMask < n then .error (overflow "number too large to fit in target type")
  else .ok (UInt32.ofNat n.toNat)

def lowWord (result : Object) : Step UInt32 :=
  match result.integer? with
  | none => .of (.error (notInteger result))
  | some _ => (result.mask wordMask).bind fun masked => masked.index.bind fun n => .of (word n)

-- Calls and takes the low 32 bits of the number it gets, however wide, as a signed number.
def hash (callable : Callable) (value : α) : Bridge Int32 := withLock do
  let result ← callWith callable value
  match ← onInterpreter (lowWord result) with
  | .ok low => return low.toInt32
  | .error e =>
    log (.hashNotInteger callable.function (← describe result))
    let message ← report e
    fail (.notAnInteger callable.function message)

end RecordBridge.Adapter
