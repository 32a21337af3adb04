import RecordBridge.Text.Utf8
import RecordBridge.Record.Named

namespace RecordBridge.Command

inductive Operation where
  | sink
  | filter
  | transform
  | hash
  deriving DecidableEq, Repr

def Operation.ofName? : String → Option Operation
  | "sink" => some .sink
  | "filter" => some .filter
  | "transform" => some .transform
  | "hash" => some .hash
  | _ => none

structure Arguments where
  operation : Operation
  setup : Bytes
  module : String
  function : String
  blob : Bool
  library : Option String
  deriving DecidableEq, Repr

inductive Invocation where
  | run (arguments : Arguments)
  | help
  | usageError
  deriving DecidableEq, Repr

namespace Arguments

-- The argument whose value is still to be examined.
inductive Slot where
  | operation
  | setup
  | module
  | function
  | library
  deriving DecidableEq, Repr

def Slot.ofOption? : String → Option Slot
  | "setup" => some .setup
  | "module" => some .module
  | "function" => some .function
  | "python-library" => some .library
  | _ => none

structure Pending where
  slot : Slot
  value : Option String
  deriving DecidableEq, Repr

structure State where
  settled : List (Slot × String)
  blob : Bool
  pending : Option Pending
  -- After the mark that ends options everything is positional.
  positionalOnly : Bool
  positionals : Nat
  deriving DecidableEq, Repr

-- Why reading stops before the end of the line.
inductive Stop where
  | help
  | wrong
  deriving DecidableEq, Repr

def accepts (slot : Slot) (value : String) : Bool :=
  match slot with
  | .operation => (Operation.ofName? value).isSome
  | .setup => value ≠ ""
  | .module | .function | .library => true

-- Examines the pending value. An option without a value, a second value and a value that makes no
-- sense are all wrong.
def resolve (state : State) : Except Stop State :=
  match state.pending with
  | none => .ok state
  | some ⟨_, none⟩ => .error .wrong
  | some ⟨slot, some value⟩ =>
    if (state.settled.lookup slot).isSome || !accepts slot value then .error .wrong
    else .ok { state with settled := (slot, value) :: state.settled, pending := none }

def startOption (state : State) (slot : Slot) (value : Option String) : Except Stop State := do
  let state ← resolve state
  return { state with pending := some ⟨slot, value⟩ }

def setBlob (state : State) : Except Stop State := do
  let state ← resolve state
  if state.blob then .error .wrong else return { state with blob := true }

def askHelp (state : State) : Except Stop State := do
  let _ ← resolve state
  .error .help

-- Only one argument has no name.
def positional (state : State) (value : String) : Except Stop State :=
  if state.positionals = 0 then do
    let state ← resolve state
    return { state with pending := some ⟨.operation, some value⟩, positionals := 1 }
  else .error .wrong

-- An option by its long name, perhaps with a value after an equals sign.
def long (state : State) (name : String) (value : Option String) : Except Stop State :=
  match name, value with
  | "help", none => askHelp state
  | "blob", none => setBlob state
  | name, value =>
    match Slot.ofOption? name with
    | some slot => startOption state slot value
    | none => .error .wrong

def splitEquals (text : List Char) : String × Option String :=
  let name := text.takeWhile (· ≠ '=')
  match text.drop name.length with
  | [] => (String.ofList name, none)
  | _ :: value => (String.ofList name, some (String.ofList value))

-- Whether an option still waits for its value.
def isWaiting (state : State) : Bool :=
  match state.pending with
  | some ⟨_, none⟩ => true
  | _ => false

def supply (state : State) (value : String) : State :=
  match state.pending with
  | some pending => { state with pending := some { pending with value := some value } }
  | none => state

def plain (state : State) (value : String) : Except Stop State :=
  if isWaiting state then .ok (supply state value) else positional state value

def read (state : State) (argument : String) : Except Stop State :=
  if state.positionalOnly then positional state argument
  else
    match argument.toList with
    | ['-', '-'] =>
      if isWaiting state then .error .wrong else .ok { state with positionalOnly := true }
    | '-' :: '-' :: text =>
      let option := splitEquals text
      long state option.1 option.2
    | '-' :: 'h' :: _ => askHelp state
    | '-' :: _ :: _ => .error .wrong
    | _ => plain state argument

def readAll : State → List String → Except Stop State
  | state, [] => resolve state
  | state, argument :: rest => do
    let state ← read state argument
    readAll state rest

def find? (state : State) (slot : Slot) : Option String := state.settled.lookup slot

def complete (state : State) : Option Arguments := do
  let operation ← (find? state .operation).bind Operation.ofName?
  let setup ← find? state .setup
  let module ← find? state .module
  let function ← find? state .function
  return ⟨operation, Utf8.encode setup, module, function, state.blob, find? state .library⟩

def ofLine (line : List String) : Invocation :=
  match readAll ⟨[], false, none, false, 0⟩ line with
  | .error .help => .help
  | .error .wrong => .usageError
  | .ok state =>
    match complete state with
    | some arguments => .run arguments
    | none => .usageError

end Arguments
end RecordBridge.Command
