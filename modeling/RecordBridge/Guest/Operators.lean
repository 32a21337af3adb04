import RecordBridge.Guest.Checksum
import RecordBridge.Guest.Inherited
import RecordBridge.Guest.JsonText
import RecordBridge.Guest.Numeral
import RecordBridge.Guest.Question
import RecordBridge.Guest.Signature

namespace RecordBridge.Guest

namespace Operator

def signature : Operator → Signature
  | .canned => ⟨"canned", [], 0⟩
  | .identity => ⟨"identity", ["v"], 0⟩
  | .noArgs => ⟨"no_args", [], 0⟩
  | .twoArgs => ⟨"two_args", ["a", "b"], 0⟩
  | .defaulted => ⟨"defaulted", ["a"], 1⟩
  | .raiseError => ⟨"raise_error", ["v"], 0⟩
  | .collect => ⟨"collect", ["value"], 0⟩
  | .double => ⟨"double", ["value"], 0⟩
  | .keepEven => ⟨"keep_even", ["value"], 0⟩
  | .probe => ⟨"probe", ["value"], 0⟩
  | .longerThanThree => ⟨"longer_than_three", ["value"], 0⟩
  | .crc => ⟨"crc", ["value"], 0⟩
  | .wide => ⟨"wide", ["value"], 0⟩
  | .negative => ⟨"negative", ["value"], 0⟩
  | .huge => ⟨"huge", ["value"], 0⟩
  | .hugeNegative => ⟨"huge_negative", ["value"], 0⟩
  | .notAnInt => ⟨"not_an_int", ["value"], 0⟩
  | .explode => ⟨"explode", ["value"], 0⟩
  | .reverseBytes => ⟨"reverse_bytes", ["value"], 0⟩
  | .toText => ⟨"to_text", ["value"], 0⟩
  | .noTruth => ⟨"no_truth", ["value"], 0⟩
  | .shout => ⟨"shout", ["v"], 0⟩
  | .first => ⟨"first", ["v"], 0⟩
  | .length => ⟨"length", ["v"], 0⟩
  | .upper => ⟨"str.upper", ["self"], 0⟩
  | .checksum => ⟨"crc32", ["data"], 1⟩
  | .dumps => ⟨"dumps", ["obj"], 0⟩
  | .missingAttribute => ⟨"__getattr__", ["name"], 0⟩
  | .inherited name => ⟨name, ["value"], 0⟩

-- An object that has no attribute of this name.
def lacks (o : Object) (name : String) : Raised :=
  .inProgram "AttributeError" ("'" ++ o.className ++ "' object has no attribute '" ++ name ++ "'")

def toInteger (o : Object) : Except Raised Int :=
  match o.text?, o.data?, o.integer? with
  | some text, _, _ => Numeral.ofText text
  | _, some data, _ => Numeral.ofBytes data
  | _, _, some n => .ok n
  | _, _, _ => .error (.native "TypeError" ("int() argument must be a string, a bytes-like object " ++
      "or a real number, not '" ++ o.className ++ "'"))

def encoded (o : Object) : Except Raised Bytes :=
  match o.data?, o.text? with
  | some data, _ => .ok data
  | _, some text =>
    match text.encode with
    | .ok data => .ok data
    | .error s => .error (.make (.builtin "UnicodeEncodeError")
        [.ofString "utf-8", .str text, .int s.offset, .int (s.offset + s.count),
          .ofString "surrogates not allowed"] true)
  | _, _ => .error (lacks o "encode")

-- The table of results by name that `probe` looks up.
def probes : List (String × Object) := [
  ("zero", .int 0), ("float_zero", .float 0), ("empty_str", .str []), ("empty_list", .list []),
  ("empty_bytes", .bytes []), ("none", .none), ("false", .bool false), ("one", .int 1),
  ("text", .ofString "x"), ("list", .list [.int 0]), ("true", .bool true)]

def probed (table : Object) (o : Object) : Except Raised Object :=
  let entries :=
    match table with
    | .dict entries => entries
    | _ => []
  let found := o.text?.bind fun text => (entries.find? fun entry => entry.1 = text).map (·.2)
  match found with
  | some result => .ok result
  | none => .error (.make (.builtin "KeyError") [o] true)

def reversed (o : Object) : Except Raised Object :=
  match o.data?, o.text? with
  | some data, _ => .ok (.bytes data.reverse)
  | _, some [] => .ok (.bytes [])
  | _, some _ => .error (.native "TypeError" "'str' object cannot be interpreted as an integer")
  | _, _ => .error (.native "TypeError" ("'" ++ o.className ++ "' object is not reversible"))

def upperCase (o : Object) : Except Raised Object :=
  match o.text?, o.data? with
  | some text, _ => .ok (.str text.upper)
  | _, some data =>
    .ok (.bytes (data.map fun b => if 0x61 ≤ b && b ≤ 0x7a then b - 0x20 else b))
  | _, _ => .error (lacks o "upper")

def head (o : Object) : Except Raised Object :=
  match o.text?, o.data? with
  | some (p :: _), _ => .ok (.str [p])
  | some [], _ => .error (.native "IndexError" "string index out of range")
  | _, some (b :: _) => .ok (.int b.toNat)
  | _, some [] => .error (.native "IndexError" "index out of range")
  | _, _ => .error (.native "TypeError" ("'" ++ o.className ++ "' object is not subscriptable"))

def lengthOf (o : Object) : Except Raised Nat :=
  match o.length? with
  | some result => result
  | none => .error (.native "TypeError"
      ("object of type '" ++ o.className ++ "' has no len()"))

-- The exception classes that the interpreter knows by name.
def exceptionNames : List String := [
  "ArithmeticError", "AssertionError", "AttributeError", "BaseException", "BaseExceptionGroup",
  "BlockingIOError",
  "BrokenPipeError", "BufferError", "BytesWarning", "ChildProcessError", "ConnectionAbortedError",
  "ConnectionError", "ConnectionRefusedError", "ConnectionResetError", "DeprecationWarning",
  "EOFError", "EncodingWarning", "Exception", "ExceptionGroup", "FileExistsError", "FileNotFoundError",
  "FloatingPointError", "FutureWarning", "GeneratorExit", "ImportError", "ImportWarning",
  "IndentationError", "IndexError", "InterruptedError", "IsADirectoryError", "KeyError",
  "KeyboardInterrupt", "LookupError", "MemoryError", "ModuleNotFoundError", "NameError",
  "NotADirectoryError", "NotImplementedError", "OSError", "OverflowError",
  "PendingDeprecationWarning", "PermissionError", "ProcessLookupError", "RecursionError",
  "ReferenceError", "ResourceWarning", "RuntimeError", "RuntimeWarning", "StopAsyncIteration",
  "StopIteration", "SyntaxError", "SyntaxWarning", "SystemError", "SystemExit", "TabError",
  "TimeoutError", "TypeError", "UnboundLocalError", "UnicodeDecodeError", "UnicodeEncodeError",
  "UnicodeError", "UnicodeTranslateError", "UnicodeWarning", "UserWarning", "ValueError",
  "Warning", "ZeroDivisionError"]

-- The exception classes of a module that makes its own.
def ownExceptions (home : String) : List (String × ExceptionClass) := [
  ("Custom", ⟨home, "Custom", false, false⟩),
  ("Inner", ⟨home, "Outer.Inner", false, false⟩),
  ("Unprintable", ⟨home, "Unprintable", true, false⟩),
  ("BadRepr", ⟨home, "BadRepr", false, true⟩)]

-- The module of the callable whose answers are programmed.
def programmable : String := "oracle_ops"

def exceptionClass? (home name : String) : Option ExceptionClass :=
  if name = "IOError" || name = "EnvironmentError" then some (.builtin "OSError")
  else if exceptionNames.contains name then some (.builtin name)
  else (ownExceptions home).lookup name

def raised (home : String) (o : Object) : Raised :=
  match o.text?.bind fun text => exceptionClass? home text.lossy with
  | some c => .make c [o] true
  | none => .make (.builtin "KeyError") [o] true

def joined (a b : Object) : Except Raised Object :=
  match a.text?, b.text?, a.data?, b.data? with
  | some left, some right, _, _ => .ok (.str (left ++ right))
  | _, _, some left, some right => .ok (.bytes (left ++ right))
  | _, _, some _, _ =>
    .error (.native "TypeError" ("can't concat " ++ b.className ++ " to bytes"))
  | _, _, _, _ => .error (.native "TypeError" ("unsupported operand type(s) for +: '" ++
      a.className ++ "' and '" ++ b.className ++ "'"))

def attributeMade (o : Object) : Except Raised Object :=
  match o.text?.map (·.lossy) with
  | some "odd" => .error (.inProgram "ValueError" "odd attribute")
  | some "made" => .ok (.function .upper "builtins")
  | _ => .error (.make (.builtin "AttributeError") [o] true)

def serialized (o : Object) : Except Raised Object :=
  match o with
  | .none => .ok (.ofString "null")
  | o =>
    match o.text? with
    | some text => .ok (.str (JsonText.quote text))
    | none => .error (.inProgram "TypeError"
        ("Object of type " ++ o.className ++ " is not JSON serializable"))

-- A function of one argument that leaves the program as it is.
def answer (f : Operator) (home : String) (v : Object) : Except Raised Object :=
  match f with
  | .identity => .ok v
  | .defaulted => joined v (.ofString "!")
  | .raiseError => .error (raised home v)
  | .double => do
    let n ← toInteger v
    let text ← Repr.int (n * 2)
    return .str text
  | .keepEven => do
    let n ← toInteger v
    return if n % 2 = 0 then v else .none
  | .longerThanThree => do
    let n ← lengthOf v
    return .bool (3 < n)
  | .wide => .ok (.int 1099511627783)
  | .negative => .ok (.int (-5))
  | .huge => .ok (.int 1180591620717411303429)
  | .hugeNegative => .ok (.int (-1180591620717411303427))
  | .notAnInt => .ok (.ofString "seven")
  | .explode => do
    let text ← v.repr
    .error (.plain (.builtin "ValueError") [.str (.ofString "boom: " ++ text)] true)
  | .reverseBytes => reversed v
  | .toText => .ok (.ofString "text")
  | .shout => upperCase v
  | .first => head v
  | .length => do
    let n ← lengthOf v
    return .int n
  | .dumps => serialized v
  | .missingAttribute => attributeMade v
  | _ => .ok .none

-- Functions that are not written in the program's own language leave no trace in what they raise.
def upperOf (v : Object) : Except Raised Object :=
  match v.text? with
  | some text => .ok (.str text.upper)
  | none => .error (.native "TypeError" ("descriptor 'upper' for 'str' objects doesn't apply to a '" ++
      v.className ++ "' object"))

def checksumOf (v : Object) : Except Raised Object :=
  match v.data? with
  | some data => .ok (.int (Checksum.crc32 data))
  | none => .error (.native "TypeError" ("a bytes-like object is required, not '" ++ v.className ++ "'"))

def traced {α : Type} : Except Raised α → Except Raised α
  | .ok a => .ok a
  | .error e => .error e.passed

-- Answers the call with what was programmed, after noting the arguments. It is programmed in one
-- module only; made by another it answers nothing.
def cannedCall (home : String) (args : List Object) : Step Object := fun interpreter =>
  if home = programmable then
    let noted := interpreter.update fun program => { program with seen := program.seen ++ [args] }
    match noted.program.canned.give noted with
    | (result, after) => (traced result, after)
  else (.ok .none, interpreter)

def gatheredName : String := "collected"

-- What the function of a module has gathered, in a variable of that module.
def gathered (program : Program) (home : String) : List Object :=
  match Named.find? gatheredName (program.bindings home) with
  | some (.list items) => items
  | _ => []

-- What a name stands for that the function uses. The function knows its own names first.
def global (program : Program) (home : String) (locals : List String) (name : String) :
    Except Raised Object :=
  match program.find? home name with
  | some value => .ok value
  | none => .error (program.undefined home locals name)

def collectCall (home : String) (v : Object) : Step Object := fun interpreter =>
  match global interpreter.program home ["value"] gatheredName with
  | .error e => (.error e, interpreter)
  | .ok _ =>
    let items := gathered interpreter.program home ++ [v]
    (.ok (.int items.length), interpreter.update (·.bind home gatheredName (.list items)))

def memberOf (program : Program) (o : Object) (name : String) : Except Raised Object :=
  match o with
  | .module module =>
    match Named.find? name (program.bindings module) with
    | some value => .ok value
    | none => .error (Inherited.noAttribute program module name)
  | o => .error (lacks o name)

def crcCall (program : Program) (home : String) (v : Object) : Except Raised Object := do
  let data ← encoded v
  let library ← global program home ["value", "data"] "zlib"
  let _ ← memberOf program library "crc32"
  return .int (Checksum.crc32 data)

-- A name in a module. A module can answer for names it does not have.
def member (module name : String) : Step Object := fun interpreter =>
  match Inherited.found module name interpreter with
  | (.ok value, after) => (.ok value, after)
  | (.error e, after) =>
    match Named.find? "__getattr__" (after.program.bindings module) with
    | some (.function .missingAttribute _) => (traced (attributeMade (.ofString name)), after)
    | _ => (.error e, after)

def run (f : Operator) (home : String) (args : List Object) : Step Object := fun interpreter =>
  match f, args with
  | .collect, [v] => collectCall home v interpreter
  | .upper, [v] => (upperOf v, interpreter)
  | .checksum, v :: _ => (checksumOf v, interpreter)
  | .inherited name, v :: _ => Inherited.call (member home) name home v interpreter
  | .crc, v :: _ => (traced (crcCall interpreter.program home v), interpreter)
  | .probe, v :: _ =>
    let table := global interpreter.program home ["value"] "FALSY_PROBES"
    (traced (table.bind (probed · v)), interpreter)
  | .noTruth, _ :: _ =>
    let made := global interpreter.program home ["value"] "NoTruth"
    (traced (made.map fun _ => .sample .noTruth), interpreter)
  | .defaulted, [a, b] => (traced (joined a b), interpreter)
  | f, v :: _ => (traced (f.answer home v), interpreter)
  | _, [] => (.ok .none, interpreter)

def call (f : Operator) (home : String) (args : List Object) : Step Object := fun interpreter =>
  match f with
  | .canned => cannedCall home args interpreter
  | f =>
    match f.signature.fault? args.length with
    | some fault => (.error fault, interpreter)
    | none => f.run home args interpreter

end Operator

namespace ClassRef

def takesNone (name : String) (args : List Object) (made : Object) : Except Raised Object :=
  if args.isEmpty then .ok made
  else .error (.native "TypeError" (name ++ "() takes no arguments"))

-- Making an instance. None of the classes runs code of its own for it.
def make (c : ClassRef) (args : List Object) : Except Raised Object :=
  match c, args with
  | .trait t, args => takesNone t.name args (.sample t)
  | .outer, args => takesNone "Outer" args (.thing "Outer")
  | .importer, args => takesNone "BuiltinImporter" args (.thing "BuiltinImporter")
  | .module, [v] =>
    match v.text? with
    | some title => .ok (.looseModule title)
    | none => Inherited.untitled v
  | .module, _ => .ok (.looseModule [])
  | .holder, [item] => .ok (.holder item)
  | .holder, args =>
    let s : Signature := ⟨"Holder.__init__", ["self", "item"], 0⟩
    .error ((s.fault? (args.length + 1)).getD (s.missing 1))
  | .exception c, args =>
    match Raised.fault? (Raised.specific c args) args with
    | some fault => .error fault
    | none => .ok (.exception (Raised.specific c args) args)
  | .strSub, [v] => v.display.map fun text => .derived "StrSub" (.str text)
  | .strSub, _ => .ok (.derived "StrSub" (.str []))
  | .bytesSub, [v] =>
    match v.data? with
    | some data => .ok (.derived "BytesSub" (.bytes data))
    | none => .error (.native "TypeError" "string argument without an encoding")
  | .bytesSub, _ => .ok (.derived "BytesSub" (.bytes []))
  | .intSub, [v] => (Operator.toInteger v).map fun n => .derived "IntSub" (.int n)
  | .intSub, _ => .ok (.derived "IntSub" (.int 0))
  | .intAnd, [v] => (Operator.toInteger v).map fun n => .masked n none
  | .intAnd, _ => .ok (.masked 0 none)

end ClassRef

namespace Object

-- What calling the object does, if it can be called.
def call? : Object → Option (List Object → Step Object)
  | .function f home => some (f.call home)
  | .classRef c _ => some fun args interpreter => (c.make args, interpreter)
  | .sample .callMe => some fun args interpreter =>
    match args with
    | [v] => (.ok v, interpreter)
    | args =>
      let s : Signature := ⟨"CallMe.__call__", ["self", "v"], 0⟩
      (.error ((s.fault? (args.length + 1)).getD (s.missing 1)), interpreter)
  | .own c base =>
    if c.methods.contains .call then some ((Object.own c base).ask .call) else base.call?
  | _ => Option.none

end Object
end RecordBridge.Guest
