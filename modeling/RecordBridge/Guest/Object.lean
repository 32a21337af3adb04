import RecordBridge.Guest.Double
import RecordBridge.Guest.Text

namespace RecordBridge.Guest

structure ExceptionClass where
  -- The module that defines it.
  home : String
  qualifiedName : String
  -- Its instances cannot be turned into text.
  strRaises : Bool
  reprRaises : Bool
  deriving DecidableEq, Repr

namespace ExceptionClass

def builtin (name : String) : ExceptionClass := ⟨"builtins", name, false, false⟩

-- The last part of the qualified name.
def name (c : ExceptionClass) : String :=
  String.ofList (c.qualifiedName.toList.reverse.takeWhile (· ≠ '.')).reverse

end ExceptionClass

-- Sample classes, whose instances differ only in how they answer the questions asked about a result: is it
-- true, how long is it, what number is it, how is it shown.
inductive Trait where
  | plain
  | boolRaises
  | boolInt
  | boolFalse
  | lenZero
  | lenOne
  | lenNegative
  | lenRaises
  | boolOverLen
  | reprRaises
  | reprInt
  | hasIndex
  | hasInt
  | callMe
  | noTruth
  deriving DecidableEq, Repr

namespace Trait

def name : Trait → String
  | .plain => "Plain"
  | .boolRaises => "BoolRaises"
  | .boolInt => "BoolInt"
  | .boolFalse => "BoolFalse"
  | .lenZero => "LenZero"
  | .lenOne => "LenOne"
  | .lenNegative => "LenNegative"
  | .lenRaises => "LenRaises"
  | .boolOverLen => "BoolOverLen"
  | .reprRaises => "ReprRaises"
  | .reprInt => "ReprInt"
  | .hasIndex => "HasIndex"
  | .hasInt => "HasInt"
  | .callMe => "CallMe"
  | .noTruth => "NoTruth"

def all : List Trait :=
  [.plain, .boolRaises, .boolInt, .boolFalse, .lenZero, .lenOne, .lenNegative, .lenRaises,
    .boolOverLen, .reprRaises, .reprInt, .hasIndex, .hasInt, .callMe, .noTruth]

end Trait

-- The functions that the installed modules and the library offer.
inductive Operator where
  | canned
  | identity
  | noArgs
  | twoArgs
  | defaulted
  | raiseError
  | collect
  | double
  | keepEven
  | probe
  | longerThanThree
  | crc
  | wide
  | negative
  | huge
  | hugeNegative
  | notAnInt
  | explode
  | reverseBytes
  | toText
  | noTruth
  | shout
  | first
  | length
  | upper
  | checksum
  | dumps
  | missingAttribute
  -- What a module has without its body having made it.
  | inherited (name : String)
  deriving DecidableEq, Repr

-- Of what every module has, the functions that are not operators of its class.
def Operator.builtinMethods : List String := [
  "__dir__", "__format__", "__getstate__", "__init_subclass__", "__new__", "__reduce__",
  "__reduce_ex__", "__sizeof__", "__subclasshook__"]

inductive ClassRef where
  | trait (t : Trait)
  | holder
  | strSub
  | bytesSub
  | intSub
  | intAnd
  | outer
  | exception (c : ExceptionClass)
  -- A class of the interpreter's own that finds modules.
  | importer
  -- The class of modules.
  | module
  deriving DecidableEq, Repr

namespace ClassRef

def qualifiedName : ClassRef → String
  | .trait t => t.name
  | .holder => "Holder"
  | .strSub => "StrSub"
  | .bytesSub => "BytesSub"
  | .intSub => "IntSub"
  | .intAnd => "IntAnd"
  | .outer => "Outer"
  | .exception c => c.qualifiedName
  | .importer => "BuiltinImporter"
  | .module => "module"

end ClassRef

-- What a class can answer for its instances with code of its own: whether one is true, by itself or by its
-- length, what it has in common with a mask, which number it stands for, and what a call of it does.
inductive Method where
  | truth
  | mask
  | index
  | call
  deriving DecidableEq, Repr

-- A class that a program made, and the methods that it has.
structure OwnClass where
  home : String
  name : String
  methods : List Method
  deriving DecidableEq, Repr

mutual

-- Objects are values. Identity plays no part here: the host tells attached objects apart by itself.
inductive Object where
  | none
  | bool (b : Bool)
  | int (n : Int)
  | float (bits : UInt64)
  | str (text : Text)
  | bytes (data : Bytes)
  | bytearray (data : Bytes)
  | list (items : List Object)
  | tuple (items : List Object)
  | dict (entries : List (Text × Object))
  -- An instance of a subclass that changes nothing but the name of the class.
  | derived (className : String) (base : Object)
  -- A number of a class that answers for itself when it is masked with another number, if it was
  -- given an answer.
  | masked (n : Int) (answer : Option Response)
  -- An instance of a class that a program made. What that class has no method for, it answers as the
  -- object does that it is based on; it is shown as that one is.
  | own (c : OwnClass) (base : Object)
  | sample (t : Trait)
  | holder (item : Object)
  | exception (c : ExceptionClass) (args : List Object)
  -- Functions and classes belong to the module that defines them.
  | function (f : Operator) (home : String)
  | classRef (c : ClassRef) (home : String)
  | module (name : String)
  -- A module that was made and is known nowhere.
  | looseModule (name : Text)
  -- Where a module was found: in a file, or in a place of the interpreter's own.
  | moduleSpec (origin : Text) (isFile : Bool)
  -- An object of which only the class matters.
  | thing (className : String)

-- What a call is to do: give an object, raise an exception, print a text first, or build a container
-- from such parts, one after the other.
inductive Response where
  | value (o : Object)
  | raise (c : ExceptionClass) (args : List Object)
  | say (text : Text) (next : Response)
  | list (items : List Response)
  | tuple (items : List Response)
  | dict (entries : List (Text × Response))

end

-- An exception on its way. It is traced when it passed through code of the interpreted program, and
-- not when the interpreter or the bridge made it for its caller.
structure Raised where
  exceptionClass : ExceptionClass
  args : List Object
  traced : Bool
  -- A name that may have been meant by one that was not found.
  suggestion : Option String

namespace Raised

def plain (c : ExceptionClass) (args : List Object) (traced : Bool) : Raised :=
  ⟨c, args, traced, none⟩

-- Made by the interpreter itself, with one message.
def native (className message : String) : Raised :=
  plain (.builtin className) [.str (.ofString message)] false

-- Raised by a program.
def inProgram (className message : String) : Raised :=
  plain (.builtin className) [.str (.ofString message)] true

def passed (raised : Raised) : Raised := { raised with traced := true }

end Raised

namespace Object

def ofString (s : String) : Object := .str (.ofString s)

-- The name of the object's class.
def className : Object → String
  | .none => "NoneType"
  | .bool _ => "bool"
  | .int _ => "int"
  | .float _ => "float"
  | .str _ => "str"
  | .bytes _ => "bytes"
  | .bytearray _ => "bytearray"
  | .list _ => "list"
  | .tuple _ => "tuple"
  | .dict _ => "dict"
  | .derived name _ => name
  | .masked _ _ => "IntAnd"
  | .own c _ => c.name
  | .sample t => t.name
  | .holder _ => "Holder"
  | .exception c _ => c.name
  | .function .upper _ => "method_descriptor"
  | .function .checksum _ => "builtin_function_or_method"
  | .function (.inherited name) _ =>
    if Operator.builtinMethods.contains name then "builtin_function_or_method" else "method-wrapper"
  | .function _ _ => "function"
  | .classRef _ _ => "type"
  | .module _ => "module"
  | .looseModule _ => "module"
  | .moduleSpec _ _ => "ModuleSpec"
  | .thing name => name

def qualifiedClassName : Object → String
  | .exception c _ => c.qualifiedName
  | other => other.className

-- The object's content where it is text, bytes or a number, subclasses included.
def text? : Object → Option Text
  | .str text => some text
  | .derived _ base => base.text?
  | .own _ base => base.text?
  | _ => Option.none

def data? : Object → Option Bytes
  | .bytes data => some data
  | .derived _ base => base.data?
  | .own _ base => base.data?
  | _ => Option.none

def integer? : Object → Option Int
  | .bool b => some (if b then 1 else 0)
  | .int n => some n
  | .derived _ base => base.integer?
  | .masked n _ => some n
  | .own _ base => base.integer?
  | _ => Option.none

-- Whether a number fits a signed machine word of 64 bits.
def isLong (n : Int) : Bool := -0x8000000000000000 ≤ n && n < 0x8000000000000000

def isNone : Object → Bool
  | .none => true
  | _ => false

end Object
end RecordBridge.Guest
