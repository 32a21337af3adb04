import RecordBridge.Guest.Object
import RecordBridge.Unicode.Printable

namespace RecordBridge.Guest

namespace Repr

def hex (width n : Nat) : Text :=
  let digits := Nat.toDigits 16 n
  Text.ofChars (List.replicate (width - digits.length) '0' ++ digits)

def escape (kind : Char) (width n : Nat) : Text :=
  Text.ofChars ['\\', kind] ++ hex width n

-- Single quotes, unless that would force an escape which double quotes would not.
def quoteFor (hasSingle hasDouble : Bool) : Char :=
  if hasSingle && !hasDouble then '"' else '\''

def escapeCommon? (quote : Char) (n : Nat) : Option Text :=
  if n = quote.toNat then some (Text.ofChars ['\\', quote])
  else if n = 0x5c then some (Text.ofChars ['\\', '\\'])
  else if n = 0x0a then some (Text.ofChars ['\\', 'n'])
  else if n = 0x0d then some (Text.ofChars ['\\', 'r'])
  else if n = 0x09 then some (Text.ofChars ['\\', 't'])
  else none

def escapePoint (quote : Char) (p : CodePoint) : Text :=
  match escapeCommon? quote p.val with
  | some escaped => escaped
  | none =>
    if Unicode.isPrintable p.val then [p]
    else if p.val < 0x100 then escape 'x' 2 p.val
    else if p.val < 0x10000 then escape 'u' 4 p.val
    else escape 'U' 8 p.val

def escapeByte (quote : Char) (b : UInt8) : Text :=
  match escapeCommon? quote b.toNat with
  | some escaped => escaped
  | none => if 0x20 ≤ b && b < 0x7f then [Text.ofCode b.toNat] else escape 'x' 2 b.toNat

def enclose (quote : Char) (body : Text) : Text :=
  Text.ofChar quote :: body ++ [Text.ofChar quote]

def text (text : Text) : Text :=
  let has := fun (c : Char) => text.any (·.val = c.toNat)
  let quote := quoteFor (has '\'') (has '"')
  enclose quote (text.flatMap (escapePoint quote))

def byteQuote (data : Bytes) : Char :=
  let has := fun (c : Char) => data.any (·.toNat = c.toNat)
  quoteFor (has '\'') (has '"')

def bytes (data : Bytes) : Text :=
  let quote := byteQuote data
  Text.ofChar 'b' :: enclose quote (data.flatMap (escapeByte quote))

-- Bytes that can change. A single quote in them is escaped between double quotes too.
def bytearray (data : Bytes) : Text :=
  let body := data.flatMap (escapeByte '\'')
  Text.ofString "bytearray(b" ++ enclose (byteQuote data) body ++ Text.ofString ")"

-- Numbers with more digits are not converted to decimal text.
def maxDigits : Nat := 4300

def int (n : Int) : Except Raised Text :=
  if Nat.pow 10 maxDigits ≤ n.natAbs then
    .error (.native "ValueError"
      (s!"Exceeds the limit ({maxDigits} digits) for integer string conversion; " ++
        "use sys.set_int_max_str_digits() to increase the limit"))
  else
    let digits := Nat.toDigits 10 n.natAbs
    .ok (Text.ofChars (if n < 0 then '-' :: digits else digits))

def join (items : List Text) : Text := (Text.ofString ", ").intercalate items

def surround (left right : String) (body : Text) : Text :=
  Text.ofString left ++ body ++ Text.ofString right

-- A tuple of one keeps a comma, an argument list does not.
def tuple : List Text → Text
  | [item] => surround "(" ",)" item
  | items => surround "(" ")" (join items)

def sample : Trait → Except Raised Text
  | .reprRaises => .error (.inProgram "RuntimeError" "no repr")
  | .reprInt => .error (.native "TypeError" "__repr__ returned non-string (type int)")
  | .noTruth => .ok (.ofString "<bridge_ops.NoTruth object>")
  | t => .ok (.ofString ("<" ++ t.name ++ ">"))

-- A module by its name, with a remark on where it comes from.
def module (name remark : Text) : Text :=
  .ofString "<module " ++ text name ++ remark ++ .ofString ">"

def moduleFrom (name file : Text) : Text := module name (.ofString " from " ++ text file)

def moduleIn (name place : Text) : Text :=
  module name (.ofString " (" ++ place ++ .ofString ")")

-- Objects of which only the class matters.
def thing (className : String) : Text :=
  if className = "NotImplementedType" then .ofString "NotImplemented"
  else .ofString ("<" ++ className ++ ">")

-- Functions of a program are told apart by where they are, which is not known here.
def function : Operator → Text
  | .upper => .ofString "<method 'upper' of 'str' objects>"
  | .checksum => .ofString "<built-in function crc32>"
  | _ => .ofString "<function>"

def classRef (c : ClassRef) (home : String) : Text :=
  let name := if home = "builtins" then c.qualifiedName else home ++ "." ++ c.qualifiedName
  .ofString ("<class '" ++ name ++ "'>")

end Repr

namespace Object

mutual

def repr : Object → Except Raised Text
  | .none => .ok (.ofString "None")
  | .bool b => .ok (.ofString (if b then "True" else "False"))
  | .int n => Repr.int n
  | .float bits => .ok (.ofString (Double.repr bits))
  | .str text => .ok (Repr.text text)
  | .bytes data => .ok (Repr.bytes data)
  | .bytearray data => .ok (Repr.bytearray data)
  | .list items => (reprAll items).map fun texts => Repr.surround "[" "]" (Repr.join texts)
  | .tuple items => (reprAll items).map Repr.tuple
  | .dict entries =>
    (reprEntries entries).map fun texts => Repr.surround "\x7b" "\x7d" (Repr.join texts)
  | .derived _ base => repr base
  | .masked n _ => Repr.int n
  | .own _ base => repr base
  | .sample t => Repr.sample t
  | .holder _ => .ok (.ofString "<Holder>")
  | .exception c args =>
    if c.reprRaises then .error (.inProgram "RuntimeError" "no repr")
    else (reprAll args).map fun texts => .ofString c.name ++ Repr.surround "(" ")" (Repr.join texts)
  | .function f _ => .ok (Repr.function f)
  | .classRef c home => .ok (Repr.classRef c home)
  | .module name => .ok (Repr.module (.ofString name) [])
  | .looseModule name => .ok (Repr.module name [])
  | .moduleSpec _ _ => .ok (Repr.thing "ModuleSpec")
  | .thing name => .ok (Repr.thing name)

def reprAll : List Object → Except Raised (List Text)
  | [] => .ok []
  | item :: rest =>
    match repr item with
    | .error e => .error e
    | .ok text => (reprAll rest).map (text :: ·)

def reprEntries : List (Text × Object) → Except Raised (List Text)
  | [] => .ok []
  | (key, item) :: rest =>
    match repr item with
    | .error e => .error e
    | .ok text => (reprEntries rest).map ((Repr.text key ++ .ofString ": " ++ text) :: ·)

end

end Object
end RecordBridge.Guest
