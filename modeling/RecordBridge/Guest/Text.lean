import RecordBridge.Text.Utf8
import RecordBridge.Unicode.Uppercase

namespace RecordBridge.Guest

-- Surrogates may stand alone, and a text with one has no UTF-8 form.
abbrev CodePoint := Fin 0x110000

abbrev Text := List CodePoint

namespace Text

def ofChar (c : Char) : CodePoint := Fin.ofNat 0x110000 c.toNat

def ofChars (cs : List Char) : Text := cs.map ofChar

def ofString (s : String) : Text := ofChars s.toList

def ofCode (n : Nat) : CodePoint := Fin.ofNat 0x110000 n

def isSurrogate (p : CodePoint) : Bool := 0xD800 ≤ p.val && p.val ≤ 0xDFFF

-- The first run of surrogates in a text: where it starts and what it consists of.
structure Surrogates where
  offset : Nat
  first : CodePoint
  count : Nat
  deriving DecidableEq, Repr

def runLength : Text → Nat
  | [] => 0
  | p :: rest => if isSurrogate p then runLength rest + 1 else 0

-- The characters of a text without surrogates.
def charsFrom (offset : Nat) : Text → Except Surrogates (List Char)
  | [] => .ok []
  | p :: rest =>
    if isSurrogate p then .error ⟨offset, p, runLength rest + 1⟩
    else (charsFrom (offset + 1) rest).map (Char.ofNat p.val :: ·)

def chars (text : Text) : Except Surrogates (List Char) := charsFrom 0 text

def encode (text : Text) : Except Surrogates Bytes := text.chars.map Utf8.encodeChars

-- A surrogate would take three bytes, none of which belongs to a character.
def lossyChars (p : CodePoint) : List Char :=
  if isSurrogate p then [Utf8.replacement, Utf8.replacement, Utf8.replacement]
  else [Char.ofNat p.val]

def lossy (text : Text) : String := String.ofList (text.flatMap lossyChars)

def upper (text : Text) : Text := text.flatMap fun p => (Unicode.upper p.val).map ofCode

end Text
end RecordBridge.Guest
