import RecordBridge.Text.Utf8
import RecordBridge.Unicode.Extend
import RecordBridge.Unicode.Printable

namespace RecordBridge.Quoted

def hexDigits (n : Nat) : List Char := Nat.toDigits 16 n

-- A character that would not show, or would join the one before it, is written by its code.
def escapeChar (c : Char) : List Char :=
  match c with
  | '\x00' => ['\\', '0']
  | '\t' => ['\\', 't']
  | '\r' => ['\\', 'r']
  | '\n' => ['\\', 'n']
  | '\\' => ['\\', '\\']
  | '"' => ['\\', '"']
  | c =>
    if Unicode.attaches c.toNat || !Unicode.isPrintableNow c.toNat then
      "\\u\x7b".toList ++ hexDigits c.toNat ++ ['\x7d']
    else [c]

def enclose (body : List Char) : String := String.ofList ('"' :: body ++ ['"'])

def text (s : String) : String := enclose (s.toList.flatMap escapeChar)

def upperHex (b : UInt8) : List Char :=
  let digit := fun n => if n < 10 then Char.ofNat (0x30 + n) else Char.ofNat (0x37 + n)
  [digit (b.toNat / 16), digit (b.toNat % 16)]

def escapePiece : Utf8.Piece → List Char
  | .char c => escapeChar c
  | .illFormed _ part => part.flatMap fun b => '\\' :: 'x' :: upperHex b

-- A path need not be text: the bytes that are none are written in hexadecimal.
def path (bytes : Bytes) : String := enclose ((Utf8.scan bytes).flatMap escapePiece)

-- A sequence of shown items, as in `["a", "b"]`.
def listing (items : List String) : String := "[" ++ ", ".intercalate items ++ "]"

end RecordBridge.Quoted
