import RecordBridge.Text.Quoted

namespace RecordBridge

structure Blob where
  data : Bytes
  deriving DecidableEq, Repr

-- Meant to be text, but nothing looks whether it is UTF-8 before somebody needs the text.
structure RString where
  bytes : Bytes
  deriving DecidableEq, Repr

inductive Value where
  | blob (content : Blob)
  | rstring (content : RString)
  deriving DecidableEq, Repr

namespace Blob

def setData (_ : Blob) (data : Bytes) : Blob := ⟨data⟩

def shown (blob : Blob) : String := s!"Blob({blob.data.length} bytes)"

end Blob

namespace RString

def ofText (text : String) : RString := ⟨Utf8.encode text⟩

def assign (_ : RString) (text : String) : RString := ofText text

def text? (text : RString) : Option String := Utf8.text? text.bytes

def display (text : RString) : String := Utf8.lossy text.bytes

def shown (text : RString) : String := Quoted.text text.display

-- Byte by byte, the shorter first when one starts with the other.
def compareBytes : Bytes → Bytes → Ordering
  | [], [] => .eq
  | [], _ :: _ => .lt
  | _ :: _, [] => .gt
  | a :: as, b :: bs => if a < b then .lt else if b < a then .gt else compareBytes as bs

def compare (a b : RString) : Ordering := compareBytes a.bytes b.bytes

end RString

namespace Value

def bytes : Value → Bytes
  | .blob b => b.data
  | .rstring text => text.bytes

-- An empty value of the same kind.
def emptyLike : Value → Value
  | .blob _ => .blob ⟨[]⟩
  | .rstring _ => .rstring ⟨[]⟩

def rstring? : Value → Option RString
  | .blob _ => none
  | .rstring text => some text

-- The number that stands for the kind on the wire.
def tag : Value → UInt32
  | .blob _ => 1
  | .rstring _ => 2

def shown : Value → String
  | .blob b => s!"Blob({b.shown})"
  | .rstring text => s!"RString({text.shown})"

end Value
end RecordBridge
