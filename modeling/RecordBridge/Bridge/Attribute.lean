import RecordBridge.Guest.Exception
import RecordBridge.Record.Value

namespace RecordBridge

open Guest (Object Raised Text)

-- What can be handed to a callable and filled from a result. Filling says what it left behind in
-- either case.
class Attribute (α : Type) where
  toObject : α → Except Raised Object
  assign : α → Object → Except Raised Unit × α

namespace Attribute

def wrongType (o : Object) (wanted : String) : Raised :=
  .native "TypeError" ("'" ++ o.qualifiedClassName ++ "' object cannot be converted to '" ++ wanted ++ "'")

def reason : Utf8.Fault → String
  | .invalidStart => "invalid start byte"
  | .invalidContinuation => "invalid continuation byte"
  | .unexpectedEnd => "unexpected end of data"

def undecodable (data : Bytes) (malformed : Utf8.Malformed) : Raised :=
  .plain (.builtin "UnicodeDecodeError")
    [.ofString "utf-8", .bytes data, .int malformed.offset,
      .int (malformed.offset + malformed.part.length), .ofString (reason malformed.fault)] false

def unencodable (text : Text) (surrogates : Guest.Text.Surrogates) : Raised :=
  .plain (.builtin "UnicodeEncodeError")
    [.ofString "utf-8", .str text, .int surrogates.offset,
      .int (surrogates.offset + surrogates.count), .ofString "surrogates not allowed"] false

end Attribute

namespace Blob

def toObject (blob : Blob) : Except Raised Object := .ok (.bytes blob.data)

def assignObject (blob : Blob) (o : Object) : Except Raised Unit × Blob :=
  match o.data? with
  | some data => (.ok (), blob.setData data)
  | none => (.error (Attribute.wrongType o "PyBytes"), blob)

end Blob

namespace RString

def toObject (text : RString) : Except Raised Object :=
  match Utf8.chars text.bytes with
  | .ok chars => .ok (.str (Guest.Text.ofChars chars))
  | .error malformed => .error (Attribute.undecodable text.bytes malformed)

def assignObject (text : RString) (o : Object) : Except Raised Unit × RString :=
  match o.text? with
  | none => (.error (Attribute.wrongType o "PyString"), text)
  | some content =>
    match content.chars with
    | .ok chars => (.ok (), text.assign (String.ofList chars))
    | .error surrogates => (.error (Attribute.unencodable content surrogates), text)

end RString

namespace Value

def toObject : Value → Except Raised Object
  | .blob content => content.toObject
  | .rstring content => content.toObject

def assignObject (value : Value) (o : Object) : Except Raised Unit × Value :=
  match value with
  | .blob content =>
    let done := content.assignObject o
    (done.1, .blob done.2)
  | .rstring content =>
    let done := content.assignObject o
    (done.1, .rstring done.2)

end Value

instance : Attribute Blob := ⟨Blob.toObject, Blob.assignObject⟩

instance : Attribute RString := ⟨RString.toObject, RString.assignObject⟩

instance : Attribute Value := ⟨Value.toObject, Value.assignObject⟩

end RecordBridge
