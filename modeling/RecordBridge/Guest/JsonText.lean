import RecordBridge.Guest.Repr

namespace RecordBridge.Guest.JsonText

def unit (n : Nat) : Text := Repr.escape 'u' 4 n

def escapePoint (p : CodePoint) : Text :=
  let n := p.val
  if n = 0x22 then Text.ofString "\\\""
  else if n = 0x5c then Text.ofString "\\\\"
  else if n = 0x0a then Text.ofString "\\n"
  else if n = 0x0d then Text.ofString "\\r"
  else if n = 0x09 then Text.ofString "\\t"
  else if n = 0x0c then Text.ofString "\\f"
  else if n = 0x08 then Text.ofString "\\b"
  else if 0x20 ≤ n && n < 0x7f then [p]
  else if n < 0x10000 then unit n
  else unit (0xD800 + (n - 0x10000) / 0x400) ++ unit (0xDC00 + (n - 0x10000) % 0x400)

def quote (text : Text) : Text := Repr.enclose '"' (text.flatMap escapePoint)

end RecordBridge.Guest.JsonText
