import RecordBridge.Text.Utf8

namespace RecordBridge.Guest.Checksum

-- The check of zip files: a reflected polynomial, with all ones before and after.
def shift (n : Nat) : Nat := if n % 2 = 1 then (n / 2) ^^^ 0xEDB88320 else n / 2

def byte (crc : Nat) (b : UInt8) : Nat :=
  (List.range 8).foldl (fun n _ => shift n) (crc ^^^ b.toNat)

def crc32 (data : Bytes) : Nat := data.foldl byte 0xFFFFFFFF ^^^ 0xFFFFFFFF

end RecordBridge.Guest.Checksum
