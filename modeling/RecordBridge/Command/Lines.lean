import RecordBridge.Text.Pieces
import RecordBridge.Text.Utf8

namespace RecordBridge.Command.Lines

def lineFeed : UInt8 := 0x0a

def carriageReturn : UInt8 := 0x0d

-- Nothing follows the last line feed.
def dropFinal (pieces : List Bytes) : List Bytes :=
  if pieces.getLast? = some [] then pieces.dropLast else pieces

def strip (line : Bytes) : Bytes :=
  if line.getLast? = some carriageReturn then line.dropLast else line

def ofBytes (input : Bytes) : List Bytes :=
  (dropFinal (Pieces.split lineFeed input)).map strip

end RecordBridge.Command.Lines
