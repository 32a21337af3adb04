import RecordBridge.Text.Pieces
import RecordBridge.Text.Utf8

namespace RecordBridge.Path

def separator : UInt8 := 0x2f

def here : Bytes := [0x2e]

def above : Bytes := [0x2e, 0x2e]

def components (path : Bytes) : List Bytes := Pieces.split separator path

-- One component further from a place. The root is above itself.
def into (place : List Bytes) (component : Bytes) : List Bytes :=
  if component = [] ∨ component = here then place
  else if component = above then place.dropLast
  else place ++ [component]

-- The place a path names when nothing on the way is a link.
def place (path : Bytes) : List Bytes := (components path).foldl into []

-- How an absolute path begins. Two separators in front are not the same as one, more are.
def root (path : Bytes) : Bytes :=
  if (path.takeWhile (· = separator)).length = 2 then [separator, separator] else [separator]

-- The directory of a file, without detours. A path that is not absolute starts at the root.
def parent (path : Bytes) : Bytes :=
  root path ++ Pieces.join separator (place path).dropLast

end RecordBridge.Path
