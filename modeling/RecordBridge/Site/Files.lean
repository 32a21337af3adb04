import RecordBridge.Guest.Script

namespace RecordBridge

inductive Node where
  | directory
  -- A file may have fewer bytes than the header of a library.
  | file (source : Guest.Source) (isShort : Bool)

structure Site where
  -- Where the installed files are.
  directory : Bytes
  -- What stands at a place, the root being the empty one. Relative paths start at the root as well.
  nodes : List (List Bytes × Node)
  -- Libraries that can be opened by name.
  libraries : List String
  -- Where they are.
  libraryDirectory : String
  -- What the methods do of the classes that the files make.
  code : Guest.Code

-- Why a path leads to no text.
inductive PathFault where
  | containsNul
  | missing
  | isDirectory
  | notDirectory
  | nameTooLong
  | notText
  deriving DecidableEq, Repr

namespace PathFault

def system (text : String) (number : Nat) : String := text ++ s!" (os error {number})"

def message : PathFault → String
  | .containsNul => "file name contained an unexpected NUL byte"
  | .missing => system "No such file or directory" 2
  | .isDirectory => system "Is a directory" 21
  | .notDirectory => system "Not a directory" 20
  | .nameTooLong => system "File name too long" 36
  | .notText => "stream did not contain valid UTF-8"

end PathFault

namespace Site

def find? (site : Site) (place : List Bytes) : Option Node :=
  (site.nodes.find? fun entry => entry.1 = place).map (·.2)

def maxComponent : Nat := 255

def maxPath : Nat := 4095

-- Walks from a place along components. Every place on the way has to be a directory, the last one
-- need not be.
def walk (site : Site) : List Bytes → List Bytes → Except PathFault Node
  | place, [] =>
    match site.find? place with
    | some node => .ok node
    | none => .error .missing
  | place, component :: rest =>
    match site.find? place with
    | none => .error .missing
    | some (.file _ _) => .error .notDirectory
    | some .directory =>
      if maxComponent < component.length then .error .nameTooLong
      else site.walk (Path.into place component) rest

def open? (site : Site) (path : Bytes) : Except PathFault Node :=
  if path.contains 0 then .error .containsNul
  else if path = [] then .error .missing
  else if maxPath < path.length then .error .nameTooLong
  else site.walk [] (Path.components path)

-- The text at a path.
def read (site : Site) (path : Bytes) : Except PathFault Guest.Source :=
  match site.open? path with
  | .error fault => .error fault
  | .ok .directory => .error .isDirectory
  | .ok (.file (.undecodable _) _) => .error .notText
  | .ok (.file source _) => .ok source

def withoutFinalNul (name : List Char) : List Char :=
  if name.getLast? = some '\x00' then name.dropLast else name

def unopened (reason : String) : String := "cannot open shared object file: " ++ reason

def noFileData : String := "cannot read file data: Is a directory"

-- Why what stands at a path is no library. Files hold scripts, never libraries.
def refusal (site : Site) (path : Bytes) : String :=
  match site.open? path with
  | .error .notDirectory => unopened "Not a directory"
  | .error .nameTooLong => unopened "File name too long"
  | .error _ => unopened "No such file or directory"
  | .ok .directory => noFileData
  | .ok (.file _ isShort) => if isShort then "file too short" else "invalid ELF header"

-- A name without a separator is looked for where libraries are. All that it can be there is a
-- directory, and that is told with the path.
def libraryFault (site : Site) (name : String) : String :=
  let path := Utf8.encode name
  if path.contains Path.separator then name ++ ": " ++ site.refusal path
  else if path = Path.here ∨ path = Path.above then
    site.libraryDirectory ++ "/" ++ name ++ ": " ++ noFileData
  else if maxComponent < path.length then name ++ ": " ++ unopened "File name too long"
  else name ++ ": " ++ unopened "No such file or directory"

-- Opening a shared library: nothing, or the loader's reason.
def preload (site : Site) (library : String) : Except String Unit :=
  let name := withoutFinalNul library.toList
  if name.contains '\x00' then
    .error (if name.length < library.length then
      "could not create a C string from bytes with trailing null"
    else "could not create a C string from bytes")
  else if site.libraries.contains (String.ofList name) then .ok ()
  else .error (site.libraryFault (String.ofList name))

end Site
end RecordBridge
