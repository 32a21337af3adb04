import RecordBridge.Guest.Operators
import RecordBridge.Guest.Suggestion
import RecordBridge.Site.Files

namespace RecordBridge.Guest

-- Where a file stands that a module can be made from.
structure Found where
  path : Bytes
  source : Source
  isPackage : Bool

namespace Import

def noModule (name : String) : Raised :=
  .plain (.builtin "ModuleNotFoundError") [Statement.noModule name] false

def notPackage (name parent : String) : Raised :=
  let text := Text.ofString "No module named " ++ Repr.text (.ofString name) ++ .ofString "; " ++
    Repr.text (.ofString parent) ++ .ofString " is not a package"
  .plain (.builtin "ModuleNotFoundError") [.str text] false

def emptyName : Raised := .native "ValueError" "Empty module name"

def parts (name : String) : List String := (Pieces.split '.' name.toList).map String.ofList

-- The names to be loaded in turn: the first part, the first two parts, and so on.
def stages (name : String) : List String :=
  let parts := parts name
  (List.range parts.length).map fun n => ".".intercalate (parts.take (n + 1))

def parent (name : String) : String := ".".intercalate (parts name).dropLast

def childName (name : String) : String := (parts name).getLastD ""

-- A name that starts with a dot is below nothing, and its file is looked for without the dot.
def isBare (name : String) : Bool := (parts name).head? = some ""

def fileParts (name : String) : List String :=
  if isBare name then (parts name).tail else parts name

def library? (name : String) : Option Library :=
  Library.all.find? fun library =>
    if isBare name then library.hasFile && fileParts name = [library.name]
    else library.name = name

def pathOf (directory : Bytes) (names : List Bytes) : Bytes :=
  Pieces.join Path.separator (directory :: names)

def sourceAt? (site : Site) (directory : Bytes) (names : List Bytes) : Option Source :=
  match site.find? (Path.place directory ++ names) with
  | some (.file source _) => some source
  | _ => none

def suffix : Bytes := Utf8.encode ".py"

-- A directory with an initial file comes before a single file.
def findIn? (site : Site) (parts : List String) (directory : Bytes) : Option Found :=
  let names := parts.map Utf8.encode
  let inside := names ++ [Utf8.encode "__init__.py"]
  let single := names.dropLast ++ [names.getLastD [] ++ suffix]
  match sourceAt? site directory inside, sourceAt? site directory single with
  | some source, _ => some ⟨pathOf directory inside, source, true⟩
  | none, some source => some ⟨pathOf directory single, source, false⟩
  | none, none => none

def find? (site : Site) (program : Program) (name : String) : Option Found :=
  program.searchPath.findSome? (findIn? site (fileParts name))

def isLoaded (program : Program) (name : String) : Bool :=
  name = mainModule || (Named.find? name program.modules).isSome

def isPackage (program : Program) (name : String) : Bool :=
  (Named.find? "__path__" (program.bindings name)).isSome

def directoryOf (path : Bytes) : Bytes :=
  Pieces.join Path.separator (Path.components path).dropLast

-- Where the interpreter would keep what it made of a file.
def cachedPath (path : Bytes) : String :=
  let file := Utf8.lossy ((Path.components path).getLastD [])
  let stem := String.ofList (file.toList.take (file.length - suffix.length))
  Utf8.lossy (directoryOf path) ++ "/__pycache__/" ++ stem ++ ".cpython-311.pyc"

-- What a module's body finds before it starts. What the interpreter keeps there for itself is known
-- by class only.
def blank (name : String) (found : Found) : Namespace :=
  let file := Object.ofString (Utf8.lossy found.path)
  [("__name__", .ofString name), ("__doc__", .none),
    ("__package__", .ofString (if found.isPackage then name else parent name)),
    ("__loader__", .thing "SourceFileLoader"),
    ("__spec__", .moduleSpec (.ofString (Utf8.lossy found.path)) true)] ++
  (if found.isPackage then [("__path__", .list [.ofString (Utf8.lossy (directoryOf found.path))])]
    else []) ++
  [(fileVariable, file), ("__cached__", .ofString (cachedPath found.path)),
    ("__builtins__", .thing "dict")]

-- A loaded module is also a name in the package that holds it.
def settle (name : String) (program : Program) : Program :=
  if parent name = "" then program
  else program.bind (parent name) (childName name) (.module name)

def forget (name : String) (program : Program) : Program :=
  { program with modules := Named.erase name program.modules }

def runFound (name : String) (found : Found) (program : Program) : Except Raised Unit × Program :=
  let started := program.setBindings name (blank name found)
  match found.source.run name (.ofString (Utf8.lossy found.path)) started with
  | (.ok (), done) => (.ok (), settle name done)
  | (.error e, done) => (.error e, forget name done)

-- The names in a module, in alphabetic order.
def names (program : Program) (module : String) : List String :=
  (Named.names (program.bindings module)).mergeSort fun a b => a ≤ b

-- A name that is not there may have been a slip.
def suggesting (known : List String) (name : String) (raised : Raised) : Raised :=
  if raised.exceptionClass.isBuiltin ["AttributeError"] then
    { raised with suggestion := Suggestion.closest? name known }
  else raised

-- A package must know where it was found before anything below it is looked for.
def origin : String := "__spec__"

-- Why nothing can be loaded from below a module that is loaded. The origin is asked for by a part of
-- the library that is a program itself.
def obstacle? (program : Program) (above name : String) : Option Raised :=
  if !isPackage program above then some (notPackage name above)
  else if (Named.find? origin (program.bindings above)).isSome then none
  else
    let missing := Inherited.noAttribute program above origin
    some (suggesting (names program above) origin missing).passed

-- Loads one module whose package is loaded.
def loadStage (site : Site) (name : String) (program : Program) : Except Raised Unit × Program :=
  if isLoaded program name then (.ok (), program)
  else
    let above := parent name
    match if above = "" then none else obstacle? program above name with
    | some e => (.error e, program)
    | none =>
      match library? name, find? site program name with
      | some library, _ => (.ok (), program.setBindings name library.bindings)
      | none, some found => runFound name found program
      | none, none => (.error (noModule name), program)

def loadAll (site : Site) : List String → Program → Except Raised Unit × Program
  | [], program => (.ok (), program)
  | name :: rest, program =>
    match loadStage site name program with
    | (.ok (), program) => loadAll site rest program
    | (.error e, program) => (.error e, program)

end Import

namespace Program

-- Loads a module by its whole name. The first part of the name is asked for again at the end, and
-- must not be empty.
def load (site : Site) (name : String) (program : Program) : Except Raised Unit × Program :=
  if name = "" then (.error Import.emptyName, program)
  else
    match Import.loadAll site ((Import.stages name).filter (· ≠ "")) program with
    | (.ok (), program) =>
      (if Import.isBare name then .error Import.emptyName else .ok (), program)
    | (.error e, program) => (.error e, program)

end Program

namespace Interpreter

-- A name in a module.
def lookup (module name : String) : Step Object := fun interpreter =>
  match Operator.member module name interpreter with
  | (.ok value, after) => (.ok value, after)
  | (.error e, after) =>
    (.error (Import.suggesting (Import.names after.program module) name e), after)

end Interpreter
end RecordBridge.Guest
