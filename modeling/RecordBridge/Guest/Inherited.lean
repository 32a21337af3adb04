import RecordBridge.Guest.Interpreter

namespace RecordBridge.Guest.Inherited

-- What every object answers to, here bound to a module.
def comparisons : List String :=
  ["__eq__", "__ne__", "__lt__", "__le__", "__gt__", "__ge__", "__subclasshook__"]

def texts : List String := ["__hash__", "__repr__", "__str__"]

def reports : List String := ["__dir__", "__getstate__", "__reduce__", "__sizeof__"]

def others : List String :=
  ["__delattr__", "__format__", "__getattribute__", "__init__", "__init_subclass__", "__new__",
    "__reduce_ex__", "__setattr__"]

def functions : List String := comparisons ++ texts ++ reports ++ others

def description : String :=
  "Create a module object.\n\n" ++
    "The name must be a string; the optional doc argument can have any type."

def member? (module name : String) : Option Object :=
  if name = "__class__" then some (.classRef .module "builtins")
  else if name = "__dict__" then some (.thing "dict")
  else if name = "__doc__" then some (.ofString description)
  else if functions.contains name then some (.function (.inherited name) module)
  else none

def wrongType (message : String) : Except Raised Object := .error (.native "TypeError" message)

def refused (function : String) (v : Object) : Except Raised Object :=
  if texts.contains function then wrongType "expected 0 arguments, got 1"
  else if reports.contains function then wrongType (function ++ "() takes no arguments (1 given)")
  else if function = "__setattr__" then wrongType " expected 2 arguments, got 1"
  else if function = "__init_subclass__" then
    wrongType "module.__init_subclass__() takes no arguments (1 given)"
  else if function = "__new__" then
    wrongType ("module.__new__(X): X is not a type object (" ++ v.className ++ ")")
  else wrongType ("'" ++ v.className ++ "' object cannot be interpreted as an integer")

-- What a module tells that does not know where it was found: its file, or else who loaded it.
def unplaced (bindings : Namespace) (title : Text) : Text :=
  let file := (Named.find? "__file__" bindings).bind Object.text?
  match file, Named.find? "__loader__" bindings with
  | some file, _ => Repr.moduleFrom title file
  | none, some (.classRef c home) => Repr.moduleIn title (Repr.classRef c home)
  | none, some (.thing name) => Repr.moduleIn title (Repr.thing name)
  | none, _ => Repr.module title []

-- A module tells where it was found. The loader of built-in modules answers for them if they have a
-- name.
def shown (program : Program) (module : String) : Text :=
  let bindings := program.bindings module
  let loader := Named.find? "__loader__" bindings
  match Named.find? "__spec__" bindings, program.title? module, loader with
  | some (.moduleSpec origin true), _, _ => Repr.moduleFrom (.ofString module) origin
  | some (.moduleSpec origin false), _, _ => Repr.moduleIn (.ofString module) origin
  | _, some title, some (.classRef .importer _) => Repr.moduleIn title (.ofString "built-in")
  | _, title, _ => unplaced bindings (title.getD (.ofString "?"))

-- The form of an object, which for a module depends on what has become of it.
def reprIn (program : Program) : Object → Except Raised Text
  | .module name => .ok (shown program name)
  | o => o.repr

def formatted (program : Program) (module : String) (v : Object) : Except Raised Object :=
  match v.text? with
  | some [] => .ok (.str (shown program module))
  | some _ => wrongType "unsupported format string passed to module.__format__"
  | none => wrongType ("__format__() argument must be str, not " ++ v.className)

def noAttribute (program : Program) (module name : String) : Raised :=
  let title := (program.title? module).elim "" fun title => " '" ++ title.lossy ++ "'"
  .native "AttributeError" ("module" ++ title ++ " has no attribute '" ++ name ++ "'")

def annotations : String := "__annotations__"

-- A name in the module, or what it has anyway. Annotations are there as soon as they are asked for.
def found (module name : String) : Step Object := fun interpreter =>
  let program := interpreter.program
  match (Named.find? name (program.bindings module)).or (member? module name) with
  | some value => (.ok value, interpreter)
  | none =>
    if name = annotations then
      (.ok (.dict []), interpreter.update (·.bind module name (.dict [])))
    else (.error (noAttribute program module name), interpreter)

-- Why a name that is not in the module cannot be taken away.
def unerased (name : String) : Raised :=
  if name = "__dict__" then .native "AttributeError" "readonly attribute"
  else if name = "__class__" then .native "TypeError" "can't delete __class__ attribute"
  else if name = annotations then .native "AttributeError" name
  else .native "AttributeError" ("'module' object has no attribute '" ++ name ++ "'")

def erased (module name : String) : Step Object := fun interpreter =>
  let bindings := interpreter.program.bindings module
  if (Named.find? name bindings).isSome then
    (.ok .none, interpreter.update (·.setBindings module (Named.erase name bindings)))
  else (.error (unerased name), interpreter)

-- A module made anew has a name and forgets where it comes from. What else is in it stays.
def renamed (module : String) (title : Text) : Step Object := fun interpreter =>
  let cleared := ["__doc__", "__package__", "__loader__", "__spec__"]
  let change := fun program : Program =>
    cleared.foldl (fun program name => program.bind module name .none)
      (program.bind module "__name__" (.str title))
  (.ok .none, interpreter.update change)

def untitled (v : Object) : Except Raised Object :=
  wrongType ("module() argument 'name' must be str, not " ++ v.className)

def unnamed (v : Object) : Except Raised Object :=
  wrongType ("attribute name must be string, not '" ++ v.className ++ "'")

-- The function's answer. `look` looks up a name in the module.
def call (look : String → Step Object) (function module : String) (v : Object) : Step Object :=
  fun interpreter =>
    if comparisons.contains function then (.ok (.thing "NotImplementedType"), interpreter)
    else
      match function, v.text? with
      | "__format__", _ => (formatted interpreter.program module v, interpreter)
      | "__init__", some title => renamed module title interpreter
      | "__init__", none => (untitled v, interpreter)
      | "__getattribute__", some name => look name.lossy interpreter
      | "__getattribute__", none => (unnamed v, interpreter)
      | "__delattr__", some name => erased module name.lossy interpreter
      | "__delattr__", none => (unnamed v, interpreter)
      | function, _ => (refused function v, interpreter)

end RecordBridge.Guest.Inherited
