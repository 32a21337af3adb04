import RecordBridge.Guest.Interpreter
import RecordBridge.Site.Path

namespace RecordBridge.Guest

-- What the body of a file makes anew each time it runs.
inductive Definition where
  | function (f : Operator)
  | classRef (c : ClassRef)

-- A function knows the module whose body made it, and a class the name of that module.
def Definition.make (definition : Definition) (module title : String) : Object :=
  match definition with
  | .function f => .function f module
  | .classRef (.exception c) => .classRef (.exception { c with home := title }) title
  | .classRef c => .classRef c title

-- What the interpreter looks up among the names known everywhere each time it runs a file.
def runNames : List String := ["compile", "exec", "__import__"]

inductive Statement where
  | assign (name : String) (value : Object)
  | define (name : String) (definition : Definition)
  -- Makes a variable of the body known everywhere, under a name of its own. What a body does that puts
  -- something else in the place of what runs it is not told here.
  | publish (target name : String) (free : runNames.contains target = false)
  | increment (name : String)
  | delete (name : String)
  | raise (c : ExceptionClass) (args : List Object)
  -- Binds a module of the interpreter's own library.
  | require (library : String)
  -- Puts the directory of the running file in front of the search path, once.
  | searchHere (name : String)

-- A file of program text.
inductive Source where
  -- The bytes that are no text stand where nothing reads them, so that a module can be made of it.
  | undecodable (body : List Statement)
  -- What is raised for a text that is no program names the file.
  | unparsable (fault : Text → Raised)
  | script (body : List Statement)

namespace Statement

def noModule (name : String) : Object :=
  .str (.ofString "No module named " ++ Repr.text (.ofString name))

def notAdded (o : Object) : Raised :=
  .inProgram "TypeError"
    ("unsupported operand type(s) for +=: '" ++ o.className ++ "' and 'int'")

-- The directory of the file that the body comes from.
def directory (program : Program) (module : String) : Bytes :=
  match (program.find? module "__file__").bind Object.text? with
  | some file => Path.parent (Utf8.encode file.lossy)
  | none => []

def searchFirst (directory : Bytes) (program : Program) : Program :=
  if program.searchPath.contains directory then program
  else { program with searchPath := directory :: program.searchPath }

-- A module without a name has the one that is known everywhere.
def titleOf (program : Program) (module : String) : String :=
  (program.title? module).elim "builtins" Text.lossy

def apply (module : String) (program : Program) : Statement → Except Raised Program
  | .assign name value => .ok (program.bind module name value)
  | .define name definition => .ok (program.bind module name (definition.make module (titleOf program module)))
  | .publish target name _ =>
    match program.find? module name with
    | some value => .ok { program with builtins := Named.put target value program.builtins }
    | none => .error (program.undefined module [] name)
  | .increment name =>
    match program.find? module name with
    | none => .error (program.undefined module [] name)
    | some value =>
      match value.integer? with
      | some n => .ok (program.bind module name (.int (n + 1)))
      | none => .error (notAdded value)
  | .delete name =>
    let bindings := program.bindings module
    match Named.find? name bindings with
    | some _ => .ok (program.setBindings module (Named.erase name bindings))
    | none => .error (program.undefined module [] name)
  | .raise c args => .error (.make c args true)
  | .require library =>
    if Library.names.contains library then .ok (program.bind module library (.module library))
    else .error (.plain (.builtin "ModuleNotFoundError") [noModule library] true)
  | .searchHere name =>
    let found := directory program module
    let bound := program.bind module name (.ofString (Utf8.lossy found))
    .ok (searchFirst found bound)

-- Runs a body to its end or to the first statement that raises.
def runAll (module : String) (program : Program) : List Statement → Except Raised Unit × Program
  | [] => (.ok (), program)
  | statement :: rest =>
    match statement.apply module program with
    | .ok program => runAll module program rest
    | .error e => (.error e, program)

end Statement

namespace Source

def syntaxError (message : String) (line : Nat) (file : Text) : Raised :=
  .plain (.builtin "SyntaxError")
    [.ofString message, .tuple [.str file, .int line, .none, .none]] false

def parses : Source → Bool
  | .unparsable _ => false
  | _ => true

-- Runs the text of a file on the variables of a module. A text that does not parse runs not at all.
def run (module : String) (file : Text) (program : Program) : Source → Except Raised Unit × Program
  | .undecodable body => Statement.runAll module program body
  | .unparsable fault => (.error (fault file), program)
  | .script body => Statement.runAll module program body

end Source

def fileVariable : String := "__file__"

def builtinsVariable : String := "__builtins__"

namespace Program

-- What is known everywhere is a variable as well. Taken away by one file, it is there again for the next.
def withBuiltins (program : Program) : Program :=
  if (Named.find? builtinsVariable program.main).isSome then program
  else program.bind mainModule builtinsVariable (.thing "dict")

def forgetFile (program : Program) : Program :=
  { program with main := Named.erase fileVariable program.main }

-- Runs a file in `__main__`. What it is run with is always found, as nothing can be published in its place
-- (`runNames`). The variable that names the file exists for the duration of the run only, however the run ends
-- and whatever the file did to it.
def runMain (program : Program) (file : Text) (source : Source) : Except Raised Unit × Program :=
  let named := program.bind mainModule fileVariable (.str file)
  let ready := if source.parses then named.withBuiltins else named
  let done := source.run mainModule file ready
  (done.1, done.2.forgetFile)

end Program
end RecordBridge.Guest
