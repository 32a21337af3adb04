import RecordBridge.Guest.Library
import RecordBridge.Guest.Stream
import RecordBridge.Guest.Suggestion
import RecordBridge.Record.Named

namespace RecordBridge.Guest

-- The module that scripts run in.
def mainModule : String := "__main__"

structure Program where
  -- The directories in which modules are looked for.
  searchPath : List Bytes
  modules : List (String × Namespace)
  main : Namespace
  -- Names that scripts added to the built-in ones. What runs a file is never among them.
  builtins : Namespace
  -- What the programmable callable answers next, and the calls that it saw.
  canned : Response
  seen : List (List Object)

-- What the code of a program can get at.
structure State where
  program : Program
  stdout : Stream
  stderr : Stream

-- What the methods of a program's classes do, each at work on one object with further arguments. Nothing
-- is known of it: a method can change all of the state, and raise whatever it likes.
abbrev Code := Method → Object → List Object → State → Except Raised Object × State

-- Exceptions are shown by the interpreter's own display: there is no hook here that a program could have put in
-- its place.
structure Interpreter extends State where
  code : Code

-- A step of the program: it gives a value or raises, and leaves a state in either case.
abbrev Step (α : Type) : Type := Interpreter → Except Raised α × Interpreter

namespace Step

variable {α β : Type}

-- Changes nothing.
def of (answer : Except Raised α) : Step α := fun interpreter => (answer, interpreter)

def bind (first : Step α) (next : α → Step β) : Step β := fun interpreter =>
  match first interpreter with
  | (.ok a, after) => next a after
  | (.error e, after) => (.error e, after)

end Step

namespace Program

def mainVariables : Namespace := [
  ("__name__", .ofString mainModule), ("__doc__", .none), ("__package__", .none),
  ("__loader__", .classRef .importer "_frozen_importlib"), ("__spec__", .none),
  ("__annotations__", .dict []), ("__builtins__", .module "builtins")]

def initial : Program := ⟨[], Library.modules, mainVariables, [], .value .none, []⟩

-- The variables of a module, none of one that is not there.
def bindings (program : Program) (module : String) : Namespace :=
  if module = mainModule then program.main
  else (Named.find? module program.modules).getD []

def setBindings (program : Program) (module : String) (bindings : Namespace) : Program :=
  if module = mainModule then { program with main := bindings }
  else { program with modules := Named.put module bindings program.modules }

def bind (program : Program) (module name : String) (value : Object) : Program :=
  program.setBindings module (Named.put name value (program.bindings module))

-- A name stands for a variable of the module or else for what is known everywhere.
def find? (program : Program) (module name : String) : Option Object :=
  (Named.find? name (program.bindings module)).or (Named.find? name program.builtins)

-- The name that a module has for itself.
def title? (program : Program) (module : String) : Option Text :=
  (Named.find? "__name__" (program.bindings module)).bind Object.text?

-- A name that stands for nothing. One that was meant is looked for in the function, then in the
-- module, then among the names known everywhere.
def undefined (program : Program) (module : String) (locals : List String) (name : String) :
    Raised :=
  let known := [locals, Named.names (program.bindings module),
    builtinNames ++ Named.names program.builtins]
  { Raised.inProgram "NameError" ("name '" ++ name ++ "' is not defined") with
    suggestion := known.findSome? (Suggestion.closest? name) }

end Program

namespace Interpreter

-- No program has made a class yet.
def noCode : Code := fun _ _ _ state => (.ok .none, state)

def initial : Interpreter := ⟨⟨.initial, .standard, .standard⟩, noCode⟩

def update (interpreter : Interpreter) (change : Program → Program) : Interpreter :=
  { interpreter with program := change interpreter.program }

def print (text : Text) : Step Unit := fun interpreter =>
  let printed := interpreter.stdout.print "stdout" text
  (printed.1, { interpreter with stdout := printed.2 })

-- Shows an exception on the error stream, and tries to get it out at once.
def display (raised : Raised) (interpreter : Interpreter) : Interpreter :=
  let shown := interpreter.stderr.display raised.printed
  { interpreter with stderr := (shown.flush "stderr").2 }

-- The status of a process that ends now. Streams that cannot be flushed spoil it.
def endStatus (interpreter : Interpreter) (status : UInt8) : UInt8 :=
  if interpreter.stdout.closes && interpreter.stderr.closes then status else 120

end Interpreter

-- A method of the object's class at work. What it raises has passed through the program.
def Object.ask (o : Object) (method : Method) (args : List Object) : Step Object := fun interpreter =>
  let done := interpreter.code method o args interpreter.toState
  (done.1.mapError Raised.passed, { interpreter with toState := done.2 })

namespace Response

-- An entry of a mapping. A known key keeps its place.
def putEntry (key : Text) (item : Object) : List (Text × Object) → List (Text × Object)
  | [] => [(key, item)]
  | (known, old) :: rest =>
    if known = key then (known, item) :: rest else (known, old) :: putEntry key item rest

mutual

-- What the program does when it comes to give this answer. Parts are made one after the other, and
-- the first that raises is the last.
def give : Response → Step Object
  | .value o => fun interpreter => (.ok o, interpreter)
  | .raise c args => fun interpreter => (.error (.make c args true), interpreter)
  | .say text next => fun interpreter =>
    match Interpreter.print text interpreter with
    | (.ok _, interpreter) => give next interpreter
    | (.error e, interpreter) => (.error e, interpreter)
  | .list items => fun interpreter =>
    let made := giveAll items interpreter
    (made.1.map .list, made.2)
  | .tuple items => fun interpreter =>
    let made := giveAll items interpreter
    (made.1.map .tuple, made.2)
  | .dict entries => fun interpreter =>
    let made := giveEntries [] entries interpreter
    (made.1.map .dict, made.2)

def giveAll : List Response → Step (List Object)
  | [] => fun interpreter => (.ok [], interpreter)
  | item :: rest => fun interpreter =>
    match give item interpreter with
    | (.error e, interpreter) => (.error e, interpreter)
    | (.ok made, interpreter) =>
      let others := giveAll rest interpreter
      (others.1.map (made :: ·), others.2)

def giveEntries (made : List (Text × Object)) : List (Text × Response) → Step (List (Text × Object))
  | [] => fun interpreter => (.ok made, interpreter)
  | (key, item) :: rest => fun interpreter =>
    match give item interpreter with
    | (.error e, interpreter) => (.error e, interpreter)
    | (.ok object, interpreter) => giveEntries (putEntry key object made) rest interpreter

end

end Response
end RecordBridge.Guest
