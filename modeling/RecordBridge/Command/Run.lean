import RecordBridge.Bridge.Adapter
import RecordBridge.Bridge.Callable
import RecordBridge.Bridge.Startup
import RecordBridge.Command.Arguments
import RecordBridge.Command.Lines
import RecordBridge.Command.LogFilter

namespace RecordBridge.Command

-- What the outside sees of a run.
structure Report where
  status : UInt8
  output : Bytes
  error : Option String
  -- Whether the interpreter printed where an exception came from.
  traceback : Bool
  log : List String
  deriving DecidableEq, Repr

namespace Run

def inputOf (blob : Bool) (line : Bytes) : Value :=
  if blob then .blob ⟨line⟩ else .rstring ⟨line⟩

def terminated (content : Bytes) : Bytes := content ++ [Lines.lineFeed]

def hashRecord (code : Int32) (line : Bytes) : Bytes :=
  Utf8.encode (toString code.toInt) ++ 0x09 :: terminated line

-- Handles one line. Its output is printed whole or not at all.
def apply (callable : Callable) (operation : Operation) (input : Value) : Bridge Bytes :=
  match operation with
  | .sink => do
    Adapter.sink callable input
    return []
  | .filter => do
    if ← Adapter.filter callable input then return terminated input.bytes else return []
  | .transform => fun world =>
    let done := Adapter.transform callable input input.emptyLike world
    let finish : Bridge Bytes := do
      let filled ← fun world => (done.outcome, world)
      if filled then return terminated done.destination.bytes else return []
    finish done.world
  | .hash => do
    let code ← Adapter.hash callable input
    return hashRecord code input.bytes

-- How a run ended, what the command itself had written to its output by then, and the world it left. What the
-- interpreted program prints goes to the streams of `world.interpreter`, also where both have one descriptor.
structure Progress where
  outcome : Outcome Unit
  output : Bytes
  world : World

def Progress.after (output : Bytes) (progress : Progress) : Progress :=
  { progress with output := output ++ progress.output }

-- Works through the lines up to the first that fails.
def each (callable : Callable) (operation : Operation) (blob : Bool) : List Bytes → World → Progress
  | [], world => ⟨.returned (), [], world⟩
  | line :: rest, world =>
    match apply callable operation (inputOf blob line) world with
    | (.returned output, world) => (each callable operation blob rest world).after output
    | (.failed error, world) => ⟨.failed error, [], world⟩
    | (.panicked, world) => ⟨.panicked, [], world⟩
    | (.exited status, world) => ⟨.exited status, [], world⟩

def prepare (arguments : Arguments) (config : Config) : Bridge Callable := do
  Bridge.bootstrap config arguments.setup
  Callable.load arguments.module arguments.function

-- The end of the input is logged with the number of its lines.
def finish (lines : List Bytes) (progress : Progress) : Progress :=
  match progress.outcome with
  | .returned _ =>
    { progress with world := (Bridge.log (.inputExhausted lines.length) progress.world).2 }
  | _ => progress

def run (arguments : Arguments) (config : Config) (input : Bytes) (world : World) : Progress :=
  let lines := Lines.ofBytes input
  match prepare arguments config world with
  | (.returned callable, world) =>
    finish lines (each callable arguments.operation arguments.blob lines world)
  | (.failed error, world) => ⟨.failed error, [], world⟩
  | (.panicked, world) => ⟨.panicked, [], world⟩
  | (.exited status, world) => ⟨.exited status, [], world⟩

def status : Outcome Unit → UInt8
  | .returned _ => 0
  | .failed _ => 1
  | .panicked => 101
  | .exited status => status

def error? : Outcome Unit → Option String
  | .failed error => some error.message
  | _ => none

def traceback (world : World) : Bool :=
  match world.interpreter.stderr.sink? with
  | some sink => sink.hasTraceback
  | none => false

def report (filter : List Directive) (progress : Progress) : Report :=
  ⟨status progress.outcome, progress.output, error? progress.outcome, traceback progress.world,
    (progress.world.events.filter (LogFilter.shows filter)).map (·.line)⟩

def silent (status : UInt8) : Report := ⟨status, [], none, false, []⟩

-- A library named on the command line comes before one from the environment.
def configure (arguments : Arguments) (environment : Environment) : Config :=
  let config := Config.ofEnvironment environment
  { config with library := arguments.library.or config.library }

def invoke (site : Site) (environment : Environment) (line : List String) (input : Bytes) :
    Report :=
  match Arguments.ofLine line with
  | .help => silent 0
  | .usageError => silent 2
  | .run arguments =>
    match LogFilter.ofEnvironment? environment with
    | none => silent 101
    | some filter => report filter (run arguments (configure arguments environment) input (.initial site))

end Run
end RecordBridge.Command
