import RecordBridge.Bridge.Lock

namespace RecordBridge.Bridge

def flushOne (name : String) (flushed : Except Guest.Raised Unit) : Bridge Unit :=
  match flushed with
  | .ok () => pure ()
  | .error e => log (.streamNotFlushed name e.summary)

-- Both streams are flushed, and it is logged for each that cannot be.
def flushStreams : Bridge Unit := do
  let errors ← onInterpreter fun interpreter =>
    let done := interpreter.stderr.flush "stderr"
    (done.1, { interpreter with stderr := done.2 })
  flushOne "stderr" errors
  let output ← onInterpreter fun interpreter =>
    let done := interpreter.stdout.flush "stdout"
    (done.1, { interpreter with stdout := done.2 })
  flushOne "stdout" output

-- By the interpreter's own display; see `Guest.Interpreter`.
def showRaised (raised : Guest.Raised) : Bridge Unit := fun world =>
  (.returned (), { world with interpreter := world.interpreter.display raised })

-- An exception is shown and both streams are flushed, so that what was printed before a fatal error is not
-- lost. One that asks for the end of the process gets it instead.
def report (raised : Guest.Raised) : Bridge String := do
  match raised.exitStatus? with
  | some status =>
    let world ← get
    exit (world.interpreter.endStatus status)
  | none =>
    showRaised raised
    flushStreams
    return raised.summary

-- The form of an object for a log.
def describeIn (program : Guest.Program) (o : Guest.Object) : String :=
  match Guest.Inherited.reprIn program o with
  | .ok text => text.lossy
  | .error _ => "<unrepresentable object>"

def describe (o : Guest.Object) : Bridge String := do
  let world ← get
  return describeIn world.interpreter.program o

end RecordBridge.Bridge
