import RecordBridge.Bridge.Error
import RecordBridge.Custody.Store
import RecordBridge.Guest.Import

namespace RecordBridge

-- A callable that was looked up once. The names are those under which it was asked for.
structure Callable where
  module : String
  function : String
  call : List Guest.Object → Guest.Step Guest.Object

structure World where
  site : Site
  -- Whether the interpreter has been started. It is never stopped.
  running : Bool
  interpreter : Guest.Interpreter
  store : Store
  callables : List (String × Callable)

inductive Outcome (α : Type) where
  | returned (a : α)
  | failed (error : BridgeError)
  | panicked
  | exited (status : UInt8)
  deriving Repr

def Bridge (α : Type) : Type := World → Outcome α × World

namespace World

def initial (site : Site) : World :=
  ⟨site, false, { Guest.Interpreter.initial with code := site.code }, .initial, []⟩

def settle (world : World) (change : Ledger → Ledger) : World :=
  { world with store := world.store.settle change }

def isHeld (world : World) : Bool := world.store.ledger.isHeld

def events (world : World) : List Event := world.store.ledger.events

end World

namespace Bridge

variable {α β : Type}

def pure (a : α) : Bridge α := fun world => (.returned a, world)

def bind (first : Bridge α) (next : α → Bridge β) : Bridge β := fun world =>
  match first world with
  | (.returned a, world) => next a world
  | (.failed error, world) => (.failed error, world)
  | (.panicked, world) => (.panicked, world)
  | (.exited status, world) => (.exited status, world)

instance : Monad Bridge where
  pure := Bridge.pure
  bind := Bridge.bind

def fail (error : BridgeError) : Bridge α := fun world => (.failed error, world)

def panic : Bridge α := fun world => (.panicked, world)

def exit (status : UInt8) : Bridge α := fun world => (.exited status, world)

def get : Bridge World := fun world => (.returned world, world)

def log (event : Event) : Bridge Unit := fun world =>
  (.returned (), world.settle (·.record event))

def onStore (change : Store → α × Store) : Bridge α := fun world =>
  let done := change world.store
  (.returned done.1, { world with store := done.2 })

-- A step of the interpreter. What it raises is for the bridge to deal with.
def onInterpreter (step : Guest.Step α) : Bridge (Except Guest.Raised α) := fun world =>
  let done := step world.interpreter
  (.returned done.1, { world with interpreter := done.2 })

def onProgram (step : Guest.Program → Except Guest.Raised α × Guest.Program) :
    Bridge (Except Guest.Raised α) :=
  onInterpreter fun interpreter =>
    let done := step interpreter.program
    (done.1, { interpreter with program := done.2 })

end Bridge
end RecordBridge
