import RecordBridge.Bridge.Report

namespace RecordBridge.Callable

open Bridge

def shown (callable : Callable) : String :=
  "Callable(" ++ callable.module ++ "." ++ callable.function ++ ")"

def importModule (module : String) : Bridge Unit := do
  let world ← get
  match ← onProgram (Guest.Program.load world.site module) with
  | .ok () => log (.moduleImported module)
  | .error e =>
    log (.moduleMissing module)
    let message ← report e
    fail (.moduleImport module message)

def find (module function : String) : Bridge Guest.Object := do
  match ← onInterpreter (Guest.Interpreter.lookup module function) with
  | .ok found => return found
  | .error e =>
    log (.functionNotFound module function)
    let message ← report e
    fail (.functionMissing module function message)

def load (module function : String) : Bridge Callable := withLock do
  importModule module
  let found ← find module function
  match found.call? with
  | some call =>
    log (.callableFound module function)
    return ⟨module, function, call⟩
  | none =>
    log (.functionNotCallable module function)
    fail (.notCallable module function)

end RecordBridge.Callable
