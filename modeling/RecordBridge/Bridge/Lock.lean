import RecordBridge.Bridge.World

namespace RecordBridge.Bridge

variable {α : Type}

-- A scope without asking whether the interpreter runs: for whoever owns one of its objects.
def held (body : Bridge α) : Bridge α := fun world =>
  let done := body (world.settle Ledger.enter)
  (done.1, done.2.settle Ledger.leave)

def withLock (body : Bridge α) : Bridge α := fun world =>
  if world.running then held body world else (.failed .notInitialized, world)

def isHeld : Bridge Bool := fun world => (.returned world.isHeld, world)

def isRunning : Bridge Bool := fun world => (.returned world.running, world)

-- Asks in each of a number of nested scopes, on the way in and out, and puts the answers in front of
-- those that there are.
def nestedOnto : Nat → List Bool → Bridge (List Bool)
  | 0, answers => pure answers
  | depth + 1, answers => withLock do
    let entered ← isHeld
    let answers ← nestedOnto depth (entered :: answers)
    let leaving ← isHeld
    return leaving :: answers

-- Whether the lock is held, asked in each of a number of nested scopes on the way in and out.
def nested (depth : Nat) : Bridge (List Bool) := do
  let answers ← nestedOnto depth []
  return answers.reverse

end RecordBridge.Bridge
