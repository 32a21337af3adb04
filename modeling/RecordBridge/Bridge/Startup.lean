import RecordBridge.Bridge.Config
import RecordBridge.Bridge.Report

namespace RecordBridge.Bridge

def preload (library : String) : Bridge Unit := do
  let world ← get
  match world.site.preload library with
  | .ok () => log (.libraryPreloaded library)
  | .error reason =>
    log (.libraryNotOpened library reason)
    fail (.symbolPreload library reason)

def preloadConfigured (config : Config) : Bridge Unit :=
  match config.library with
  | some library => preload library
  | none => pure ()

def switchOn : Bridge Unit := fun world => (.returned (), { world with running := true })

def start : Bridge Unit := do
  if ← isRunning then log .alreadyInitialized
  else
    switchOn
    log .interpreterInitialized

def readScript (path : Bytes) : Bridge Guest.Source := do
  let world ← get
  match world.site.read path with
  | .ok source => return source
  | .error fault =>
    log (.scriptNotFound (Utf8.lossy path) fault.message)
    fail (.setupScriptMissing path fault.message)

-- Runs a script. Nothing of the host's own is named in it but the path, decoded as well as it can be.
def runScript (path : Bytes) (source : Guest.Source) : Bridge Unit := withLock do
  match ← onProgram (·.runMain (.ofString (Utf8.lossy path)) source) with
  | .ok () => return ()
  | .error e =>
    log (.scriptFailed (Utf8.lossy path))
    let message ← report e
    fail (.setupScriptFailed path message)

def bootstrap (config : Config) (path : Bytes) : Bridge Unit := do
  preloadConfigured config
  start
  let source ← readScript path
  runScript path source
  log (.scriptCompleted (Utf8.lossy path))

end RecordBridge.Bridge
