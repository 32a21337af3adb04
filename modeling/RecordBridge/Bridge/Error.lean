import RecordBridge.Text.Quoted

namespace RecordBridge

inductive BridgeError where
  | symbolPreload (library reason : String)
  | setupScriptMissing (path : Bytes) (reason : String)
  | setupScriptFailed (path : Bytes) (message : String)
  | notInitialized
  | moduleImport (module message : String)
  | functionMissing (module function message : String)
  | notCallable (module function : String)
  | invocation (function message : String)
  | conversion (function message : String)
  | notAnInteger (function message : String)
  deriving DecidableEq, Repr

-- The phase that an error belongs to.
inductive Phase where
  | bootstrap
  | load
  | invocation
  | conversion
  deriving DecidableEq, Repr

def Phase.name : Phase → String
  | .bootstrap => "Bootstrap"
  | .load => "Load"
  | .invocation => "Invocation"
  | .conversion => "Conversion"

namespace BridgeError

def cause : BridgeError → String
  | .symbolPreload _ _ => "SymbolPreload"
  | .setupScriptMissing _ _ => "SetupScriptMissing"
  | .setupScriptFailed _ _ => "SetupScriptFailed"
  | .notInitialized => "NotInitialized"
  | .moduleImport _ _ => "ModuleImport"
  | .functionMissing _ _ _ => "FunctionMissing"
  | .notCallable _ _ => "NotCallable"
  | .invocation _ _ => "Invocation"
  | .conversion _ _ => "Conversion"
  | .notAnInteger _ _ => "NotAnInteger"

def phase : BridgeError → Phase
  | .symbolPreload _ _ | .setupScriptMissing _ _ | .setupScriptFailed _ _ | .notInitialized =>
    .bootstrap
  | .moduleImport _ _ | .functionMissing _ _ _ | .notCallable _ _ => .load
  | .invocation _ _ | .notAnInteger _ _ => .invocation
  | .conversion _ _ => .conversion

-- No error allows the operator to go on with the next record.
def isFatal (_ : BridgeError) : Bool := true

def message : BridgeError → String
  | .symbolPreload library reason => "Could not preload " ++ library ++ ": " ++ reason
  | .setupScriptMissing path reason =>
    "Setup script " ++ Utf8.lossy path ++ " not readable: " ++ reason
  | .setupScriptFailed path message =>
    "Setup script " ++ Utf8.lossy path ++ " failed: " ++ message
  | .notInitialized => "Embedded interpreter is not initialized"
  | .moduleImport module message => "Missing module " ++ module ++ ": " ++ message
  | .functionMissing module function message =>
    "Function " ++ function ++ " not found in module " ++ module ++ ": " ++ message
  | .notCallable module function =>
    "Function " ++ function ++ " in module " ++ module ++ " not callable"
  | .invocation function message => "Call to " ++ function ++ " failed: " ++ message
  | .conversion function message => "Conversion for " ++ function ++ " failed: " ++ message
  | .notAnInteger function message =>
    "Function " ++ function ++ " did not return an integer: " ++ message

-- The fields by name, each in its shown form.
def fields : BridgeError → List (String × String)
  | .symbolPreload library reason =>
    [("library", Quoted.text library), ("reason", Quoted.text reason)]
  | .setupScriptMissing path reason => [("path", Quoted.path path), ("reason", Quoted.text reason)]
  | .setupScriptFailed path message =>
    [("path", Quoted.path path), ("message", Quoted.text message)]
  | .notInitialized => []
  | .moduleImport module message =>
    [("module", Quoted.text module), ("message", Quoted.text message)]
  | .functionMissing module function message =>
    [("module", Quoted.text module), ("function", Quoted.text function),
      ("message", Quoted.text message)]
  | .notCallable module function =>
    [("module", Quoted.text module), ("function", Quoted.text function)]
  | .invocation function message | .conversion function message
  | .notAnInteger function message =>
    [("function", Quoted.text function), ("message", Quoted.text message)]

def shownFields (entries : List (String × String)) : String :=
  if entries.isEmpty then ""
  else " \x7b " ++ ", ".intercalate (entries.map fun entry => entry.1 ++ ": " ++ entry.2) ++ " \x7d"

def shown (error : BridgeError) : String :=
  "BridgeError \x7b kind: " ++ error.cause ++ shownFields error.fields ++ " \x7d"

end BridgeError
end RecordBridge
