import RecordBridge.Text.Quoted

namespace RecordBridge

-- Variables by name, with their bytes.
abbrev Environment := List (String × Bytes)

structure Config where
  -- A library to be opened for everyone before the interpreter starts.
  library : Option String
  logFilter : String
  deriving DecidableEq, Repr

namespace Config

def libraryVariable : String := "STREAMPY_PYTHON_LIBRARY"

def logVariable : String := "STREAMPY_LOG"

def initial : Config := ⟨none, "info"⟩

def setting? (environment : Environment) (name : String) : Option String :=
  ((environment.lookup name).bind Utf8.text?).filter (· ≠ "")

def ofEnvironment (environment : Environment) : Config :=
  ⟨setting? environment libraryVariable, (setting? environment logVariable).getD initial.logFilter⟩

def withLibrary (config : Config) (library : String) : Config :=
  { config with library := some library }

def shownLibrary (config : Config) : String :=
  match config.library with
  | none => "None"
  | some library => "Some(" ++ Quoted.text library ++ ")"

def shown (config : Config) : String :=
  "BridgeConfig \x7b python_library: " ++ config.shownLibrary ++ ", log_filter: " ++
    Quoted.text config.logFilter ++ " \x7d"

end Config
end RecordBridge
