import RecordBridge.Text.Quoted

namespace RecordBridge

inductive Level where
  | error
  | warn
  | info
  | debug
  | trace
  deriving DecidableEq, Repr

namespace Level

def name : Level → String
  | .error => "ERROR"
  | .warn => "WARN"
  | .info => "INFO"
  | .debug => "DEBUG"
  | .trace => "TRACE"

-- The number of levels up to this one, the most severe first.
def rank : Level → Nat
  | .error => 1
  | .warn => 2
  | .info => 3
  | .debug => 4
  | .trace => 5

end Level

-- A field is a text, which a log line quotes, or anything else, which it prints as it is.
inductive FieldValue where
  | text (s : String)
  | shown (s : String)
  deriving DecidableEq, Repr

namespace FieldValue

def content : FieldValue → String
  | .text s => s
  | .shown s => s

def inLine : FieldValue → String
  | .text s => Quoted.text s
  | .shown s => s

end FieldValue

inductive Event where
  | interpreterInitialized
  | alreadyInitialized
  | libraryPreloaded (library : String)
  | libraryNotOpened (library reason : String)
  | scriptNotFound (path reason : String)
  | scriptFailed (path : String)
  | scriptCompleted (path : String)
  | streamNotFlushed (stream reason : String)
  | moduleImported (module : String)
  | moduleMissing (module : String)
  | functionNotFound (module function : String)
  | functionNotCallable (module function : String)
  | callableFound (module function : String)
  | transformResult (function result : String)
  | hashNotInteger (function result : String)
  | argumentNotConverted (function : String)
  | callFailed (module function : String)
  | nestedAcquisition (depth : Nat)
  | inputExhausted (processed : Nat)
  deriving DecidableEq, Repr

namespace Event

def level : Event → Level
  | .interpreterInitialized | .scriptCompleted _ | .moduleImported _ | .callableFound _ _
  | .inputExhausted _ => .info
  | .alreadyInitialized | .libraryPreloaded _ => .debug
  | .streamNotFlushed _ _ | .nestedAcquisition _ => .warn
  | .transformResult _ _ => .trace
  | .libraryNotOpened _ _ | .scriptNotFound _ _ | .scriptFailed _ | .moduleMissing _
  | .functionNotFound _ _ | .functionNotCallable _ _ | .hashNotInteger _ _
  | .argumentNotConverted _ | .callFailed _ _ => .error

-- An event whose text is long in the making, so that it is first asked if anybody wants one of its
-- level.
def isAskedFor : Event → Bool
  | .transformResult _ _ => true
  | _ => false

-- The part of the bridge that an event comes from, as filters name it.
def target : Event → String
  | .interpreterInitialized | .alreadyInitialized | .libraryPreloaded _ | .libraryNotOpened _ _
  | .scriptNotFound _ _ | .scriptFailed _ | .scriptCompleted _ | .streamNotFlushed _ _ =>
    "streampy::runtime"
  | .moduleImported _ | .moduleMissing _ | .functionNotFound _ _ | .functionNotCallable _ _
  | .callableFound _ _ => "streampy::loader"
  | .transformResult _ _ | .hashNotInteger _ _ | .argumentNotConverted _ | .callFailed _ _ =>
    "streampy::invoke"
  | .nestedAcquisition _ => "streampy::lock"
  | .inputExhausted _ => "streampy"

def message : Event → String
  | .interpreterInitialized => "Interpreter initialized"
  | .alreadyInitialized => "Interpreter already initialized"
  | .libraryPreloaded _ => "Preloaded interpreter library"
  | .libraryNotOpened _ _ => "Fatal error: could not open interpreter library"
  | .scriptNotFound _ _ => "Setup script not found"
  | .scriptFailed _ => "Setup script failed"
  | .scriptCompleted _ => "Setup script completed"
  | .streamNotFlushed _ _ => "Could not flush interpreter stream"
  | .moduleImported _ => "Imported module"
  | .moduleMissing _ => "Fatal error: missing module"
  | .functionNotFound _ _ => "Fatal error: function not found"
  | .functionNotCallable _ _ => "Fatal error: function not callable"
  | .callableFound _ _ => "Callable function"
  | .transformResult _ _ => "Transform result"
  | .hashNotInteger _ _ => "Fatal error: hash function did not return an integer"
  | .argumentNotConverted _ => "Fatal error: argument conversion failed"
  | .callFailed _ _ => "Fatal error: call failed"
  | .nestedAcquisition _ => "Nested execution lock acquisition"
  | .inputExhausted _ => "Input exhausted"

def fields : Event → List (String × FieldValue)
  | .interpreterInitialized | .alreadyInitialized => []
  | .libraryPreloaded library => [("library", .text library)]
  | .libraryNotOpened library reason => [("library", .text library), ("error", .shown reason)]
  | .scriptNotFound path reason => [("path", .shown path), ("error", .shown reason)]
  | .scriptFailed path | .scriptCompleted path => [("path", .shown path)]
  | .streamNotFlushed stream reason => [("stream", .text stream), ("error", .shown reason)]
  | .moduleImported module | .moduleMissing module => [("module", .text module)]
  | .functionNotFound module function | .functionNotCallable module function
  | .callableFound module function | .callFailed module function =>
    [("module", .text module), ("function", .text function)]
  | .transformResult function result | .hashNotInteger function result =>
    [("function", .text function), ("result", .shown result)]
  | .argumentNotConverted function => [("function", .text function)]
  | .nestedAcquisition depth => [("depth", .shown (toString depth))]
  | .inputExhausted processed => [("processed", .shown (toString processed))]

-- One line of a log, without the time.
def line (event : Event) : String :=
  let head := event.level.name ++ " " ++ event.target ++ ": " ++ event.message
  event.fields.foldl (fun text field => text ++ " " ++ field.1 ++ "=" ++ field.2.inLine) head

end Event
end RecordBridge
