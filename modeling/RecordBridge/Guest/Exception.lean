import RecordBridge.Guest.Repr

namespace RecordBridge.Guest

namespace ExceptionClass

def isBuiltin (c : ExceptionClass) (names : List String) : Bool :=
  c.home = "builtins" && names.contains c.qualifiedName

-- Error numbers that have a class of their own.
def systemErrors : List (Int × String) := [
  (1, "PermissionError"), (2, "FileNotFoundError"), (3, "ProcessLookupError"),
  (4, "InterruptedError"), (10, "ChildProcessError"), (11, "BlockingIOError"),
  (13, "PermissionError"), (17, "FileExistsError"), (20, "NotADirectoryError"),
  (21, "IsADirectoryError"), (32, "BrokenPipeError"), (103, "ConnectionAbortedError"),
  (104, "ConnectionResetError"), (108, "BrokenPipeError"), (110, "TimeoutError"),
  (111, "ConnectionRefusedError"), (114, "BlockingIOError"), (115, "BlockingIOError")]

def systemErrorNames : List String :=
  ["OSError", "ConnectionError"] ++ systemErrors.map (·.2)

def syntaxErrorNames : List String := ["SyntaxError", "IndentationError", "TabError"]

def groupNames : List String := ["BaseExceptionGroup", "ExceptionGroup"]

-- The files among the arguments of a system error after its number and its text. A number in the
-- place of a file counts what was written before the system would have blocked.
def files (c : ExceptionClass) : List Object → List Object
  | [] => []
  | file :: rest =>
    if file.isNone || (c.isBuiltin ["BlockingIOError"] && file.integer?.isSome) then []
    else file :: (rest.drop 1).filter (!·.isNone)

end ExceptionClass

namespace Message

def hexCode (n : Nat) : String :=
  if n < 0x100 then "\\x" ++ (Repr.hex 2 n).lossy
  else if n < 0x10000 then "\\u" ++ (Repr.hex 4 n).lossy
  else "\\U" ++ (Repr.hex 8 n).lossy

-- One item by itself, more as an inclusive span. Positions are machine words, also the last one.
def span (start stop : Int) (one many : String) (item? : Option String) : String :=
  match item? with
  | some item => one ++ " " ++ item ++ s!" in position {start}"
  | none => many ++ s!" in position {start}-{Int.bmod (stop - 1) UInt64.size}"

-- Whether a span is one position in front of the text, where no character is.
def isBefore (start stop : Int) : Bool := start < 0 && stop = start + 1

-- The code of the only character of a span. In front of the text all bits are set in its place.
def onlyCode? (text : Text) (start stop : Int) : Option String :=
  if isBefore start stop then some ("'" ++ hexCode 0xffffffff ++ "'")
  else if stop = start + 1 then (text[start.toNat]?).map fun p => "'" ++ hexCode p.val ++ "'"
  else none

def cannotDecode (encoding : Text) (data : Bytes) (start stop : Int) (reason : Text) : Text :=
  let item? := if stop = start + 1 then
      (data[start.toNat]?).map fun b => "0x" ++ (Repr.hex 2 b.toNat).lossy
    else none
  .ofString "'" ++ encoding ++
    .ofString ("' codec can't decode " ++ span start stop "byte" "bytes" item? ++ ": ") ++ reason

def cannotEncode (encoding text : Text) (start stop : Int) (reason : Text) : Text :=
  let place := span start stop "character" "characters" (onlyCode? text start stop)
  .ofString "'" ++ encoding ++ .ofString ("' codec can't encode " ++ place ++ ": ") ++ reason

def baseName (path : Text) : Text :=
  (path.reverse.takeWhile (·.val ≠ 0x2f)).reverse

def inFile (message file : Text) (line : Int) : Text :=
  message ++ .ofString " (" ++ baseName file ++ .ofString s!", line {line})"

-- The items of an object that can be taken apart.
def items? : Object → Option (List Object)
  | .list items => some items
  | .tuple items => some items
  | .str text => some (text.map fun p => .str [p])
  | .dict entries => some (entries.map fun entry => .str entry.1)
  | _ => none

-- Where an error in a text stands. Only a pair of a message and a place names one.
structure Place where
  file : Object
  line : Object
  offset : Object
  -- The line itself.
  content : Object
  -- Where the error ends, if it is told.
  extent : List Object

def place? : List Object → Option Place
  | [_, second] =>
    match items? second with
    | some (file :: line :: offset :: content :: extent) =>
      some ⟨file, line, offset, content, extent⟩
    | _ => none
  | _ => none

-- A number outside of the machine's words counts as minus one.
def lineNumber? : Object → Option Int
  | .int n => some (if Object.isLong n then n else -1)
  | _ => none

def located (message : Text) (place : Option Place) : Text :=
  match place.map fun place => (place.file.text?, lineNumber? place.line) with
  | some (some file, some line) => inFile message file line
  | some (some file, none) => message ++ .ofString " (" ++ baseName file ++ .ofString ")"
  | some (none, some line) => message ++ .ofString s!" (line {line})"
  | _ => message

-- Whether the place can be printed in front of the message.
def Place.isComplete (place : Place) (withExtent : Bool) : Bool :=
  let isWord := fun (o : Object) => (o.integer?.map Object.isLong).getD false
  let isOptional := fun (o : Object) => o.isNone || isWord o
  isWord place.line && isOptional place.offset &&
    (!withExtent || place.extent.all isOptional)

-- A system error with the files it is about, one renamed to the other when there are two.
def system (number text : Text) (files : List Text) : Text :=
  let place := if files.isEmpty then []
    else Text.ofString ": " ++ (Text.ofString " -> ").intercalate files
  .ofString "[Errno " ++ number ++ .ofString "] " ++ text ++ place

def cannotTranslate (text : Text) (start stop : Int) (reason : Text) : Text :=
  let place := span start stop "character" "characters" (onlyCode? text start stop)
  .ofString ("can't translate " ++ place ++ ": ") ++ reason

-- The span that a codec error on a text refused.
def refused? (c : ExceptionClass) (args : List Object) : Option (Int × Int) :=
  let unnamed := if c.isBuiltin ["UnicodeEncodeError"] then args.tail else args
  match unnamed with
  | [_, first, last, _] =>
    if c.isBuiltin ["UnicodeEncodeError", "UnicodeTranslateError"] then do
      return (← first.integer?, ← last.integer?)
    else none
  | _ => none

-- The message of a codec error: the codec, what it worked on, the span it refused, and why.
def codec? (c : ExceptionClass) : List Object → Option Text
  | [encoding, subject, first, last, reason] =>
    match encoding.text?, first.integer?, last.integer?, reason.text? with
    | some encoding, some start, some stop, some reason =>
      if c.isBuiltin ["UnicodeDecodeError"] then
        subject.data?.map fun data => cannotDecode encoding data start stop reason
      else if c.isBuiltin ["UnicodeEncodeError"] then
        subject.text?.map fun text => cannotEncode encoding text start stop reason
      else none
    | _, _, _, _ => none
  | [subject, first, last, reason] =>
    match subject.text?, first.integer?, last.integer?, reason.text? with
    | some text, some start, some stop, some reason =>
      if c.isBuiltin ["UnicodeTranslateError"] then some (cannotTranslate text start stop reason)
      else none
    | _, _, _, _ => none
  | _ => none

end Message

namespace Object

def refusal : Raised := .inProgram "RuntimeError" "no str"

mutual

-- The plain form of an object.
def display : Object → Except Raised Text
  | .str text => .ok text
  | .derived _ base => display base
  | .exception c args => if c.strRaises then .error refusal else displayArgs c args
  | .none => Object.none.repr
  | .bool b => (Object.bool b).repr
  | .int n => (Object.int n).repr
  | .float bits => (Object.float bits).repr
  | .bytes data => (Object.bytes data).repr
  | .bytearray data => (Object.bytearray data).repr
  | .list items => (Object.list items).repr
  | .tuple items => (Object.tuple items).repr
  | .dict entries => (Object.dict entries).repr
  | .masked n answer => (Object.masked n answer).repr
  | .own _ base => display base
  | .sample t => (Object.sample t).repr
  | .holder item => (Object.holder item).repr
  | .function f home => (Object.function f home).repr
  | .classRef c home => (Object.classRef c home).repr
  | .module name => (Object.module name).repr
  | .looseModule name => (Object.looseModule name).repr
  | .moduleSpec origin isFile => (Object.moduleSpec origin isFile).repr
  | .thing name => (Object.thing name).repr

-- The message of an exception with these arguments.
def displayArgs (c : ExceptionClass) : List Object → Except Raised Text
  | [] => .ok (if c.isBuiltin ExceptionClass.syntaxErrorNames then .ofString "None" else [])
  | [only] => if c.isBuiltin ["KeyError"] then only.repr else display only
  | first :: second :: rest =>
    if c.isBuiltin ExceptionClass.syntaxErrorNames then
      (display first).map (Message.located · (Message.place? (first :: second :: rest)))
    else if c.isBuiltin ExceptionClass.systemErrorNames && rest.length ≤ 3 then do
      let number ← display first
      let text ← display second
      let files ← Object.reprAll (c.files rest)
      return Message.system number text files
    else
      match Message.codec? c (first :: second :: rest) with
      | some text => .ok text
      | Option.none => (Object.reprAll (first :: second :: rest)).map Repr.tuple

end

def messageOf (c : ExceptionClass) (args : List Object) : Except Raised Text :=
  display (.exception c args)

end Object

namespace Raised

def typeError (message : String) : Raised := .native "TypeError" message

def notIndex (o : Object) : Raised :=
  typeError ("'" ++ o.className ++ "' object cannot be interpreted as an integer")

-- What is wrong with an object where a number of the machine's size is wanted.
def indexFault? (o : Object) (tooLarge : Raised) : Option Raised :=
  match o.integer? with
  | some n => if Object.isLong n then none else some tooLarge
  | none => some (notIndex o)

def textFault? (position : Nat) (o : Object) (function : String) : Option Raised :=
  if o.text?.isSome then none
  else
    let kind := if o.isNone then "None" else o.className
    some (typeError (function ++ s!"argument {position} must be str, not {kind}"))

def spanFault? (o : Object) : Option Raised :=
  indexFault? o (.native "OverflowError" "Python int too large to convert to C ssize_t")

def countFault (count given : Nat) : Raised :=
  typeError s!"function takes exactly {count} arguments ({given} given)"

-- A codec error wants a record of what happened: the codec, what it worked on, a span, and a reason.
def codecFault? (c : ExceptionClass) (args : List Object) : Option Raised :=
  if c.isBuiltin ["UnicodeDecodeError", "UnicodeEncodeError"] then
    match args with
    | [encoding, subject, first, last, reason] =>
      let isText := c.isBuiltin ["UnicodeEncodeError"]
      let bytesFault := if isText || subject.data?.isSome then none
        else some (typeError ("a bytes-like object is required, not '" ++ subject.className ++ "'"))
      (textFault? 1 encoding "").or <| (if isText then textFault? 2 subject "" else none).or <|
        (spanFault? first).or <| (spanFault? last).or <| (textFault? 5 reason "").or bytesFault
    | args => some (countFault 5 args.length)
  else if c.isBuiltin ["UnicodeTranslateError"] then
    match args with
    | [subject, first, last, reason] =>
      (textFault? 1 subject "").or <| (spanFault? first).or <| (spanFault? last).or <|
        textFault? 4 reason ""
    | args => some (countFault 4 args.length)
  else none

-- The place of an error in a text has four parts, and two more where its end is known.
def placeFault? (c : ExceptionClass) (args : List Object) : Option Raised :=
  match c.isBuiltin ExceptionClass.syntaxErrorNames, args with
  | true, [_, place] =>
    match (Message.items? place).map (·.length) with
    | none => some (typeError ("'" ++ place.className ++ "' object is not iterable"))
    | some given =>
      if given < 4 then some (typeError s!"function takes at least 4 arguments ({given} given)")
      else if 6 < given then some (typeError s!"function takes at most 6 arguments ({given} given)")
      else if given = 5 then
        some (typeError "end_offset must be provided when end_lineno is provided")
      else none
  | _, _ => none

-- A group wants a text and the exceptions in it, none of which can be had here.
def groupFault? (c : ExceptionClass) (args : List Object) : Option Raised :=
  if c.isBuiltin ExceptionClass.groupNames then
    let function := "BaseExceptionGroup.__new__() "
    match args with
    | [text, members] =>
      let memberFault := match members with
        | .dict _ => typeError "second argument (exceptions) must be a sequence"
        | members =>
          match Message.items? members with
          | none => typeError "second argument (exceptions) must be a sequence"
          | some [] =>
            .native "ValueError" "second argument (exceptions) must be a non-empty sequence"
          | some _ =>
            .native "ValueError" "Item 0 of second argument (exceptions) is not an exception"
      (textFault? 1 text function).or (some memberFault)
    | args => some (typeError (function ++ s!"takes exactly 2 arguments ({args.length} given)"))
  else none

-- A number in the place of a file is how much was written, and has to be a size.
def writtenFault? (c : ExceptionClass) (args : List Object) : Option Raised :=
  match c.isBuiltin ["BlockingIOError"], args with
  | true, _ :: _ :: file :: rest =>
    match file with
    | .float _ => if rest.length ≤ 2 then some (notIndex file) else none
    | file =>
      if file.integer?.isSome && rest.length ≤ 2 then
        indexFault? file (.native "ValueError" "cannot fit 'int' into an index-sized integer")
      else none
  | _, _ => none

-- A system error with a known number becomes an error of the class for that number.
def specific (c : ExceptionClass) (args : List Object) : ExceptionClass :=
  if c.isBuiltin ["OSError"] && 2 ≤ args.length && args.length ≤ 5 then
    let number := (args.head?.bind Object.integer?).getD 0
    ((ExceptionClass.systemErrors.lookup number).map ExceptionClass.builtin).getD c
  else c

def fault? (c : ExceptionClass) (args : List Object) : Option Raised :=
  (codecFault? c args).or <| (placeFault? c args).or <| (groupFault? c args).or <|
    writtenFault? c args

-- Making an exception of a class. A class that refuses the arguments raises an error of its own.
def make (c : ExceptionClass) (args : List Object) (traced : Bool) : Raised :=
  let c := specific c args
  match fault? c args with
  | some fault => { fault with traced := traced }
  | none => plain c args traced

def message (raised : Raised) : Except Raised Text :=
  Object.messageOf raised.exceptionClass raised.args

def unreadable : String := "<exception str() failed>"

-- One line for a log or for the host's own errors.
def summary (raised : Raised) : String :=
  raised.exceptionClass.qualifiedName ++ ": " ++
    (match raised.message with
    | .ok text => text.lossy
    | .error _ => unreadable)

def tracebackHeader : String := "Traceback (most recent call last):"

-- The name under which the interpreter prints the class.
def printedName (raised : Raised) : Text :=
  let c := raised.exceptionClass
  let isShort := c.home = "builtins" || c.home = "__main__"
  .ofString (if isShort then c.qualifiedName else c.home ++ "." ++ c.qualifiedName)

-- The place of an error in a text, if it is printed by itself.
def printedPlace? (raised : Raised) : Option Message.Place :=
  let withExtent := raised.exceptionClass.isBuiltin ["SyntaxError"]
  if raised.exceptionClass.isBuiltin ExceptionClass.syntaxErrorNames then
    (Message.place? raised.args).filter (·.isComplete withExtent)
  else none

-- The message of an error in a text stands without the place, which is printed before it.
def printedMessage (raised : Raised) : Except Raised Text :=
  match raised.args, raised.printedPlace? with
  | first :: _, some _ => if first.isNone then .ok [] else first.display
  | _, _ => raised.message

-- A line that is no text cannot be shown, and printing stops at the place before it.
def stoppedAt? (raised : Raised) : Option Text :=
  raised.printedPlace?.bind fun place =>
    if place.content.isNone || place.content.text?.isSome then none
    else
      let file := if place.file.isNone then .ok (Text.ofString "<string>") else place.file.display
      let line := (place.line.integer?).getD 0
      some (.ofString "  File \"" ++ file.toOption.getD [] ++ .ofString s!"\", line {line}")

-- A name that may have been meant is offered at the end.
def offer (raised : Raised) : Text :=
  match raised.suggestion with
  | some name => .ofString (". Did you mean: '" ++ name ++ "'?")
  | none => []

def verdict (raised : Raised) : Text :=
  match raised.printedMessage with
  | .ok [] => raised.printedName
  | .ok text => raised.printedName ++ .ofString ": " ++ text
  | .error _ => raised.printedName ++ .ofString (": " ++ unreadable)

-- Whether the message was made by looking in front of the text. Printing then stops after the name of
-- the class.
def isCutShort (raised : Raised) : Bool :=
  match Message.refused? raised.exceptionClass raised.args with
  | some (start, stop) => Message.isBefore start stop
  | none => false

def lastLine (raised : Raised) : Text :=
  if raised.isCutShort then raised.printedName
  else raised.stoppedAt?.getD (raised.verdict ++ raised.offer) ++ Text.ofString "\n"

-- What the interpreter prints for the exception, without the frames it passed through.
def printed (raised : Raised) : Text :=
  let header := if raised.traced then Text.ofString (tracebackHeader ++ "\n") else []
  header ++ raised.lastLine

-- The process status an exception asks for, when it asks for the end of the process.
def exitStatus? (raised : Raised) : Option UInt8 :=
  if raised.exceptionClass.isBuiltin ["SystemExit"] then
    match raised.args with
    | [] => some 0
    | [.none] => some 0
    | [code] =>
      match code.integer? with
      | some n => some (if Object.isLong n then UInt8.ofNat (n % 256).toNat else 255)
      | none => some 1
    | _ => some 1
  else none

end Raised
end RecordBridge.Guest
