import RecordBridge.Guest.Exception

namespace RecordBridge.Guest

-- What the object in the place of a stream does when it is flushed.
inductive Flushing where
  | works
  | raises
  | absent
  deriving DecidableEq, Repr

structure Sink where
  flushing : Flushing
  -- Put there in the place of the interpreter's own stream.
  replaced : Bool
  text : String
  -- Written since the last flush that worked.
  pending : Bool
  deriving DecidableEq, Repr

inductive Stream where
  | sink (s : Sink)
  -- The name stands for nothing.
  | nothing
  -- The name is gone; what it stood for before is remembered.
  | deleted (last : Option Sink)
  deriving DecidableEq, Repr

namespace Sink

def standard : Sink := ⟨.works, false, "", false⟩

def replacement (flushing : Flushing) : Sink := ⟨flushing, true, "", false⟩

def write (s : Sink) (text : Text) : Sink :=
  { s with text := s.text ++ text.lossy, pending := s.pending || !text.isEmpty }

def flushed (s : Sink) : Sink := { s with pending := false }

-- A carriage return right before the end of a line belongs to the end.
def lines (s : Sink) : List String := (s.text.replace "\r\n" "\n").splitOn "\n"

-- The last line that is not empty.
def lastLine? (s : Sink) : Option String := (s.lines.filter (!·.isEmpty)).getLast?

def hasTraceback (s : Sink) : Bool := s.lines.contains Raised.tracebackHeader

end Sink

namespace Stream

def standard : Stream := .sink .standard

-- The object whose text the stream's name answers for.
def sink? : Stream → Option Sink
  | .sink s => some s
  | .nothing => none
  | .deleted last => last

-- A display that has nowhere to go is lost.
def display (stream : Stream) (text : Text) : Stream :=
  match stream with
  | .sink s => .sink (s.write text)
  | other => other

def noFlush (className : String) : Raised :=
  .native "AttributeError" ("'" ++ className ++ "' object has no attribute 'flush'")

-- Flushes the stream that `sys` knows by this name.
def flush (name : String) (stream : Stream) : Except Raised Unit × Stream :=
  match stream with
  | .sink s =>
    match s.flushing with
    | .works => (.ok (), .sink s.flushed)
    | .raises => (.error (.inProgram "OSError" "cannot flush"), stream)
    | .absent => (.error (noFlush "NoFlush"), stream)
  | .nothing => (.error (noFlush "NoneType"), stream)
  | .deleted _ =>
    (.error (.native "AttributeError" ("module 'sys' has no attribute '" ++ name ++ "'")), stream)

-- Printing by a program, which does notice that there is nowhere to print.
def print (name : String) (stream : Stream) (text : Text) : Except Raised Unit × Stream :=
  match stream with
  | .sink s => (.ok (), .sink (s.write text))
  | .nothing =>
    (.error (.inProgram "AttributeError" "'NoneType' object has no attribute 'write'"), stream)
  | .deleted _ =>
    (.error (.inProgram "AttributeError" ("module 'sys' has no attribute '" ++ name ++ "'")), stream)

-- Whether the stream can be flushed when the process ends; a stream that is not there need not be.
def closes : Stream → Bool
  | .sink s => s.flushing = .works
  | _ => true

end Stream
end RecordBridge.Guest
