import RecordBridge.Bridge.Config
import RecordBridge.Command.Pattern
import RecordBridge.Log.Event
import RecordBridge.Text.Pieces
import RecordBridge.Unicode.Alphanumeric
import RecordBridge.Unicode.Decimal

namespace RecordBridge.Command

-- Events of the targets that start with a text, perhaps only those with certain fields. The directive that
-- says most about an event decides.
structure Directive where
  target : Option String
  -- Fields that an event must have.
  fields : List String
  -- Events up to this rank are shown, none at all for zero.
  rank : Nat
  deriving DecidableEq, Repr

-- A directive about spans selects no event by itself.
inductive Entry where
  | events (directive : Directive)
  | spans
  deriving DecidableEq, Repr

namespace LogFilter

-- Why a directive cannot be read. Positions are counted without the blanks in front of it and applied
-- with them, so that a part can end within a character.
inductive Fault where
  | invalid
  | withinCharacter
  deriving DecidableEq, Repr

abbrev Reading (α : Type) : Type := Except Fault α

-- A text without its first bytes.
def dropBytes : Nat → List Char → Reading (List Char)
  | 0, text => .ok text
  | _, [] => .error .withinCharacter
  | n, c :: rest =>
    if c.utf8Size ≤ n then dropBytes (n - c.utf8Size) rest else .error .withinCharacter

def takeBytes : Nat → List Char → Reading (List Char)
  | 0, _ => .ok []
  | _, [] => .error .withinCharacter
  | n, c :: rest =>
    if c.utf8Size ≤ n then (takeBytes (n - c.utf8Size) rest).map (c :: ·)
    else .error .withinCharacter

def between (text : List Char) (first last : Nat) : Reading String :=
  ((dropBytes first text).bind (takeBytes (last - first))).map String.ofList

def lower (c : Char) : Char := if 'A' ≤ c ∧ c ≤ 'Z' then Char.ofNat (c.toNat + 0x20) else c

def digitsValue (digits : List Char) : Nat :=
  digits.foldl (fun value c => value * 10 + (c.toNat - 0x30)) 0

-- A level by its number. Leading zeros and a plus sign do not matter.
def numbered? (text : List Char) : Option Nat :=
  let digits := if text.head? = some '+' then text.tail else text
  if !digits.isEmpty && digits.all Char.isDigit && digitsValue digits ≤ 5 then
    some (digitsValue digits)
  else none

def named? (text : List Char) : Option Nat :=
  match String.ofList (text.map lower) with
  | "off" => some 0
  | "error" => some 1
  | "warn" => some 2
  | "info" => some 3
  | "debug" => some 4
  | "trace" => some 5
  | _ => none

def rank? (text : List Char) : Option Nat := (numbered? text).or (named? text)

-- A field by itself, or with a value that only spans are asked for.
structure Field where
  name : String
  valued : Bool
  deriving DecidableEq, Repr

-- What has been read of a directive, and the part that is being read with the place where it began.
inductive Part where
  | start
  | head (first : Nat)
  | span (first : Nat)
  | field (first : Nat)
  | fields
  | subject
  | level (first : Nat)
  deriving DecidableEq, Repr

structure Draft where
  part : Part
  target : Option String
  span : Bool
  fields : List Field
  deriving DecidableEq, Repr

def Draft.blank : Draft := ⟨.start, none, false, []⟩

def isFraction (text : List Char) : Bool :=
  match text.dropWhile Char.isDigit with
  | [] => !text.isEmpty
  | '.' :: rest => 1 < text.length && rest.all Char.isDigit
  | _ => false

-- A number that starts with a sign. As a pattern it would have nothing to repeat.
def isSignedNumber (text : List Char) : Bool :=
  match text with
  | '+' :: rest =>
    let mantissa := rest.takeWhile fun c => c ≠ 'e' && c ≠ 'E'
    let digits := (rest.drop (mantissa.length + 1)).dropWhile fun c => c = '+' || c = '-'
    ["inf", "infinity", "nan"].contains (String.ofList (rest.map lower)) ||
      (isFraction mantissa && (mantissa.length = rest.length ||
        (!digits.isEmpty && digits.all Char.isDigit &&
          rest.length ≤ mantissa.length + 2 + digits.length)))
  | _ => false

-- Behind a second sign nothing is read.
def field (text : String) : Reading Field :=
  if text = "" then .error .invalid
  else
    let name := text.toList.takeWhile (· ≠ '=')
    let value := (text.toList.drop (name.length + 1)).takeWhile (· ≠ '=')
    if isSignedNumber value || Pattern.isPattern value then
      .ok ⟨String.ofList name, text.toList.contains '='⟩
    else .error .invalid

def opens (c : Char) : Bool := c = '-' || c = ':' || c = '_' || Unicode.isAlphanumeric c

-- One character further. A target may hold any character but the two that end it.
def advance (text : List Char) (draft : Draft) (position : Nat) (c : Char) : Reading Draft :=
  match draft.part, c with
  | .start, '[' => .ok { draft with part := .span (position + 1) }
  | .start, c => if opens c then .ok { draft with part := .head position } else .error .invalid
  | .head first, '=' =>
    (between text first position).map fun target =>
      { draft with part := .level (position + 1), target := some target }
  | .head first, '[' =>
    (between text first position).map fun target =>
      { draft with part := .span (position + 1), target := some target }
  | .head _, _ => .ok draft
  | .span first, ']' =>
    (between text first position).map fun _ => { draft with part := .subject, span := true }
  | .span first, '\x7b' =>
    (between text first position).map fun name =>
      { draft with part := .field (position + 1), span := name ≠ "" }
  | .span _, _ => .ok draft
  | .field first, '\x7d' =>
    ((between text first position).bind field).map fun read =>
      { draft with part := .fields, fields := draft.fields ++ [read] }
  | .field _, _ => .ok draft
  | .fields, ']' => .ok { draft with part := .subject }
  | .subject, '=' => .ok { draft with part := .level (position + 1) }
  | .level _, _ => .ok draft
  | _, _ => .error .invalid

def advanceAll (text : List Char) : Draft → Nat → List Char → Reading Draft
  | draft, _, [] => .ok draft
  | draft, position, c :: rest =>
    match advance text draft position c with
    | .ok draft => advanceAll text draft (position + c.utf8Size) rest
    | .error fault => .error fault

def Draft.entry (draft : Draft) (rank : Nat) : Entry :=
  if draft.span || draft.fields.any (·.valued) then .spans
  else .events ⟨draft.target, draft.fields.map (·.name), rank⟩

-- What a draft amounts to at the end of its text. Without a level all events are meant.
def complete (text : List Char) (draft : Draft) : Reading Entry :=
  match draft.part with
  | .head first =>
    (dropBytes first text).map fun rest =>
      match rank? rest with
      | some rank => .events ⟨none, [], rank⟩
      | none => .events ⟨some (String.ofList rest), [], 5⟩
  | .level first =>
    (dropBytes first text).bind fun rest =>
      match rest.isEmpty, rank? rest with
      | true, _ => .ok (draft.entry 5)
      | false, some rank => .ok (draft.entry rank)
      | false, none => .error .invalid
  | .subject => .ok (draft.entry 5)
  | _ => .error .invalid

def isBlank (c : Char) : Bool := Unicode.isBlank c.toNat

def trimmed (text : List Char) : List Char :=
  ((text.dropWhile isBlank).reverse.dropWhile isBlank).reverse

def entry (text : List Char) : Reading Entry :=
  (advanceAll text .blank 0 (trimmed text)).bind (complete text)

def pieces (text : String) : List (List Char) :=
  (Pieces.split ',' text.toList).filter (!·.isEmpty)

def directives (entries : List Entry) : List Directive :=
  entries.filterMap fun
    | .events directive => some directive
    | .spans => none

def errorsOnly : List Directive := [⟨none, [], 1⟩]

-- A filter all of whose directives make sense. Without a directive it shows nothing.
def strict (text : String) : Reading (List Directive) :=
  ((pieces text).mapM entry).map directives

-- A directive that makes no sense is passed over, one that cannot be cut is not.
def tolerated (text : List Char) : Option (Option Entry) :=
  match entry text with
  | .ok entry => some (some entry)
  | .error .invalid => some none
  | .error .withinCharacter => none

-- The directives of a filter that make sense. Without one of them errors are shown.
def tolerant? (text : String) : Option (List Directive) :=
  ((pieces text).mapM tolerated).map fun entries =>
    let known := entries.filterMap id
    if known.isEmpty then errorsOnly else directives known

def overrideVariable : String := "RUST_LOG"

-- The filter that a run is to follow, unless reading it breaks a character.
def ofEnvironment? (environment : Environment) : Option (List Directive) :=
  let configured := tolerant? (Config.ofEnvironment environment).logFilter
  match (environment.lookup overrideVariable).bind Utf8.text? with
  | none => configured
  | some text =>
    match strict text with
    | .ok directives => some directives
    | .error .invalid => configured
    | .error .withinCharacter => none

def fieldNames (event : Event) : List String := "message" :: event.fields.map (·.1)

def targets (directive : Directive) (event : Event) : Bool :=
  match directive.target with
  | none => true
  | some start => start.toList.isPrefixOf event.target.toList

def applies (directive : Directive) (event : Event) : Bool :=
  targets directive event && directive.fields.all (fieldNames event).contains

-- How closely a directive names its targets.
def weight (directive : Directive) : Nat :=
  match directive.target with
  | none => 0
  | some start => start.length + 1

-- Whether a directive comes before another that applies as well. Of two that ask for the same the
-- later does.
def prevails (later earlier : Directive) : Bool :=
  if weight later ≠ weight earlier then weight earlier < weight later
  else if later.fields.length ≠ earlier.fields.length then
    earlier.fields.length < later.fields.length
  else !List.lex later.fields earlier.fields (fun a b => decide (a < b))

def closer (best : Option Directive) (directive : Directive) : Option Directive :=
  match best with
  | none => some directive
  | some old => if prevails directive old then some directive else some old

-- Whether the directive that says most about an event, of those that hold for it, lets it through.
def allows (directives : List Directive) (holds : Directive → Event → Bool) (event : Event) : Bool :=
  match (directives.filter (holds · event)).foldl closer none with
  | none => false
  | some directive => event.level.rank ≤ directive.rank

-- Events that are asked for beforehand have to be let through without their fields as well.
def shows (directives : List Directive) (event : Event) : Bool :=
  allows directives applies event && (!event.isAskedFor || allows directives targets event)

end LogFilter
end RecordBridge.Command
