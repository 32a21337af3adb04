import RecordBridge.Unicode.Alphanumeric
import RecordBridge.Unicode.Decimal

namespace RecordBridge.Command.Pattern

-- Nothing is matched here: to read a pattern is to tell how deep its parts lie in one another, or to fail.
-- Characters are known by their codes alone, so that classes reaching into every script, case beyond the
-- Latin letters and the edges of words are left out.

-- What holds from where it is switched to the end of the group.
structure Mode where
  caseless : Bool
  -- The parts stand for characters, not for bytes.
  wide : Bool
  -- Blanks and comments mean nothing.
  spaced : Bool
  deriving DecidableEq, Repr

def Mode.initial : Mode := ⟨false, true, false⟩

structure Cursor where
  rest : List Char
  mode : Mode
  -- The groups that have a name so far.
  names : List (List Char)
  deriving DecidableEq, Repr

def isBlank (c : Char) : Bool := Unicode.isBlank c.toNat

-- Drops blanks and comments. A comment lasts to the end of its line.
def dropBlanks : Bool → List Char → List Char
  | _, [] => []
  | true, c :: rest => dropBlanks (c ≠ '\n') rest
  | false, c :: rest =>
    if isBlank c then dropBlanks false rest
    else if c = '#' then dropBlanks true rest
    else c :: rest

def Cursor.skip (cursor : Cursor) : Cursor :=
  if cursor.mode.spaced then { cursor with rest := dropBlanks false cursor.rest } else cursor

def Cursor.at (cursor : Cursor) (rest : List Char) : Cursor := { cursor with rest }

-- What stands for one place of a text, or for a condition on it.
inductive Place where
  -- A character, perhaps given as a byte.
  | character (code : Nat) (byte : Bool)
  | any
  | kind (negated : Bool)
  | bound
  | edge
  deriving DecidableEq, Repr

def maxByte : Nat := 0x7f

def Place.fits (mode : Mode) : Place → Bool
  | .character code byte => if mode.wide then !mode.caseless else !(byte && maxByte < code)
  | .any => mode.wide
  | .kind negated => !mode.wide && !negated
  | .bound => true
  | .edge => !mode.wide

-- Sets hold characters and kinds of them.
def Place.fitsSet (mode : Mode) : Place → Bool
  | .character code _ => if mode.wide then !mode.caseless else code ≤ maxByte
  | .kind negated => !mode.wide && !negated
  | _ => false

def hexDigit? (c : Char) : Option Nat :=
  if c.isDigit then some (c.toNat - 0x30)
  else if 'a' ≤ c ∧ c ≤ 'f' then some (c.toNat - 0x57)
  else if 'A' ≤ c ∧ c ≤ 'F' then some (c.toNat - 0x37)
  else none

-- A code of so many hexadecimal digits.
def code? : Nat → Nat → Cursor → Option (Nat × Cursor)
  | 0, value, cursor => if value.isValidChar then some (value, cursor.skip) else none
  | count + 1, value, cursor =>
    match cursor.skip.rest with
    | [] => none
    | c :: rest =>
      match hexDigit? c with
      | some digit => code? count (value * 16 + digit) (cursor.at rest)
      | none => none

def controls : List (Char × Nat) :=
  [('a', 7), ('f', 12), ('t', 9), ('n', 10), ('r', 13), ('v', 11)]

def escapedPlace? (c : Char) : Option Place :=
  if "dsw".toList.contains c then some (.kind false)
  else if "DSW".toList.contains c then some (.kind true)
  else if "Az".toList.contains c then some .bound
  else if "bB<>".toList.contains c then some .edge
  else if c.toNat ≤ maxByte && !c.isAlphanum then some (.character c.toNat false)
  else (controls.lookup c).map fun code => .character code false

-- What follows a backslash.
def escape? (cursor : Cursor) : Option (Place × Cursor) :=
  match cursor.rest with
  | [] => none
  | 'x' :: rest => (code? 2 0 (cursor.at rest)).map fun (code, next) => (.character code true, next)
  | 'u' :: rest => (code? 4 0 (cursor.at rest)).map fun (code, next) => (.character code false, next)
  | 'U' :: rest => (code? 8 0 (cursor.at rest)).map fun (code, next) => (.character code false, next)
  | c :: rest => (escapedPlace? c).map fun place => (place, cursor.at rest)

-- How deep parts lie that stand beside one another. A single part needs nothing to hold it.
def beside : List Nat → Nat
  | [] => 0
  | [depth] => depth
  | depths => depths.foldl max 0 + 1

def item? (cursor : Cursor) : Option (Place × Cursor) :=
  match cursor.rest with
  | [] => none
  | '\\' :: rest => escape? (cursor.at rest)
  | c :: rest => some (.character c.toNat false, cursor.at rest)

-- The character that a bar leads to.
def ahead (mode : Mode) (rest : List Char) : Option Char :=
  if mode.spaced then
    match rest.dropWhile isBlank with
    | [] => rest.head?
    | '#' :: more => (more.dropWhile isBlank).head?.or rest.head?
    | c :: _ => some c
  else rest.head?

def rangeFits (mode : Mode) (first last : Place) : Bool :=
  match first, last with
  | .character low _, .character high _ => low ≤ high && first.fitsSet mode && last.fitsSet mode
  | _, _ => false

-- One item of a set, or a range from one character to a later one.
def range? (cursor : Cursor) : Option Cursor :=
  match item? cursor with
  | none => none
  | some (first, next) =>
    let next := next.skip
    let single := if first.fitsSet next.mode then some next else none
    match next.rest with
    | [] => none
    | '-' :: rest =>
      if ahead next.mode rest = some ']' || ahead next.mode rest = some '-' then single
      else
        match item? (next.at rest).skip with
        | some (last, next) => if rangeFits next.mode first last then some next else none
        | none => none
    | _ => single

def classNames : List String := [
  "alnum", "alpha", "ascii", "blank", "cntrl", "digit", "graph", "lower", "print", "punct", "space",
  "upper", "word", "xdigit"]

-- What is behind a class given by name, as in `[:digit:]`, and whether the class is negated.
def namedClass? (text : List Char) : Option (Bool × List Char) :=
  match text with
  | ':' :: rest =>
    let negated := rest.head? = some '^'
    let rest := if negated then rest.tail else rest
    match rest.dropWhile (· ≠ ':') with
    | ':' :: ']' :: more =>
      if classNames.contains (String.ofList (rest.takeWhile (· ≠ ':'))) then some (negated, more)
      else none
    | _ => none
  | _ => none

def classFits (mode : Mode) (negated : Bool) : Bool := if mode.wide then !mode.caseless else !negated

-- Counts and drops the bars at the beginning of a set.
def bars (spaced : Bool) : Bool → Nat → List Char → Nat × List Char
  | _, count, [] => (count, [])
  | true, count, c :: rest => bars spaced (c ≠ '\n') count rest
  | false, count, c :: rest =>
    if c = '-' then bars spaced false (count + 1) rest
    else if spaced && isBlank c then bars spaced false count rest
    else if spaced && c = '#' then bars spaced true count rest
    else (count, c :: rest)

-- The beginning of a set: how many characters stand there for themselves, which are bars or else one
-- bracket, and what follows them.
def opened? (cursor : Cursor) : Option (Nat × Cursor) :=
  let cursor := cursor.skip
  let negated := cursor.rest.head? = some '^'
  let begun := if negated then (cursor.at cursor.rest.tail).skip else cursor
  let barred := bars cursor.mode.spaced false 0 begun.rest
  let literal := Place.fitsSet cursor.mode (.character '-'.toNat false)
  if negated && !cursor.mode.wide then none
  else if 0 < barred.1 then
    if literal then some (barred.1, cursor.at barred.2) else none
  else if begun.rest.head? = some ']' then
    if literal then some (1, (begun.at begun.rest.tail).skip) else none
  else some (0, begun)

-- The depth of a set when its items so far are all there is on this side of an operation.
def operation (left : Option Nat) (items : List Nat) : Nat :=
  match left with
  | none => beside items
  | some depth => max depth (beside items) + 1

-- Reads on inside a set to its end. No more than so many sets may be open inside it.
def set? : Nat → Nat → Option Nat → List Nat → Cursor → Option (Nat × Cursor)
  | 0, _, _, _, _ => none
  | fuel + 1, levels, left, items, cursor =>
    let cursor := cursor.skip
    match cursor.rest with
    | [] => none
    | ']' :: rest => some (operation left items + 1, cursor.at rest)
    | '[' :: rest =>
      match namedClass? rest, levels with
      | some (negated, rest), levels =>
        if classFits cursor.mode negated then set? fuel levels left (0 :: items) (cursor.at rest)
        else none
      | none, 0 => none
      | none, levels + 1 =>
        match opened? (cursor.at rest) with
        | none => none
        | some (count, inner) =>
          match set? fuel levels none (List.replicate count 0) inner with
          | none => none
          | some (depth, next) => set? fuel (levels + 1) left (depth :: items) next
    | '&' :: '&' :: rest => set? fuel levels (some (operation left items)) [] (cursor.at rest)
    | '-' :: '-' :: rest => set? fuel levels (some (operation left items)) [] (cursor.at rest)
    | '~' :: '~' :: rest => set? fuel levels (some (operation left items)) [] (cursor.at rest)
    | _ =>
      match range? cursor with
      | some next => set? fuel levels left (0 :: items) next
      | none => none

-- Switches, the ones behind the sign to be turned off.
def areFlags (flags : List Char) : Bool :=
  flags.Nodup && flags.all "imsUuxR-".toList.contains && flags.getLast? ≠ some '-'

def switched (flags : List Char) (flag : Char) (old : Bool) : Bool :=
  if flags.contains flag then (flags.takeWhile (· ≠ '-')).contains flag else old

def Mode.switch (mode : Mode) (flags : List Char) : Mode :=
  ⟨switched flags 'i' mode.caseless, switched flags 'u' mode.wide, switched flags 'x' mode.spaced⟩

def isGroupName (name : List Char) : Bool :=
  match name with
  | [] => false
  | first :: rest => (first = '_' || Unicode.isAlphabetic first) &&
      rest.all fun c => "_.[]".toList.contains c || Unicode.isAlphanumeric c

inductive Opening where
  | group (inner : Cursor)
  | switch (next : Cursor)
  deriving DecidableEq, Repr

-- A name belongs to one group.
def named? (cursor : Cursor) (text : List Char) : Option Opening :=
  let name := text.takeWhile (· ≠ '>')
  match text.dropWhile (· ≠ '>') with
  | [] => none
  | _ :: rest =>
    if isGroupName name && !cursor.names.contains name then
      some (.group { cursor with rest, names := name :: cursor.names })
    else none

-- What an opening parenthesis begins.
def opening? (cursor : Cursor) : Option Opening :=
  let cursor := cursor.skip
  match cursor.rest with
  | '?' :: 'P' :: '<' :: text => named? cursor text
  | '?' :: '<' :: text => named? cursor text
  | '?' :: text =>
    let flags := text.takeWhile fun c => c ≠ ':' && c ≠ ')'
    let next := fun rest => { cursor with rest, mode := cursor.mode.switch flags }
    match text.dropWhile fun c => c ≠ ':' && c ≠ ')' with
    | ':' :: rest => if areFlags flags then some (.group (next rest)) else none
    | ')' :: rest => if areFlags flags && !flags.isEmpty then some (.switch (next rest)) else none
    | _ => none
  | _ => some (.group cursor)

-- A sequence holds parts, which can be repeated, and switches, which cannot.
def sequence (items : List (Option Nat)) : Nat := beside (items.map (·.getD 0))

def alternatives (branches : List Nat) (items : List (Option Nat)) : Nat :=
  beside (sequence items :: branches)

def plainPlace (c : Char) : Place :=
  if c = '.' then .any else if c = '^' || c = '$' then .bound else .character c.toNat false

-- What is behind a sign of repetition and the mark that makes it modest.
def repeated (rest : List Char) : List Char := if rest.head? = some '?' then rest.tail else rest

-- Reads on to the end of a group. No more than so many groups may be open inside it.
def parts? : Nat → Nat → List Nat → List (Option Nat) → Cursor → Option (Nat × Cursor)
  | 0, _, _, _, _ => none
  | fuel + 1, levels, branches, items, cursor =>
    let cursor := cursor.skip
    match cursor.rest, levels with
    | [], _ => some (alternatives branches items, cursor)
    | ')' :: _, _ => some (alternatives branches items, cursor)
    | '|' :: rest, levels => parts? fuel levels (sequence items :: branches) [] (cursor.at rest)
    | '(' :: rest, levels =>
      match opening? (cursor.at rest), levels with
      | none, _ => none
      | some (.switch next), levels => parts? fuel levels branches (none :: items) next
      | some (.group _), 0 => none
      | some (.group inner), levels + 1 =>
        match parts? fuel levels [] [] inner with
        | some (depth, ⟨')' :: rest, _, names⟩) =>
          parts? fuel (levels + 1) branches (some (depth + 1) :: items) ⟨rest, cursor.mode, names⟩
        | _ => none
    | '[' :: _, 0 => none
    | '[' :: rest, levels + 1 =>
      match opened? (cursor.at rest) with
      | none => none
      | some (count, inner) =>
        match set? (rest.length + 1) levels none (List.replicate count 0) inner with
        | none => none
        | some (depth, next) => parts? fuel (levels + 1) branches (some depth :: items) next
    | '\\' :: rest, levels =>
      match escape? (cursor.at rest) with
      | none => none
      | some (place, next) =>
        if place.fits next.mode then parts? fuel levels branches (some 0 :: items) next else none
    | c :: rest, levels =>
      if c = '*' || c = '+' || c = '?' then
        match items with
        | some depth :: items =>
          parts? fuel levels branches (some (depth + 1) :: items) (cursor.at (repeated rest))
        | _ => none
      else if c = '\x7b' then none
      else if (plainPlace c).fits cursor.mode then
        parts? fuel levels branches (some 0 :: items) (cursor.at rest)
      else none

def maxDepth : Nat := 250

def isPattern (text : List Char) : Bool :=
  match parts? (text.length + 1) maxDepth [] [] ⟨text, .initial, []⟩ with
  | some (depth, cursor) => cursor.rest.isEmpty && depth ≤ maxDepth
  | none => false

end RecordBridge.Command.Pattern
