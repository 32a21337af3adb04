import RecordBridge.Text.Utf8

namespace RecordBridge.Guest.Suggestion

-- Names are compared by the cost of turning one into the other. What would change more than a third of both
-- is no suggestion, and of names at one cost the first is offered.
def changeCost : Nat := 2

def caseCost : Nat := 1

-- Names are compared up to this length, what they have in common at both ends apart.
def maxLength : Nat := 40

-- From this number of names on none is offered.
def maxNames : Nat := 750

def lower (b : UInt8) : UInt8 := if 0x41 ≤ b && b ≤ 0x5a then b + 0x20 else b

def substitution (a b : UInt8) : Nat :=
  if a = b then 0 else if lower a = lower b then caseCost else changeCost

-- The cells of one row after its first. `left` is the cell before, and `above` the row before from
-- the column of that cell on.
def cells (b : UInt8) : List UInt8 → List Nat → Nat → List Nat
  | a :: rest, diagonal :: up :: above, left =>
    let cell := min (min left up + changeCost) (diagonal + substitution a b)
    cell :: cells b rest (up :: above) cell
  | _, _, _ => []

-- From the costs of all starts of a name against the start of another, the costs against its start
-- that is longer by one.
def row (name : List UInt8) (above : List Nat) (b : UInt8) : List Nat :=
  let first := above.headD 0 + changeCost
  first :: cells b name above first

def firstRow (name : List UInt8) : List Nat :=
  (List.range (name.length + 1)).map (· * changeCost)

-- The least cost of turning one text into the other by additions, removals and changes.
def distance (a b : List UInt8) : Nat := (b.foldl (row a) (firstRow a)).getLastD 0

def withoutCommonStart : List UInt8 → List UInt8 → List UInt8 × List UInt8
  | a :: as, b :: bs => if a = b then withoutCommonStart as bs else (a :: as, b :: bs)
  | as, bs => (as, bs)

def withoutCommonEnds (a b : List UInt8) : List UInt8 × List UInt8 :=
  let started := withoutCommonStart a b
  let ended := withoutCommonStart started.1.reverse started.2.reverse
  (ended.1.reverse, ended.2.reverse)

-- The cost between two names, unless they are too long to tell.
def cost? (a b : Bytes) : Option Nat :=
  let cut := withoutCommonEnds a b
  if cut.1.isEmpty || cut.2.isEmpty then some ((cut.1.length + cut.2.length) * changeCost)
  else if maxLength < cut.1.length || maxLength < cut.2.length then none
  else some (distance cut.1 cut.2)

def limit (a b : Bytes) : Nat := (a.length + b.length + 3) * changeCost / 6

structure Candidate where
  name : String
  cost : Nat
  deriving DecidableEq, Repr

def candidate? (wanted known : String) : Option Candidate :=
  if known = wanted then none
  else
    let a := Utf8.encode wanted
    let b := Utf8.encode known
    match cost? a b with
    | some cost => if cost ≤ limit a b then some ⟨known, cost⟩ else none
    | none => none

def better (best : Option Candidate) (candidate : Candidate) : Option Candidate :=
  match best with
  | some old => if candidate.cost < old.cost then some candidate else some old
  | none => some candidate

def closest? (wanted : String) (known : List String) : Option String :=
  if maxNames ≤ known.length then none
  else ((known.filterMap (candidate? wanted)).foldl better none).map (·.name)

end RecordBridge.Guest.Suggestion
