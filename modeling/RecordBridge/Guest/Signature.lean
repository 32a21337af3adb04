import RecordBridge.Guest.Object

namespace RecordBridge.Guest

-- The names of a function's parameters without a default, and how many more have one.
structure Signature where
  name : String
  required : List String
  optional : Nat

namespace Signature

def listed : List String → String
  | [] => ""
  | [one] => one
  | [one, two] => one ++ " and " ++ two
  | one :: rest => one ++ ", " ++ listed rest

def plural (n : Nat) (word : String) : String := if n = 1 then word else word ++ "s"

def tooMany (s : Signature) (given : Nat) : Raised :=
  let least := s.required.length
  let most := least + s.optional
  let range := if s.optional = 0 then toString most else s!"from {least} to {most}"
  let word := plural most "argument"
  .native "TypeError" (s.name ++ s!"() takes {range} positional {word} but {given} " ++
    (if given = 1 then "was" else "were") ++ " given")

def missing (s : Signature) (given : Nat) : Raised :=
  let names := (s.required.drop given).map fun name => "'" ++ name ++ "'"
  .native "TypeError" (s.name ++ s!"() missing {names.length} required positional " ++
    plural names.length "argument" ++ ": " ++ listed names)

-- The fault of a call with this many arguments. No code of the function has run.
def fault? (s : Signature) (given : Nat) : Option Raised :=
  if s.required.length + s.optional < given then some (s.tooMany given)
  else if given < s.required.length then some (s.missing given)
  else none

end Signature

end RecordBridge.Guest
