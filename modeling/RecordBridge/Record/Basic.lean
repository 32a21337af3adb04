import RecordBridge.Record.Payload
import RecordBridge.Record.Value

namespace RecordBridge

structure Record (κ : Type := Fields) where
  attributes : List (String × Value)
  payloads : Option (Container κ)
  deriving DecidableEq, Repr

namespace Record

variable {κ : Type}

def empty : Record κ := ⟨[], none⟩

def setAttribute (record : Record κ) (name : String) (value : Value) : Record κ :=
  { record with attributes := Named.put name value record.attributes }

def attribute? (record : Record κ) (name : String) : Option Value :=
  Named.find? name record.attributes

-- The container, made on first use.
def container (record : Record κ) : Container κ := record.payloads.getD .empty

def payload? (record : Record κ) (name : String) : Option (Payload κ) :=
  record.payloads.bind (·.find? name)

-- Every payload the record owns, in slot order.
def owned (record : Record κ) : List (Payload κ) := record.container.payloads

def shownAttribute (entry : String × Value) : String :=
  "(" ++ Quoted.text entry.1 ++ ", " ++ entry.2.shown ++ ")"

def shownPayloads (record : Record κ) : String :=
  match record.payloads with
  | none => "None"
  | some container => "Some(" ++ container.shown ++ ")"

def shown (record : Record κ) : String :=
  "Record \x7b attributes: " ++ Quoted.listing (record.attributes.map shownAttribute) ++
    ", payloads: " ++ record.shownPayloads ++ " \x7d"

end Record
end RecordBridge
