namespace RecordBridge.Named

variable {α : Type}

-- A name can stand more than once in a list that came from elsewhere. What is said of it is said of its first
-- place.
def find? (name : String) : List (String × α) → Option α
  | [] => none
  | (key, item) :: rest => if key = name then some item else find? name rest

-- A new name goes to the end, a known one keeps its place.
def put (name : String) (item : α) : List (String × α) → List (String × α)
  | [] => [(name, item)]
  | (key, old) :: rest =>
    if key = name then (key, item) :: rest else (key, old) :: put name item rest

def erase (name : String) : List (String × α) → List (String × α)
  | [] => []
  | (key, item) :: rest => if key = name then rest else (key, item) :: erase name rest

def names (items : List (String × α)) : List String := items.map (·.1)

theorem find?_put_self (name : String) (item : α) (items : List (String × α)) :
    find? name (put name item items) = some item := by
  induction items with
  | nil => simp [put, find?]
  | cons entry rest ih => by_cases same : entry.1 = name <;> simp [put, find?, same, ih]

theorem find?_put_other {other name : String} (item : α) (items : List (String × α))
    (different : other ≠ name) : find? other (put name item items) = find? other items := by
  induction items with
  | nil => simp [put, find?, Ne.symm different]
  | cons entry rest ih =>
    by_cases same : entry.1 = name
    · simp [put, find?, same, Ne.symm different]
    · simp [put, find?, same, ih]

end RecordBridge.Named
