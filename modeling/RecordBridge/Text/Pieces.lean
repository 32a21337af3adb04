namespace RecordBridge.Pieces

variable {α : Type} [DecidableEq α]

-- The pieces of a list whose first element is known to belong to the first piece.
def extend (a : α) : List (List α) → List (List α)
  | [] => [[a]]
  | first :: others => (a :: first) :: others

def split (separator : α) : List α → List (List α)
  | [] => [[]]
  | a :: rest => if a = separator then [] :: split separator rest else extend a (split separator rest)

def join (separator : α) : List (List α) → List α
  | [] => []
  | [only] => only
  | first :: others => first ++ separator :: join separator others

theorem split_ne_nil (separator : α) (items : List α) : split separator items ≠ [] := by
  cases items with
  | nil => simp [split]
  | cons a rest =>
    by_cases same : a = separator
    · simp [split, same]
    · cases h : split separator rest <;> simp [split, same, h, extend]

theorem join_split (separator : α) (items : List α) : join separator (split separator items) = items := by
  induction items with
  | nil => simp [split, join]
  | cons a rest ih =>
    obtain ⟨first, others, cut⟩ := List.exists_cons_of_ne_nil (split_ne_nil separator rest)
    by_cases same : a = separator
    · rw [split, if_pos same, cut, join, ← cut, ih, same, List.nil_append]
      simp
    · rw [split, if_neg same, cut, extend]
      rw [cut] at ih
      cases others with
      | nil => simpa [join] using ih
      | cons next more => simpa [join] using ih

end RecordBridge.Pieces
