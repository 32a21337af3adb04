import Mathlib.Data.List.Perm.Basic
import RecordBridge.Proofs.Custody.Rebuilding
import RecordBridge.Proofs.Record.Entries

namespace RecordBridge.Named

variable {α : Type}

theorem find?_put (name key : String) (item : α) (items : List (String × α)) :
    find? key (put name item items) = if name = key then some item else find? key items := by
  split
  · rename_i same
    subst same
    exact find?_put_self name item items
  · rename_i different
    exact find?_put_other item items (Ne.symm different)

theorem find?_append (name : String) (front back : List (String × α)) :
    find? name (front ++ back) = (find? name front).or (find? name back) := by
  induction front with
  | nil => rfl
  | cons entry rest ih =>
    by_cases same : entry.1 = name
    · simp [find?, same]
    · simp [find?, same, ih]

-- Items that are made of others are found where those are.
theorem find?_map {β : Type} (label : β → String) (item : β → α) (name : String) (sources : List β) :
    find? name (sources.map fun source => (label source, item source)) =
      (sources.find? (label · = name)).map item := by
  induction sources with
  | nil => rfl
  | cons source rest ih =>
    by_cases same : label source = name
    · simp [find?, same]
    · simp [find?, same, ih]

theorem find?_none {name : String} {items : List (String × α)} :
    find? name items = none ↔ name ∉ names items := by
  constructor
  · intro nothing known
    obtain ⟨item, found⟩ := find?_known known
    rw [nothing] at found
    cases found
  · exact find?_fresh

-- What is displaced makes room for what is put.
theorem put_perm (name : String) (item : α) (items : List (String × α)) :
    ((put name item items).map (·.2) ++ (find? name items).toList).Perm (items.map (·.2) ++ [item]) := by
  induction items with
  | nil => simp [put, find?]
  | cons entry rest ih =>
    by_cases same : entry.1 = name
    · simp only [put, find?, same, if_true, List.map_cons, Option.toList_some, List.cons_append]
      have before := (List.perm_append_singleton entry.2 (rest.map (·.2))).cons item
      have after := (List.perm_append_singleton item (rest.map (·.2))).cons entry.2
      exact before.trans ((List.Perm.swap _ _ _).trans after.symm)
    · simp only [put, find?, same, if_false, List.map_cons, List.cons_append]
      exact ih.cons entry.2

section Changes

variable (changes items : List (String × α))

def putAll : List (String × α) := changes.foldl (fun items change => put change.1 change.2 items) items

-- Those names that are not known yet, each where it first comes.
def fresh (known names : List String) : List String := (names.filter (· ∉ known)).eraseDups

theorem fresh_cons_known {known : List String} {name : String} (member : name ∈ known) (names : List String) :
    fresh known (name :: names) = fresh known names := by
  simp [fresh, member]

theorem fresh_cons_new {known : List String} {name : String} (other : name ∉ known) (names : List String) :
    fresh known (name :: names) = name :: fresh (known ++ [name]) names := by
  have twice : (names.filter (· ∉ known)).filter (fun later => !later == name) =
      names.filter (· ∉ known ++ [name]) := by
    rw [List.filter_filter]
    refine List.filter_congr fun later _ => ?_
    simp only [List.mem_append, List.mem_singleton, not_or, Bool.decide_and, decide_not]
    by_cases same : later = name <;> simp [same]
  rw [fresh, List.filter_cons_of_pos (by simpa using other), List.eraseDups_cons, twice, fresh]

theorem names_putAll : names (putAll changes items) = names items ++ fresh (names items) (names changes) := by
  induction changes generalizing items with
  | nil => simp [putAll, fresh, names]
  | cons change rest ih =>
    have later := ih (put change.1 change.2 items)
    change names (putAll rest (put change.1 change.2 items)) =
      names items ++ fresh (names items) (change.1 :: names rest)
    rw [later, names_put]
    by_cases known : change.1 ∈ names items
    · rw [if_pos known, fresh_cons_known known]
    · rw [if_neg known, fresh_cons_new known, List.append_assoc, List.singleton_append]

theorem find?_putAll (name : String) :
    find? name (putAll changes items) = (find? name changes.reverse).or (find? name items) := by
  induction changes generalizing items with
  | nil => rfl
  | cons change rest ih =>
    have later := ih (put change.1 change.2 items)
    change find? name (putAll rest (put change.1 change.2 items)) = _
    rw [later, find?_put, List.reverse_cons, find?_append, Option.or_assoc]
    by_cases same : change.1 = name <;> simp [find?, same]

end Changes

-- Everything that stands under a name, in order. Only the first of it is found.
def values (name : String) (items : List (String × α)) : List α :=
  (items.filter (·.1 = name)).map (·.2)

section Values

variable {name : String} {items : List (String × α)}

theorem count_values : (names items).count name = (values name items).length := by
  rw [names, values, List.length_map, List.count_eq_countP, List.countP_map, List.countP_eq_length_filter]
  refine congrArg List.length (List.filter_congr fun entry _ => ?_)
  exact beq_eq_decide entry.1 name

-- Only the first item under the name makes room.
theorem values_put_self (item : α) : values name (put name item items) = item :: (values name items).tail := by
  induction items with
  | nil => simp [put, values]
  | cons entry rest ih =>
    by_cases same : entry.1 = name
    · simp [put, values, same]
    · simp only [values] at ih
      simp [put, values, same, ih]

theorem values_put_other {other : String} (different : other ≠ name) (item : α) :
    values other (put name item items) = values other items := by
  have apart : ∀ items : List (String × α),
      values other items = ((items.filter (·.1 ≠ name)).filter (·.1 = other)).map (·.2) := by
    intro items
    rw [values, List.filter_filter]
    refine congrArg (List.map _) (List.filter_congr fun entry _ => ?_)
    by_cases same : entry.1 = other <;> simp [same, different]
  rw [apart, apart, filter_put]

theorem values_none : values name items = [] ↔ name ∉ names items := by
  rw [← List.length_eq_zero_iff, ← count_values, List.count_eq_zero]

theorem values_erase_self : values name (erase name items) = (values name items).tail := by
  induction items with
  | nil => rfl
  | cons entry rest ih =>
    by_cases same : entry.1 = name
    · simp [erase, values, same]
    · simp only [values] at ih
      simp [erase, values, same, ih]

theorem values_erase_other {other : String} (different : other ≠ name) :
    values other (erase name items) = values other items := by
  induction items with
  | nil => rfl
  | cons entry rest ih =>
    by_cases same : entry.1 = name
    · simp [erase, values, same, Ne.symm different]
    · simp only [values] at ih
      rw [erase, if_neg same]
      by_cases here : entry.1 = other <;> simp [values, here, ih]

theorem filter_fresh (fresh : name ∉ names items) : items.filter (·.1 ≠ name) = items := by
  refine List.filter_eq_self.mpr fun entry member => ?_
  simpa using fun here : entry.1 = name => fresh (here ▸ List.mem_map_of_mem member)

-- Where nothing stands under the name twice, erasing it leaves the other items in their order.
theorem erase_exact (once : (values name items).tail = []) : erase name items = items.filter (·.1 ≠ name) := by
  induction items with
  | nil => rfl
  | cons entry rest ih =>
    by_cases same : entry.1 = name
    · have later : name ∉ names rest := values_none.mp (by simpa [values, same] using once)
      rw [erase, if_pos same, List.filter_cons_of_neg (by simpa using same), filter_fresh later]
    · rw [erase, if_neg same, List.filter_cons_of_pos (by simpa using same), ih]
      simpa [values, same] using once

end Values
end RecordBridge.Named
