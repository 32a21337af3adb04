import RecordBridge.Custody.Store
import RecordBridge.Proofs.Record.Naming

namespace RecordBridge

namespace Named

variable {α : Type} {name other : String} {items changes : List (String × α)}

-- Where a name is found.
def place? (name : String) (items : List (String × α)) : Option Nat := items.findIdx? (·.1 = name)

theorem place?_cons (entry : String × α) (rest : List (String × α)) : place? name (entry :: rest) =
    if entry.1 = name then some 0 else (place? name rest).map (· + 1) := by
  simp [place?, List.findIdx?_cons]

theorem place?_some {i : Nat} (found : place? name items = some i) : ∃ item, items[i]? = some (name, item) := by
  obtain ⟨inside, here, -⟩ := List.findIdx?_eq_some_iff_getElem.mp found
  refine ⟨items[i].2, ?_⟩
  rw [List.getElem?_eq_getElem inside]
  exact congrArg some (Prod.ext (of_decide_eq_true here) rfl)

-- What is found under a name stands in the place of the name.
theorem find?_placed (name : String) (items : List (String × α)) :
    find? name items = (place? name items).bind fun i => items[i]?.map (·.2) := by
  induction items with
  | nil => rfl
  | cons entry rest ih =>
    rw [place?_cons]
    by_cases same : entry.1 = name
    · simp [find?, same]
    · rw [find?, if_neg same, if_neg same, ih]
      cases place? name rest <;> rfl

-- What is put under a name comes into the same place, and nothing else is touched.
theorem put_placed (name : String) (item : α) (items : List (String × α)) : put name item items =
    match place? name items with
    | some i => items.set i (name, item)
    | none => items ++ [(name, item)] := by
  induction items with
  | nil => rfl
  | cons entry rest ih =>
    rw [place?_cons]
    by_cases same : entry.1 = name
    · simp [put, same]
    · rw [put, if_neg same, if_neg same, ih]
      cases place? name rest <;> rfl

theorem place?_put_self (name : String) (item : α) (items : List (String × α)) :
    place? name (put name item items) = some ((place? name items).getD items.length) := by
  induction items with
  | nil => simp [put, place?]
  | cons entry rest ih =>
    by_cases same : entry.1 = name
    · simp [put, place?_cons, same]
    · rw [put, if_neg same, place?_cons, place?_cons, if_neg same, if_neg same, ih]
      cases place? name rest <;> rfl

theorem place?_put_other (item : α) (items : List (String × α)) (different : other ≠ name) :
    place? other (put name item items) = place? other items := by
  induction items with
  | nil => simp [put, Ne.symm different, place?]
  | cons entry rest ih =>
    by_cases same : entry.1 = name
    · simp [put, place?_cons, same, Ne.symm different]
    · rw [put, if_neg same, place?_cons, place?_cons, ih]

theorem place?_put_known {i : Nat} (item : α) (found : place? other items = some i) :
    place? other (put name item items) = some i := by
  by_cases same : other = name
  · subst same
    rw [place?_put_self, found]
    rfl
  · rw [place?_put_other item items same, found]

-- An item that stands in a later place of its name is out of reach.
theorem put_shadowed {i j : Nat} {old : α} (there : items[i]? = some (other, old)) (found : place? other items = some j)
    (later : j ≠ i) (item : α) : (put name item items)[i]? = some (other, old) := by
  rw [put_placed]
  cases place : place? name items with
  | none =>
    obtain ⟨inside, -⟩ := List.getElem?_eq_some_iff.mp there
    rw [← there]
    exact List.getElem?_append_left inside
  | some k =>
    have apart : k ≠ i := by
      rintro rfl
      obtain ⟨first, here⟩ := place?_some place
      rw [here] at there
      cases there
      exact later (Option.some.inj (found.symm.trans place))
    rw [← there]
    exact List.getElem?_set_ne apart

theorem place?_putAll {i : Nat} (found : place? name items = some i) : place? name (putAll changes items) = some i := by
  induction changes generalizing items with
  | nil => exact found
  | cons change rest ih => exact ih (place?_put_known change.2 found)

theorem putAll_shadowed {i j : Nat} {item : α} (there : items[i]? = some (name, item))
    (found : place? name items = some j) (later : j ≠ i) : (putAll changes items)[i]? = some (name, item) := by
  induction changes generalizing items with
  | nil => exact there
  | cons change rest ih => exact ih (put_shadowed there found later change.2) (place?_put_known change.2 found)

theorem find?_putAll_last {item : α} {before after : List (String × α)} (last : name ∉ names after) :
    find? name (putAll (before ++ (name, item) :: after) items) = some item := by
  have others : name ∉ names after.reverse := by simpa [names] using last
  rw [find?_putAll, List.reverse_append, List.reverse_cons, List.append_assoc, find?_append, find?_fresh others,
    Option.none_or, List.singleton_append, find?, if_pos rfl]
  rfl

theorem find?_putAll_other (never : name ∉ names changes) : find? name (putAll changes items) = find? name items := by
  have reversed : name ∉ names changes.reverse := by simpa [names] using never
  rw [find?_putAll, find?_fresh reversed]
  rfl

end Named

variable {κ : Type}

namespace Record

def place? (record : Record κ) (name : String) : Option Nat := Named.place? name record.attributes

-- A history of settings. Setting a record in place and taking a record and handing it back set are one and the same.
def setAll (record : Record κ) (settings : List (String × Value)) : Record κ :=
  settings.foldl (fun record setting => record.setAttribute setting.1 setting.2) record

theorem setAll_append (record : Record κ) (front back : List (String × Value)) :
    record.setAll (front ++ back) = (record.setAll front).setAll back := List.foldl_append

theorem attributes_setAll (record : Record κ) (settings : List (String × Value)) :
    (record.setAll settings).attributes = Named.putAll settings record.attributes := by
  induction settings generalizing record with
  | nil => rfl
  | cons setting rest ih => exact ih (record.setAttribute setting.1 setting.2)

theorem payloads_setAll (record : Record κ) (settings : List (String × Value)) :
    (record.setAll settings).payloads = record.payloads := by
  induction settings generalizing record with
  | nil => rfl
  | cons setting rest ih => exact ih (record.setAttribute setting.1 setting.2)

-- A name is read and set in one place, and a new one behind all others.
structure Placed (record : Record κ) : Prop where
  found : ∀ name, record.attribute? name = (record.place? name).bind fun i => record.attributes[i]?.map (·.2)
  set : ∀ name value, (record.setAttribute name value).attributes =
    match record.place? name with
    | some i => record.attributes.set i (name, value)
    | none => record.attributes ++ [(name, value)]

theorem placed (record : Record κ) : record.Placed where
  found name := Named.find?_placed name record.attributes
  set name value := Named.put_placed name value record.attributes

-- What one setting does to its own name, and what it leaves alone.
structure Changes (name : String) (value : Value) (before after : Record κ) : Prop where
  found : after.attribute? name = some value
  values : ∀ other ≠ name, after.attribute? other = before.attribute? other
  places : ∀ other ≠ name, after.place? other = before.place? other
  payloads : after.payloads = before.payloads

theorem changes_setAttribute (record : Record κ) (name : String) (value : Value) :
    Changes name value record (record.setAttribute name value) where
  found := Named.find?_put_self name value record.attributes
  values _ different := Named.find?_put_other value record.attributes different
  places _ different := Named.place?_put_other value record.attributes different
  payloads := rfl

-- What a record shows after a history of settings, and what every single one of them did to what there was by then.
structure Follows (record : Record κ) (settings : List (String × Value)) : Prop where
  latest : ∀ before name value after, settings = before ++ (name, value) :: after → name ∉ Named.names after →
    (record.setAll settings).attribute? name = some value
  unset : ∀ name, name ∉ Named.names settings → (record.setAll settings).attribute? name = record.attribute? name
  names : (record.setAll settings).names = record.names ++ Named.fresh record.names (Named.names settings)
  places : ∀ name i, record.place? name = some i → (record.setAll settings).place? name = some i
  shadowed : ∀ i j name value, record.attributes[i]? = some (name, value) → record.place? name = some j → j ≠ i →
    (record.setAll settings).attributes[i]? = some (name, value)
  payloads : (record.setAll settings).payloads = record.payloads
  each : ∀ before name value after, settings = before ++ (name, value) :: after →
    Changes name value (record.setAll before) (record.setAll (before ++ [(name, value)]))

theorem follows (record : Record κ) (settings : List (String × Value)) : record.Follows settings where
  latest before name value after split last := by
    subst split
    rw [attribute?, attributes_setAll]
    exact Named.find?_putAll_last last
  unset name never := by
    rw [attribute?, attributes_setAll]
    exact Named.find?_putAll_other never
  names := by
    rw [Record.names, attributes_setAll, Named.names_putAll]
    rfl
  places name i found := by
    rw [place?, attributes_setAll]
    exact Named.place?_putAll found
  shadowed i j name value there found later := by
    rw [attributes_setAll]
    exact Named.putAll_shadowed there found later
  payloads := record.payloads_setAll settings
  each before name value after split := by
    rw [setAll_append]
    exact changes_setAttribute (record.setAll before) name value

end Record

namespace Store

variable (store : Store κ) (owner target name : String)

def setAll (settings : List (String × Value)) : Store κ :=
  settings.foldl (fun store setting => store.setAttribute target setting.1 setting.2) store

theorem record?_update (change : Record κ → Record κ) : (store.update target change).record? name =
    if target = name then (store.record? target).map change else store.record? name := by
  cases found : store.record? target with
  | some record =>
    simp only [update, found]
    exact Named.find?_put target name (change record) store.records
  | none =>
    simp only [update, found]
    by_cases here : target = name
    · rw [if_pos here, ← here, found]
      rfl
    · rw [if_neg here]

theorem record?_setAll (settings : List (String × Value)) : (store.setAll target settings).record? name =
    if target = name then (store.record? target).map (·.setAll settings) else store.record? name := by
  induction settings generalizing store with
  | nil =>
    by_cases here : target = name
    · rw [if_pos here, here]
      exact Option.map_id'.symm
    · rw [if_neg here]
      rfl
  | cons setting rest ih =>
    have later := ih (store.setAttribute target setting.1 setting.2)
    simp only [setAttribute, record?_update, if_pos, Option.map_map] at later
    change (setAll (store.update target (·.setAttribute setting.1 setting.2)) target rest).record? name = _
    rw [later]
    by_cases here : target = name
    · rw [if_pos here, if_pos here]
      rfl
    · rw [if_neg here, if_neg here, if_neg here]

theorem record?_discardRecord (gone : Option (Record κ)) :
    (discardRecord gone store).record? name = store.record? name := by
  cases gone <;> rfl

theorem record?_cloneRecord [Cargo κ] {record : Record κ} (found : store.record? owner = some record) :
    (store.cloneRecord owner target).record? name = if target = name then some record else store.record? name := by
  simp only [cloneRecord, copyRecord, found, keepCopy, keepRecord, record?_discardRecord, Record.clone_same]
  exact Named.find?_put target name record store.records

-- A record and its copy, of which one or the other is set.
theorem setAll_copied [Cargo κ] {record : Record κ} (found : store.record? owner = some record) (apart : owner ≠ target)
    (settings : List (String × Value)) :
    ((store.cloneRecord owner target).setAll target settings).record? owner = some record ∧
    ((store.cloneRecord owner target).setAll target settings).record? target = some (record.setAll settings) ∧
    ((store.cloneRecord owner target).setAll owner settings).record? target = some record ∧
    ((store.cloneRecord owner target).setAll owner settings).record? owner = some (record.setAll settings) := by
  have copied := fun name => store.record?_cloneRecord owner target name found
  have copy := copied target
  have own := copied owner
  rw [if_pos rfl] at copy
  rw [if_neg (Ne.symm apart), found] at own
  simp only [record?_setAll, if_pos, if_neg apart, if_neg (Ne.symm apart), copy, own, Option.map_some, and_self]

end Store

theorem settings_followed [Cargo κ] (record : Record κ) (settings : List (String × Value)) :
    record.Placed ∧ record.Follows settings ∧
    ∀ (store : Store κ) (owner copy : String), store.record? owner = some record → owner ≠ copy →
      ((store.cloneRecord owner copy).setAll copy settings).record? owner = some record ∧
      ((store.cloneRecord owner copy).setAll copy settings).record? copy = some (record.setAll settings) ∧
      ((store.cloneRecord owner copy).setAll owner settings).record? copy = some record ∧
      ((store.cloneRecord owner copy).setAll owner settings).record? owner = some (record.setAll settings) := by
  refine ⟨record.placed, record.follows settings, ?_⟩
  intro store owner copy found apart
  exact store.setAll_copied owner copy found apart settings

-- Three attributes that are read, the last under the name of the first.
def Record.ofAgain : Record := ⟨[("a", .blob ⟨[1]⟩), ("b", .rstring ⟨[0xFF]⟩), ("a", .blob ⟨[2]⟩)], none⟩

def Record.fourSettings : List (String × Value) :=
  [("c", .blob ⟨[3]⟩), ("a", .rstring ⟨[4]⟩), ("d", .blob ⟨[5]⟩), ("c", .rstring ⟨[6]⟩)]

theorem settings_followed_of_again :
    (Record.deserialize (.empty : Registry) (.ofBytes .network (Record.ofAgain.serialize .network)) .initial).1.1 =
      .ok .ofAgain ∧
    "c" ∉ Named.names ([] : List (String × Value)) ∧
    (Record.ofAgain.setAll Record.fourSettings).attribute? "c" = some (.rstring ⟨[6]⟩) ∧
    "b" ∉ Named.names Record.fourSettings ∧
    (Record.ofAgain.setAll Record.fourSettings).attribute? "b" = some (.rstring ⟨[0xFF]⟩) ∧
    (Record.ofAgain.setAll Record.fourSettings).names = ["a", "b", "a", "c", "d"] ∧
    Record.ofAgain.place? "a" = some 0 ∧ Record.ofAgain.attributes[2]? = some ("a", .blob ⟨[2]⟩) ∧ 0 ≠ 2 ∧
    (Record.ofAgain.setAll Record.fourSettings).place? "a" = some 0 ∧
    (Record.ofAgain.setAll Record.fourSettings).attributes[2]? = some ("a", .blob ⟨[2]⟩) ∧
    "b" ≠ "a" ∧
    (Record.ofAgain.setAll [("c", .blob ⟨[3]⟩), ("a", .rstring ⟨[4]⟩)]).place? "b" =
      (Record.ofAgain.setAll [("c", .blob ⟨[3]⟩)]).place? "b" ∧
    (Store.initial.keepRecord "r" Record.ofAgain).record? "r" = some .ofAgain ∧ "r" ≠ "s" ∧
    (((Store.initial.keepRecord "r" Record.ofAgain).cloneRecord "r" "s").setAll "s" Record.fourSettings).record? "r" =
      some .ofAgain := by
  obtain ⟨-, follows, copied⟩ := settings_followed Record.ofAgain Record.fourSettings
  have last : "c" ∉ Named.names ([] : List (String × Value)) := by decide
  have never : "b" ∉ Named.names Record.fourSettings := by decide
  have other : "b" ≠ "a" := by decide
  have apart : "r" ≠ "s" := by decide
  have whole : Record.fourSettings =
      [("c", .blob ⟨[3]⟩), ("a", .rstring ⟨[4]⟩), ("d", .blob ⟨[5]⟩)] ++ ("c", .rstring ⟨[6]⟩) :: [] := rfl
  have split : Record.fourSettings = [("c", .blob ⟨[3]⟩)] ++ ("a", .rstring ⟨[4]⟩) ::
      [("d", .blob ⟨[5]⟩), ("c", .rstring ⟨[6]⟩)] := rfl
  have single := follows.each _ _ _ _ split
  exact ⟨by decide +kernel, last, follows.latest _ _ _ _ whole last, never, follows.unset "b" never, follows.names, rfl,
    rfl, by decide, follows.places "a" 0 rfl, follows.shadowed 2 0 "a" _ rfl rfl (by decide), other,
    single.places "b" other, rfl, apart, (copied _ "r" "s" rfl apart).1⟩

end RecordBridge
