import RecordBridge.Proofs.Record.Accepting

namespace RecordBridge

open Reader

variable {κ : Type}

namespace Named

variable {α : Type}

theorem put_fresh {name : String} {items : List (String × α)} (fresh : name ∉ names items) (item : α) :
    put name item items = items ++ [(name, item)] := by
  induction items with
  | nil => rfl
  | cons entry rest ih =>
    simp only [names, List.map_cons, List.mem_cons, not_or] at fresh
    rw [put, if_neg (Ne.symm fresh.1), ih fresh.2, List.cons_append]

theorem names_put_known {name : String} {items : List (String × α)} (known : name ∈ names items) (item : α) :
    names (put name item items) = names items := by
  induction items with
  | nil => cases known
  | cons head rest ih =>
    by_cases same : head.1 = name
    · rw [put, if_pos same]
      rfl
    · have later : name ∈ names rest := (List.mem_cons.mp known).resolve_left (Ne.symm same)
      rw [put, if_neg same]
      exact congrArg (head.1 :: ·) (ih later)

theorem names_put_fresh {name : String} {items : List (String × α)} (fresh : name ∉ names items) (item : α) :
    names (put name item items) = names items ++ [name] := by
  rw [put_fresh fresh, names, List.map_append]
  rfl

theorem names_put (name : String) (item : α) (items : List (String × α)) : names (put name item items) =
    if name ∈ names items then names items else names items ++ [name] := by
  split
  · exact names_put_known ‹_› item
  · exact names_put_fresh ‹_› item

-- What stands under other names is not touched, nor moved among itself.
theorem filter_put (name : String) (item : α) (items : List (String × α)) :
    (put name item items).filter (·.1 ≠ name) = items.filter (·.1 ≠ name) := by
  induction items with
  | nil => simp [put]
  | cons entry rest ih =>
    by_cases here : entry.1 = name
    · simp [put, here]
    · rw [put, if_neg here, List.filter_cons, List.filter_cons, ih]

theorem mem_put {name : String} {items : List (String × α)} {entry : String × α} {item : α}
    (member : entry ∈ put name item items) :
    entry = (name, item) ∨ entry ∈ items := by
  induction items with
  | nil => exact .inl (List.mem_singleton.mp member)
  | cons head rest ih =>
    by_cases same : head.1 = name
    · rw [put, if_pos same, same] at member
      exact (List.mem_cons.mp member).imp id (List.mem_cons_of_mem _)
    · rw [put, if_neg same] at member
      rcases List.mem_cons.mp member with here | later
      · exact .inr (here ▸ List.mem_cons_self)
      · exact (ih later).imp id (List.mem_cons_of_mem _)

end Named

-- An entry as it was sent, with the payload that is restored from its bytes.
structure SentEntry (κ : Type) where
  name : String
  inner : Bytes
  payload : Payload κ

def SentEntry.wire (order : ByteOrder) (entry : SentEntry κ) : Bytes :=
  order.counted (Utf8.encode entry.name) ++ order.counted entry.inner

namespace Container

-- The container with the entries put into it, each in the place of the one before it under its name.
def collect (entries : List (SentEntry κ)) (container : Container κ) : Container κ :=
  entries.foldl (fun container entry => (container.add entry.name entry.payload).1) container

theorem names_add (container : Container κ) (name : String) (payload : Payload κ) :
    (container.add name payload).1.names =
      if name ∈ container.names then container.names else container.names ++ [name] :=
  Named.names_put name payload container.entries

-- Whatever holds of all that was there and of all that came holds of what is there then.
theorem collect_forall {holds : String × Payload κ → Prop} {entries : List (SentEntry κ)}
    {container : Container κ} (before : ∀ entry ∈ container.entries, holds entry)
    (each : ∀ entry ∈ entries, holds (entry.name, entry.payload)) :
    ∀ entry ∈ (container.collect entries).entries, holds entry := by
  induction entries generalizing container with
  | nil => exact before
  | cons entry rest ih =>
    obtain ⟨one, others⟩ := List.forall_mem_cons.mp each
    refine ih (fun own member => ?_) others
    rcases Named.mem_put member with rfl | old
    · exact one
    · exact before own old

-- Names that differ displace nothing.
theorem collect_distinct {entries : List (SentEntry κ)} {container : Container κ}
    (distinct : (container.names ++ entries.map (·.name)).Nodup) :
    (container.collect entries).entries =
      container.entries ++ entries.map fun entry => (entry.name, entry.payload) := by
  induction entries generalizing container with
  | nil => exact (List.append_nil _).symm
  | cons entry rest ih =>
    have fresh : entry.name ∉ Named.names container.entries := by
      intro member
      have apart := (List.nodup_append.mp distinct).2.2 _ member entry.name List.mem_cons_self
      exact apart rfl
    have added : (container.add entry.name entry.payload).1.entries =
        container.entries ++ [(entry.name, entry.payload)] := Named.put_fresh fresh _
    have still : ((container.add entry.name entry.payload).1.names ++ rest.map (·.name)).Nodup := by
      simpa [names, Named.names, added] using distinct
    have tail := ih still
    rw [added, List.append_assoc] at tail
    exact tail

theorem accepts_receive (order : ByteOrder) (container : Container κ) (name : String)
    (payload : Payload κ) : (container.receive name payload).Accepts order
      fun wire filled => wire = [] ∧ filled = (container.add name payload).1 := by
  intro state consumed unread same filled answered
  cases answered
  exact ⟨[], unread, ⟨rfl, rfl⟩, rfl, same⟩

end Container

variable [Cargo κ] {order : ByteOrder} {registry : Registry κ}

-- The blank under the name takes the bytes and ends up as the payload.
def Registry.Restores (registry : Registry κ) (order : ByteOrder) (name : String) (inner : Bytes)
    (payload : Payload κ) : Prop :=
  ∃ blank, registry.create name = .ok blank ∧
    (blank.read (.ofBytes order inner)).outcome = .ok () ∧
    (blank.read (.ofBytes order inner)).value = payload

-- The numbers before name and bytes are true ones, and the registry can restore the payload.
structure SentEntry.Restorable (order : ByteOrder) (registry : Registry κ) (entry : SentEntry κ) : Prop where
  shortName : (Utf8.encode entry.name).length < 2 ^ 32
  shortInner : entry.inner.length < 2 ^ 32
  restored : registry.Restores order entry.name entry.inner entry.payload

namespace Container

theorem reads_fill {blank : Payload κ} {data : Bytes}
    (taken : (blank.read (.ofBytes order data)).outcome = .ok ()) :
    (fill blank data).Reads order [] (blank.read (.ofBytes order data)).value := by
  intro state consumed tail same
  change state.buffer = ⟨order, consumed, tail⟩ at same
  have kept : state.buffer.order = order := by rw [same]
  unfold fill
  simp only [kept, taken]
  exact ⟨trivial, same⟩

theorem reads_entry (container : Container κ) {entry : SentEntry κ}
    (restorable : entry.Restorable order registry) :
    (container.readEntry registry).Reads order (entry.wire order)
      (container.add entry.name entry.payload).1 := by
  obtain ⟨blank, made, taken, restored⟩ := restorable.restored
  refine (Buffer.reads_getString order restorable.shortName).onBuffer.bind ?_
  refine (Buffer.reads_getBytes order restorable.shortInner).onBuffer.finish ?_
  simp only [made, ← restored]
  exact (reads_fill taken).bind fun state consumed tail same => ⟨rfl, same⟩

theorem reads_entries {entries : List (SentEntry κ)}
    (restorable : ∀ entry ∈ entries, entry.Restorable order registry) (container : Container κ) :
    (readEntries registry entries.length container).Reads order
      (entries.flatMap (SentEntry.wire order)) (container.collect entries) := by
  induction entries generalizing container with
  | nil => exact fun state consumed tail same => ⟨rfl, same⟩
  | cons entry rest ih =>
    intro state consumed tail same
    rw [List.flatMap_cons, List.append_assoc] at same
    have head := reads_entry container (restorable entry List.mem_cons_self)
      state consumed (rest.flatMap (SentEntry.wire order) ++ tail) same
    rw [List.length_cons, List.flatMap_cons, List.reverse_append, List.append_assoc]
    unfold readEntries
    rcases ran : container.readEntry registry state with ⟨outcome, middle⟩
    rw [ran] at head
    obtain ⟨answered, after⟩ := head
    dsimp only at answered after
    subst answered
    exact ih (fun entry member => restorable entry (List.mem_cons_of_mem _ member)) _ middle _ tail after

theorem accepts_fill (order : ByteOrder) (blank : Payload κ) (data : Bytes) :
    (fill blank data).Accepts order fun wire payload => wire = [] ∧
      (blank.read (.ofBytes order data)).outcome = .ok () ∧
      (blank.read (.ofBytes order data)).value = payload := by
  intro state consumed unread same payload answered
  change state.buffer = ⟨order, consumed, unread⟩ at same
  have kept : state.buffer.order = order := by rw [same]
  unfold fill at answered ⊢
  simp only [kept] at answered ⊢
  cases taken : (blank.read (.ofBytes order data)).outcome with
  | error e =>
    simp only [taken] at answered
    cases answered
  | ok done =>
    simp only [taken] at answered ⊢
    cases answered
    exact ⟨[], unread, ⟨rfl, trivial, rfl⟩, rfl, same⟩

theorem accepts_restored (order : ByteOrder) (registry : Registry κ) (container : Container κ)
    (name : String) (data : Bytes) : (match registry.create name with
      | .error e => .fail e
      | .ok blank => do
        let payload ← fill blank data
        container.receive name payload : Reader (Decoding κ) (Container κ)).Accepts order
      fun wire filled => wire = [] ∧
        ∃ payload, registry.Restores order name data payload ∧ filled = (container.add name payload).1 := by
  cases made : registry.create name with
  | error e => exact accepts_fail e _
  | ok blank =>
    refine (accepts_fill order blank data).bind (accepts_receive order container name) ?_
    rintro payload filled front back ⟨rfl, restored⟩ ⟨rfl, rfl⟩
    exact ⟨rfl, payload, ⟨blank, made, restored⟩, rfl⟩

theorem accepts_entry (order : ByteOrder) (registry : Registry κ) (container : Container κ) :
    (container.readEntry registry).Accepts order fun wire filled => ∃ entry : SentEntry κ,
      entry.Restorable order registry ∧ wire = entry.wire order ∧
        filled = (container.add entry.name entry.payload).1 := by
  have behind : ∀ name, (do
      let data ← Decoding.onBuffer Buffer.getBytes
      match registry.create name with
      | .error e => .fail e
      | .ok blank =>
        let payload ← fill blank data
        container.receive name payload : Reader (Decoding κ) (Container κ)).Accepts order
      fun wire filled => ∃ data payload, data.length < 2 ^ 32 ∧ wire = order.counted data ∧
        registry.Restores order name data payload ∧ filled = (container.add name payload).1 := by
    intro name
    refine (Buffer.accepts_getBytes order).onBuffer.bind
      (accepts_restored order registry container name) ?_
    rintro data filled front back ⟨short, rfl⟩ ⟨rfl, payload, restored, rfl⟩
    exact ⟨data, payload, short, List.append_nil _, restored, rfl⟩
  refine (Buffer.accepts_getString order).onBuffer.bind behind ?_
  rintro name filled front back ⟨shortName, rfl⟩ ⟨data, payload, shortInner, rfl, restored, rfl⟩
  exact ⟨⟨name, data, payload⟩, ⟨shortName, shortInner, restored⟩, rfl, rfl⟩

theorem accepts_entries (order : ByteOrder) (registry : Registry κ) (count : Nat)
    (container : Container κ) : (readEntries registry count container).Accepts order
      fun wire filled => ∃ entries : List (SentEntry κ), entries.length = count ∧
        (∀ entry ∈ entries, entry.Restorable order registry) ∧
        wire = entries.flatMap (SentEntry.wire order) ∧ filled = container.collect entries := by
  induction count generalizing container with
  | zero =>
    intro state consumed unread same filled answered
    cases answered
    exact ⟨[], unread, ⟨[], rfl, by simp, rfl, rfl⟩, rfl, same⟩
  | succ count ih =>
    intro state consumed unread same filled answered
    have head := accepts_entry order registry container state consumed unread same
    unfold readEntries at answered ⊢
    rcases ran : container.readEntry registry state with ⟨e | middle, left⟩
    · simp only [ran] at answered
      cases answered
    · simp only [ran] at answered head ⊢
      obtain ⟨front, rest, ⟨entry, restorable, rfl, rfl⟩, split, after⟩ := head middle rfl
      obtain ⟨back, tail, ⟨entries, counted, others, rfl, rfl⟩, cut, done⟩ :=
        ih _ left _ rest after filled answered
      refine ⟨entry.wire order ++ entries.flatMap (SentEntry.wire order), tail,
        ⟨entry :: entries, ?_, ?_, rfl, rfl⟩, ?_, ?_⟩
      · rw [List.length_cons, counted]
      · exact List.forall_mem_cons.mpr ⟨restorable, others⟩
      · rw [split, cut, List.append_assoc]
      · rw [done, List.reverse_append, List.append_assoc]

end Container
end RecordBridge
