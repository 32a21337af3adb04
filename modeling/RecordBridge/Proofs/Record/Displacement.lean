import RecordBridge.Proofs.Record.NormalForm
import RecordBridge.Proofs.Record.Putting

namespace RecordBridge

variable {κ : Type}

namespace Container

-- What became of the entries of a stream: the first entry under a name made the place, the last one filled
-- it, and there is a place for every entry only if no name came again.
structure Collapses (container : Container κ) (entries : List (SentEntry κ)) : Prop where
  names : container.names = (entries.map (·.name)).eraseDups
  last : ∀ name, container.find? name = (entries.reverse.find? (·.name = name)).map (·.payload)
  whole : container.size = entries.length ↔ (entries.map (·.name)).Nodup
  inOrder : container.names = entries.map (·.name) ↔ (entries.map (·.name)).Nodup

variable (entries : List (SentEntry κ))

theorem entries_collect (container : Container κ) : (container.collect entries).entries =
    Named.putAll (entries.map fun entry => (entry.name, entry.payload)) container.entries := by
  induction entries generalizing container with
  | nil => rfl
  | cons entry rest ih => exact ih (container.add entry.name entry.payload).1

theorem collect_names : (Container.empty.collect entries).names = (entries.map (·.name)).eraseDups := by
  have sent : Named.names (entries.map fun entry => (entry.name, entry.payload)) = entries.map (·.name) :=
    List.map_map
  rw [names, entries_collect, Named.names_putAll, sent]
  simp [Named.fresh, empty, Named.names]

theorem collect_last (name : String) : (Container.empty.collect entries).find? name =
    (entries.reverse.find? (·.name = name)).map (·.payload) := by
  rw [find?, entries_collect, Named.find?_putAll, ← List.map_reverse, Named.find?_map]
  exact Option.or_none

theorem collect_collapses : (Container.empty.collect entries).Collapses entries := by
  have whole : (Container.empty.collect entries).size = entries.length ↔ (entries.map (·.name)).Nodup := by
    have none : (Container.empty : Container κ).size = 0 := rfl
    constructor
    · intro filled
      exact (@collect_size κ entries .empty).2 (by omega) List.nodup_nil
    · intro distinct
      rw [size, @collect_distinct κ entries .empty distinct]
      exact List.length_map _
  refine ⟨collect_names entries, collect_last entries, whole, fun same => ?_, fun distinct => ?_⟩
  · rw [← whole, ← size_names, same, List.length_map]
  · rw [names, Named.names, @collect_distinct κ entries .empty distinct]
    exact List.map_map

end Container

variable [Cargo κ] {order : ByteOrder} {registry : Registry κ}

-- Every stream that is accepted with a flag but zero is some number of entries behind that number, and of
-- those the container holds the last under every name.
theorem entries_collapsed {bs : Bytes} {ledger : Ledger} {received : Record κ} {rest : Buffer}
    (read : (Record.deserialize registry (.ofBytes order bs) ledger).1 = (.ok received, rest)) :
    (∃ sent : SentRecord κ, sent.Restorable order registry ∧ bs = sent.wire order ++ rest.unread) ∧
      ∀ sent : SentRecord κ, sent.Restorable order registry → bs = sent.wire order ++ rest.unread →
        received.attributes = sent.attributes ∧
        (sent.payloads.flag = 0 → received.payloads = none) ∧
        (sent.payloads.flag ≠ 0 → ∃ container, received.payloads = some container ∧
          container.Collapses sent.payloads.entries) := by
  obtain ⟨first, restorable, rfl, split, stopped⟩ := Record.deserialize_accepted read
  refine ⟨⟨first, restorable, split⟩, fun sent accepted whole => ?_⟩
  have again := Record.deserialize_sent accepted [] rest.unread ledger
  rw [← whole] at again
  have same : first.received = sent.received := Except.ok.inj (congrArg Prod.fst (read.symm.trans again))
  rw [same]
  refine ⟨rfl, fun absent => ?_, fun present => ?_⟩
  · exact if_pos absent
  · exact ⟨_, if_neg present, Container.collect_collapses sent.payloads.entries⟩

-- Of the two pairs the second stays, in the place of the first.
theorem collapsed_of_repeats :
    (Record.deserialize .ofPairs (.ofBytes .network (SentRecord.ofRepeats.wire .network ++ [7])) .initial).1 =
      (.ok SentRecord.ofRepeats.received,
        ⟨.network, (SentRecord.ofRepeats.wire .network).reverse, [7]⟩) ∧
    ∃ container, SentRecord.ofRepeats.received.payloads = some container ∧
      container.names = [slotName, "pair"] ∧ container.find? "pair" = some (.fields [.bytes [], .number 6]) ∧
      container.size ≠ 3 := by
  have read := Record.deserialize_sent SentRecord.ofRepeats_restorable [] [7] .initial
  rw [List.append_nil] at read
  obtain ⟨-, facts⟩ := entries_collapsed read
  obtain ⟨-, -, payloads⟩ := facts _ SentRecord.ofRepeats_restorable rfl
  have present : SentRecord.ofRepeats.payloads.flag ≠ 0 := by decide
  obtain ⟨container, found, collapses⟩ := payloads present
  refine ⟨read, container, found, ?_, ?_, fun filled => ?_⟩
  · rw [collapses.names]
    rfl
  · rw [collapses.last]
    rfl
  · exact absurd (collapses.whole.mp filled) (by decide)

-- Two entries are announced and come, both under one name; the reading succeeds and one is there.
theorem repeated_name_displaced :
    (Record.deserialize (⟨[("k", .fields [.number 0])]⟩ : Registry)
      (.ofBytes .network [0, 0, 0, 0, 0, 0, 0, 1, 0, 0, 0, 2,
        0, 0, 0, 1, 0x6B, 0, 0, 0, 4, 0, 0, 0, 5,
        0, 0, 0, 1, 0x6B, 0, 0, 0, 4, 0, 0, 0, 6]) .initial).1.1 =
      .ok ⟨[], some ⟨[("k", .fields [.number 6])]⟩⟩ := rfl

end RecordBridge
