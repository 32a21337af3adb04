import RecordBridge.Proofs.Record.Transport

namespace RecordBridge

open Reader

variable {κ : Type}

namespace Record

theorem steady_value : Value.read.Steady := by
  refine Buffer.steady_getU32.bind fun tag => ?_
  split
  · exact Buffer.steady_getBytes.bind fun _ => steady_pure _
  · split
    · exact Buffer.steady_getBytes.bind fun _ => steady_pure _
    · exact steady_fail _

theorem steady_attribute : readAttribute.Steady :=
  Buffer.steady_getString.bind fun _ => steady_value.bind fun _ => steady_pure _

theorem steady_attributes (count : Nat) : (readAttributes count).Steady := by
  induction count with
  | zero => exact steady_pure []
  | succ count ih => exact steady_attribute.bind fun _ => ih.bind fun _ => steady_pure _

theorem steady_counted : readCounted.Steady :=
  Buffer.steady_getU32.bind fun count => steady_attributes count.toNat

end Record

namespace Container

theorem steady_receive (container : Container κ) (name : String) (payload : Payload κ) :
    (container.receive name payload).Steady := fun _ _ _ => rfl

variable [Cargo κ]

-- A payload reads from its own bytes and does not see what comes after them.
theorem steady_fill (blank : Payload κ) (data : Bytes) : (fill blank data).Steady := by
  intro state tail enough
  have same : (Buffered.extend state tail).buffer.order = state.buffer.order := rfl
  unfold fill
  simp only [same]
  cases (blank.read (.ofBytes state.buffer.order data)).outcome <;> rfl

theorem steady_entry (registry : Registry κ) (container : Container κ) : (container.readEntry registry).Steady := by
  refine Buffer.steady_getString.onBuffer.bind fun name => ?_
  refine Buffer.steady_getBytes.onBuffer.bind fun data => ?_
  cases registry.create name with
  | error e => exact steady_fail e
  | ok blank => exact (steady_fill blank data).bind fun payload => steady_receive container name payload

theorem steady_entries (registry : Registry κ) (count : Nat) (container : Container κ) :
    (readEntries registry count container).Steady := by
  induction count generalizing container with
  | zero => exact fun _ _ _ => rfl
  | succ count ih =>
    intro state tail enough
    have entry := steady_entry registry container state tail
    unfold readEntries at enough ⊢
    rcases ran : container.readEntry registry state with ⟨e | filled, middle⟩
    · simp only [ran] at entry enough ⊢
      rw [entry enough]
      rfl
    · simp only [ran] at entry enough ⊢
      rw [entry id]
      exact ih filled middle tail enough

end Container

variable [Cargo κ]

namespace Record

theorem steady_payloads (registry : Registry κ) : (readPayloads registry).Steady := by
  refine Buffer.steady_getU32.onBuffer.bind fun flag => ?_
  split
  · exact steady_pure none
  · refine Steady.bind ?_ fun container => steady_pure (some container)
    exact Buffer.steady_getU32.onBuffer.bind fun count => Container.steady_entries registry count.toNat .empty

theorem steady_record (registry : Registry κ) : (Record.read registry).Steady :=
  steady_counted.onBuffer.bind fun _ => (steady_payloads registry).bind fun _ => steady_pure _

variable {order : ByteOrder} {registry : Registry κ}

theorem deserialize_append {bs : Bytes} {ledger : Ledger} {outcome : Except HostError (Record κ)}
    {rest : Buffer} (read : (deserialize registry (.ofBytes order bs) ledger).1 = (outcome, rest))
    (enough : ¬ RanOut outcome) (tail : Bytes) :
    (deserialize registry (.ofBytes order (bs ++ tail)) ledger).1 = (outcome, rest.append tail) := by
  obtain ⟨rfl, rfl⟩ := Prod.mk.inj read
  have longer := steady_record registry (.start (.ofBytes order bs)) tail enough
  exact congrArg (fun done => (done.1, done.2.buffer)) longer

-- All bytes are needed: a beginning that was enough would leave the others over.
theorem deserialize_cut {record : Record κ} (sound : record.Transportable order registry)
    {cut tail : Bytes} (whole : cut ++ tail = record.wire order) (missing : tail ≠ []) (ledger : Ledger) :
    RanOut (deserialize registry (.ofBytes order cut) ledger).1.1 := by
  by_contra enough
  have complete := deserialize_wire sound [] [] ledger
  have longer := deserialize_append (Prod.eta _).symm enough tail
  rw [List.append_nil, ← whole] at complete
  have left := (congrArg (fun done => done.2.unread) longer).symm.trans
    (congrArg (fun done => done.2.unread) complete)
  exact missing (List.append_eq_nil_iff.mp left).2

end Record

theorem reading_stable (order : ByteOrder) (registry : Registry κ) (ledger : Ledger) :
    (∀ bs tail record rest,
      (Record.deserialize registry (.ofBytes order bs) ledger).1 = (.ok record, rest) →
      (Record.deserialize registry (.ofBytes order (bs ++ tail)) ledger).1 =
        (.ok record, rest.append tail) ∧
      (rest.append tail).remaining = rest.remaining + tail.length) ∧
    (∀ bs tail e rest,
      (Record.deserialize registry (.ofBytes order bs) ledger).1 = (.error e, rest) →
      (∀ needed remaining, e ≠ .underrun needed remaining) →
      (Record.deserialize registry (.ofBytes order (bs ++ tail)) ledger).1 =
        (.error e, rest.append tail)) ∧
    ∀ record : Record κ, record.Transportable order registry →
      ∀ cut, cut <+: record.serialize order → cut ≠ record.serialize order →
        ∃ needed remaining, (Record.deserialize registry (.ofBytes order cut) ledger).1.1 =
          .error (.underrun needed remaining) := by
  refine ⟨?_, ?_, ?_⟩
  · intro bs tail record rest read
    exact ⟨Record.deserialize_append read id tail, List.length_append⟩
  · intro bs tail e rest read other
    refine Record.deserialize_append read ?_ tail
    intro out
    cases e with
    | underrun needed remaining => exact other needed remaining rfl
    | _ => exact out
  · intro record sound cut beginning proper
    obtain ⟨tail, whole⟩ := beginning
    have missing : tail ≠ [] := by
      rintro rfl
      exact proper ((List.append_nil cut).symm.trans whole)
    have out := Record.deserialize_cut sound (whole.trans (record.serialize_exact order)) missing ledger
    generalize (Record.deserialize registry (.ofBytes order cut) ledger).1.1 = outcome at out
    match outcome, out with
    | .error (.underrun needed remaining), _ => exact ⟨needed, remaining, rfl⟩

theorem reading_stable_of_pair :
    (∃ record rest,
      (Record.deserialize .ofPairs (.ofBytes .network (Record.ofPair.wire .network)) .initial).1 =
        (.ok record, rest) ∧
      (Record.deserialize .ofPairs (.ofBytes .network (Record.ofPair.wire .network ++ [9])) .initial).1 =
        (.ok record, rest.append [9])) ∧
    (∃ rest,
      (Record.deserialize .ofPairs (.ofBytes .network [0, 0, 0, 1, 0, 0, 0, 0, 0, 0, 0, 9]) .initial).1 =
        (.error (.unknownAttributeTag 9), rest) ∧
      (Record.deserialize .ofPairs
          (.ofBytes .network ([0, 0, 0, 1, 0, 0, 0, 0, 0, 0, 0, 9] ++ [1])) .initial).1 =
        (.error (.unknownAttributeTag 9), rest.append [1])) ∧
    Record.ofPair.Transportable .network .ofPairs ∧
    [0, 0, 0, 2] <+: Record.ofPair.serialize .network ∧
    [0, 0, 0, 2] ≠ Record.ofPair.serialize .network ∧
    ∃ needed remaining,
      (Record.deserialize .ofPairs (.ofBytes .network [0, 0, 0, 2]) .initial).1.1 =
        .error (.underrun needed remaining) := by
  obtain ⟨longer, failed, cut⟩ := reading_stable .network .ofPairs .initial
  have whole := Record.deserialize_wire Record.ofPair_transportable [] [] .initial
  rw [List.append_nil] at whole
  have other : ∀ needed remaining,
      HostError.unknownAttributeTag 9 ≠ .underrun needed remaining := nofun
  have beginning : [0, 0, 0, 2] <+: Record.ofPair.serialize .network := by decide
  have proper : [0, 0, 0, 2] ≠ Record.ofPair.serialize .network := by decide
  exact ⟨⟨_, _, whole, (longer _ [9] _ _ whole).1⟩, ⟨_, rfl, failed _ [1] _ _ rfl other⟩,
    Record.ofPair_transportable, beginning, proper,
    cut Record.ofPair Record.ofPair_transportable _ beginning proper⟩

end RecordBridge
