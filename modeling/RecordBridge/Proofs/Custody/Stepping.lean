import RecordBridge.Proofs.Custody.Conservation
import RecordBridge.Proofs.Custody.Workers
import RecordBridge.Proofs.Record.Sent

namespace RecordBridge

variable {κ : Type}

namespace Record

theorem lookup_found (record : Record κ) (ledger : Ledger) :
    (record.lookup ledger).1 = record.slot?.join := by
  unfold lookup
  rcases record.slot? with _ | _ | object <;> rfl

theorem attached_held {record : Record κ} {object : ObjectId} (attached : record.slot? = some (some object)) :
    ∃ payload ∈ record.owned, payload.held? = some object := by
  unfold slot? at attached
  cases found : record.payload? slotName with
  | none => simp [found] at attached
  | some payload =>
    rw [found] at attached
    obtain ⟨container, there, entry⟩ := Option.bind_eq_some_iff.mp found
    have member : payload ∈ record.owned := by
      rw [owned, Record.container, there]
      exact List.mem_map.mpr ⟨_, Named.find?_member entry, rfl⟩
    cases payload with
    | reference held =>
      simp only [Option.some.injEq] at attached
      exact ⟨.reference held, member, attached⟩
    | own content => cases attached

end Record

namespace Record

variable [Cargo κ] {registry : Registry κ}

-- Nothing that was read holds an object.
theorem received_holds_nothing {order : ByteOrder} {sent : SentRecord κ}
    (restorable : sent.Restorable order registry) : ∀ payload ∈ sent.received.owned, payload.held? = none := by
  have filled : ∀ entry ∈ sent.payloads.entries, entry.payload.held? = none := by
    intro entry member
    obtain ⟨blank, -, -, restored⟩ := (restorable.payloads.each entry member).restored
    rw [← restored]
    exact blank.read_holds_nothing _
  have collected : ∀ entry ∈ (Container.empty.collect sent.payloads.entries).entries, entry.2.held? = none :=
    Container.collect_forall (List.forall_mem_nil _) filled
  intro payload member
  obtain ⟨entry, inside, rfl⟩ := List.mem_map.mp member
  rw [container, SentRecord.received, SentPayloads.received] at inside
  by_cases absent : sent.payloads.flag = 0
  · rw [if_pos absent] at inside
    cases inside
  · rw [if_neg absent] at inside
    exact collected entry inside

theorem references_deserialize (nothing : registry.HoldsNothing) (order : ByteOrder) (bs : Bytes)
    (ledger : Ledger) :
    (deserialize registry (.ofBytes order bs) ledger).2.references = ledger.references := by
  funext object
  have moved := (Account.references object).balance_deserialize nothing (.ofBytes order bs) ledger
  refine moved.trans ?_
  rcases read : (deserialize registry (.ofBytes order bs) ledger).1 with ⟨e | received, rest⟩
  · exact Int.add_zero _
  · obtain ⟨sent, restorable, rfl, -⟩ := deserialize_accepted read
    have none : sent.received.owned.countP (·.held? = some object) = 0 :=
      List.countP_eq_zero.mpr fun payload member => by
        simp [received_holds_nothing restorable payload member]
    rw [Account.gain_ok, Account.ofRecord, Account.shares_references, none]
    exact Int.add_zero _

end Record

namespace Ledger

-- At most one reference was taken or given back.
def Single (before after : Ledger) : Prop := after.references = before.references ∨
  ∃ object, after.references = (before.acquire object).references ∨
    after.references = (before.release object).references

theorem references_held (ledger : Ledger) (change : Ledger → Ledger)
    (own : ∀ one other : Ledger, one.references = other.references →
      (change one).references = (change other).references) :
    (ledger.held change).references = (change ledger).references := by
  refine own ledger.enter ledger ?_
  unfold enter
  dsimp only
  split <;> rfl

theorem references_adjust {one other : Ledger} (same : one.references = other.references) (object : ObjectId)
    (change : Int) : (one.adjust object change).references = (other.adjust object change).references := by
  simp only [adjust, same]

theorem single_apply (ledger : Ledger) (event : PayloadEvent κ) : ledger.Single (ledger.apply event) := by
  have acquired : ∀ payload : Payload κ, ledger.Single (ledger.touch payload acquire) := by
    intro payload
    unfold touch
    cases payload.held? with
    | none => exact .inl rfl
    | some object =>
      exact .inr ⟨object, .inl (ledger.references_held _ fun _ _ same => references_adjust same object 1)⟩
  have released : ∀ payload : Payload κ, ledger.Single (ledger.touch payload release) := by
    intro payload
    unfold touch
    cases payload.held? with
    | none => exact .inl rfl
    | some object =>
      exact .inr ⟨object, .inr (ledger.references_held _ fun _ _ same => references_adjust same object (-1))⟩
  cases event with
  | created payload => exact .inl rfl
  | cloned payload => exact acquired payload
  | reset payload => exact released payload
  | dropped payload => exact released payload

end Ledger

namespace Worker

variable [Cargo κ] (seed : Record κ)

-- The ledger keeps the accounts and gives no orders.
theorem begin_alone (command : Command κ) (worker : Worker κ) (ledger other : Ledger) :
    (begin seed command worker ledger).1 = (begin seed command worker other).1 := by
  cases command with
  | clone source target =>
    simp only [begin]
    cases worker.record? seed source <;> rfl
  | drop name => rfl
  | attach name object =>
    simp only [begin]
    cases Named.find? name worker.records <;> rfl
  | lookup source =>
    simp only [begin]
    cases worker.record? seed source with
    | none => rfl
    | some record => simp only [Record.lookup_found]
  | transport source target order readOrder registry nothing =>
    simp only [begin]
    cases worker.record? seed source <;> rfl

theorem advance_alone (worker : Worker κ) (ledger other : Ledger) :
    (worker.advance seed ledger).1 = (worker.advance seed other).1 := by
  obtain ⟨program, records, task, answers⟩ := worker
  cases task with
  | idle =>
    cases program with
    | nil => rfl
    | cons command rest => exact begin_alone seed command ⟨rest, records, .idle, answers⟩ ledger other
  | copying target copy left => cases left <;> rfl
  | releasing left => cases left <;> rfl
  | attaching name object =>
    simp only [advance]
    cases Named.find? name records <;> rfl
  | displacing payload => rfl
  | looking object => rfl

theorem steps_alone (count : Nat) (worker : Worker κ) (ledger other : Ledger) :
    (steps seed count worker ledger).1 = (steps seed count worker other).1 := by
  induction count generalizing worker ledger other with
  | zero => rfl
  | succ count ih =>
    rw [steps, steps, advance_alone seed worker ledger other]
    exact ih _ _ _

theorem steps_add (first second : Nat) (worker : Worker κ) (ledger : Ledger) :
    steps seed (first + second) worker ledger =
      steps seed second (steps seed first worker ledger).1 (steps seed first worker ledger).2 := by
  induction first generalizing worker ledger with
  | zero => rw [Nat.zero_add, steps]
  | succ first ih =>
    rw [Nat.succ_add, steps, steps]
    exact ih _ _

theorem begin_single (command : Command κ) (worker : Worker κ) (ledger : Ledger) :
    ledger.Single (begin seed command worker ledger).2 := by
  cases command with
  | clone source target =>
    rw [begin]
    cases worker.record? seed source <;> exact .inl rfl
  | drop name => exact .inl rfl
  | attach name object =>
    rw [begin]
    cases Named.find? name worker.records with
    | none => exact .inl rfl
    | some record => exact .inr ⟨object, .inl rfl⟩
  | lookup source =>
    rw [begin]
    cases worker.record? seed source with
    | none => exact .inl rfl
    | some record =>
      dsimp only
      unfold Record.lookup
      split
      · exact .inr ⟨_, .inl rfl⟩
      · exact .inl rfl
  | transport source target order readOrder registry nothing =>
    rw [begin]
    cases worker.record? seed source with
    | none => exact .inl rfl
    | some record => exact .inl (Record.references_deserialize nothing readOrder _ ledger)

-- Between two turns at most one count changes, by one: nothing is hidden inside a step.
theorem advance_single (worker : Worker κ) (ledger : Ledger) : ledger.Single (worker.advance seed ledger).2 := by
  obtain ⟨program, records, task, answers⟩ := worker
  cases task with
  | idle =>
    cases program with
    | nil => exact .inl rfl
    | cons command rest => exact begin_single seed command ⟨rest, records, .idle, answers⟩ ledger
  | copying target copy left =>
    cases left with
    | nil => exact .inl rfl
    | cons entry left => exact ledger.single_apply (.cloned entry.2)
  | releasing left =>
    cases left with
    | nil => exact .inl rfl
    | cons payload left => exact ledger.single_apply (.dropped payload)
  | attaching name object =>
    simp only [advance]
    cases Named.find? name records with
    | none => exact .inr ⟨object, .inr rfl⟩
    | some record => exact .inl rfl
  | displacing payload =>
    rcases payload with ⟨_ | object⟩ | content
    · exact .inl rfl
    · exact .inr ⟨object, .inr rfl⟩
    · exact .inl rfl
  | looking object => exact .inr ⟨object, .inr rfl⟩

-- Every answer is what the slot held that was looked into.
def Truthful (worker : Worker κ) : Prop := ∀ entry ∈ worker.answers, entry.2 = entry.1.slot?.join

theorem begin_truthful (command : Command κ) {worker : Worker κ} (truthful : worker.Truthful)
    (ledger : Ledger) : (begin seed command worker ledger).1.Truthful := by
  cases command with
  | clone source target =>
    rw [begin]
    cases worker.record? seed source <;> exact truthful
  | drop name => exact truthful
  | attach name object =>
    rw [begin]
    cases Named.find? name worker.records <;> exact truthful
  | lookup source =>
    rw [begin]
    cases worker.record? seed source with
    | none => exact truthful
    | some record =>
      refine List.forall_mem_append.mpr ⟨truthful, ?_⟩
      exact List.forall_mem_singleton.mpr (record.lookup_found ledger)
  | transport source target order readOrder registry nothing =>
    rw [begin]
    cases worker.record? seed source with
    | none => exact truthful
    | some record =>
      dsimp only [receive]
      split <;> exact truthful

theorem advance_truthful {worker : Worker κ} (truthful : worker.Truthful) (ledger : Ledger) :
    (worker.advance seed ledger).1.Truthful := by
  obtain ⟨program, records, task, answers⟩ := worker
  cases task with
  | idle =>
    cases program with
    | nil => exact truthful
    | cons command rest =>
      exact @begin_truthful κ _ seed command ⟨rest, records, .idle, answers⟩ truthful ledger
  | copying target copy left => cases left <;> exact truthful
  | releasing left => cases left <;> exact truthful
  | attaching name object =>
    simp only [advance]
    cases Named.find? name records <;> exact truthful
  | displacing payload => exact truthful
  | looking object => exact truthful

def Finished (worker : Worker κ) : Prop := worker.program = [] ∧ worker.task = .idle

theorem steps_finished {worker : Worker κ} (finished : worker.Finished) (count : Nat) (ledger : Ledger) :
    steps seed count worker ledger = (worker, ledger) := by
  have still : worker.advance seed ledger = (worker, ledger) := by
    rw [advance, finished.2, finished.1]
  induction count with
  | zero => rfl
  | succ count ih => rw [steps, still, ih]

-- A program comes to its end, and the worker stays there.
theorem finishes (program : List (Command κ)) {worker : Worker κ} (idle : worker.task = .idle)
    (same : worker.program = program) (ledger : Ledger) :
    ∃ enough, ∀ count ≥ enough, (steps seed count worker ledger).1.Finished := by
  induction program generalizing worker ledger with
  | nil => exact ⟨0, fun count _ => by rw [steps_finished seed ⟨same, idle⟩]; exact ⟨same, idle⟩⟩
  | cons command rest ih =>
    obtain ⟨first, settled, left, -⟩ := undisturbed seed idle same ledger
    obtain ⟨later, done⟩ := ih settled left (steps seed first worker ledger).2
    refine ⟨first + later, fun count enough => ?_⟩
    obtain ⟨more, rfl⟩ := Nat.exists_eq_add_of_le enough
    rw [Nat.add_assoc, steps_add]
    exact done (later + more) (Nat.le_add_right later more)

end Worker

end RecordBridge
