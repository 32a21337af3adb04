import RecordBridge.Proofs.Record.NormalForm
import RecordBridge.Proofs.Record.Putting

namespace RecordBridge

variable {κ : Type}

namespace Container

open scoped List

variable (container : Container κ)

-- Payloads added one after the other, and what each of them displaced.
def addAll : List (String × Payload κ) → Container κ → Container κ × List (Option (Payload κ))
  | [], container => (container, [])
  | entry :: rest, container =>
    let added := container.add entry.1 entry.2
    let later := addAll rest added.1
    (later.1, added.2 :: later.2)

-- What becomes of a container when payloads are added, and of the payloads. The answer that an addition gives
-- is told by what was found just before it.
structure Keeps (entries : List (String × Payload κ)) : Prop where
  last : ∀ name, (container.addAll entries).1.find? name =
    (Named.find? name entries.reverse).or (container.find? name)
  inOrder : (container.addAll entries).1.names =
    container.names ++ Named.fresh container.names (Named.names entries)
  answers : ∀ front name payload back, entries = front ++ (name, payload) :: back →
    (container.addAll entries).2[front.length]? = some ((container.addAll front).1.find? name) ∧
      ((container.addAll front).1.find? name = none ↔ name ∉ (container.addAll front).1.names)
  conserved : ((container.addAll entries).1.payloads ++ (container.addAll entries).2.filterMap id).Perm
    (container.payloads ++ entries.map (·.2))

theorem entries_addAll (entries : List (String × Payload κ)) :
    (container.addAll entries).1.entries = Named.putAll entries container.entries := by
  induction entries generalizing container with
  | nil => rfl
  | cons entry rest ih => exact ih (container.add entry.1 entry.2).1

theorem addAll_append (front back : List (String × Payload κ)) : container.addAll (front ++ back) =
    (((container.addAll front).1.addAll back).1,
      (container.addAll front).2 ++ ((container.addAll front).1.addAll back).2) := by
  induction front generalizing container with
  | nil => rfl
  | cons entry rest ih =>
    have later := ih (container.add entry.1 entry.2).1
    simp only [List.cons_append, addAll, later]

theorem length_answers (entries : List (String × Payload κ)) :
    (container.addAll entries).2.length = entries.length := by
  induction entries generalizing container with
  | nil => rfl
  | cons entry rest ih => exact congrArg Nat.succ (ih (container.add entry.1 entry.2).1)

theorem addAll_conserves (entries : List (String × Payload κ)) :
    ((container.addAll entries).1.payloads ++ (container.addAll entries).2.filterMap id).Perm
      (container.payloads ++ entries.map (·.2)) := by
  induction entries generalizing container with
  | nil => exact .refl _
  | cons entry rest ih =>
    have added : ((container.add entry.1 entry.2).1.payloads ++ (container.find? entry.1).toList).Perm
        (container.payloads ++ [entry.2]) := Named.put_perm entry.1 entry.2 container.entries
    have later := ih (container.add entry.1 entry.2).1
    have answers : (container.addAll (entry :: rest)).2.filterMap id =
        (container.find? entry.1).toList ++
          ((container.add entry.1 entry.2).1.addAll rest).2.filterMap id := by
      change (container.find? entry.1 :: _).filterMap id = _
      cases container.find? entry.1 <;> rfl
    -- What the first addition displaced is carried past all that the later ones do.
    rw [answers]
    calc ((container.add entry.1 entry.2).1.addAll rest).1.payloads ++ ((container.find? entry.1).toList ++
          ((container.add entry.1 entry.2).1.addAll rest).2.filterMap id)
      _ ~ ((container.add entry.1 entry.2).1.addAll rest).1.payloads ++
          (((container.add entry.1 entry.2).1.addAll rest).2.filterMap id ++
            (container.find? entry.1).toList) := List.perm_append_comm.append_left _
      _ ~ ((container.add entry.1 entry.2).1.payloads ++ rest.map (·.2)) ++
          (container.find? entry.1).toList := by
        rw [← List.append_assoc]
        exact later.append_right _
      _ ~ ((container.add entry.1 entry.2).1.payloads ++ (container.find? entry.1).toList) ++
          rest.map (·.2) := by
        rw [List.append_assoc, List.append_assoc]
        exact List.perm_append_comm.append_left _
      _ ~ container.payloads ++ (entry :: rest).map (·.2) := by
        rw [List.map_cons, ← List.singleton_append, ← List.append_assoc]
        exact added.append_right _

theorem keeps (entries : List (String × Payload κ)) : container.Keeps entries where
  last name := by
    rw [find?, entries_addAll, Named.find?_putAll]
    rfl
  inOrder := by
    rw [names, entries_addAll, Named.names_putAll]
    rfl
  answers front name payload back split := by
    refine ⟨?_, Named.find?_none⟩
    rw [split, addAll_append, List.getElem?_append_right (Nat.le_of_eq (container.length_answers front)),
      length_answers, Nat.sub_self]
    rfl
  conserved := container.addAll_conserves entries

variable [Cargo κ]

-- How a container comes about: it is made empty, or read from whatever bytes, or as the copy of another when
-- its record is copied, and payloads are added to it.
inductive Built : Container κ → Prop where
  | new : Built .empty
  | add {container : Container κ} (before : Built container) (name : String) (payload : Payload κ) :
      Built (container.add name payload).1
  | clone {container copy : Container κ} {owner : Record κ} (before : Built container)
      (own : owner.payloads = some container) (ledger : Ledger)
      (copied : (owner.clone ledger).1.payloads = some copy) : Built copy
  | read {container : Container κ} {registry : Registry κ} {start stop : Decoding κ}
      (accepted : Container.read registry start = (.ok container, stop)) : Built container

theorem read_nodup {registry : Registry κ} {start stop : Decoding κ} {container : Container κ}
    (accepted : Container.read registry start = (.ok container, stop)) : container.names.Nodup := by
  obtain ⟨wire, tail, ⟨entries, -, -, -, collected⟩, -⟩ := Record.accepts_container start.buffer.order registry
    start start.buffer.consumed start.buffer.unread rfl container (congrArg Prod.fst accepted)
  rw [collected]
  exact collect_nodup List.nodup_nil

theorem Built.nodup {container : Container κ} (built : container.Built) : container.names.Nodup := by
  induction built with
  | new => exact List.nodup_nil
  | add before name payload ih => exact Named.nodup_put ih payload
  | clone before own ledger copied ih =>
    rw [Record.clone_same] at copied
    cases own.symm.trans copied
    exact ih
  | read accepted => exact read_nodup accepted

theorem Built.addAll {container : Container κ} (built : container.Built) (entries : List (String × Payload κ)) :
    (container.addAll entries).1.Built := by
  induction entries generalizing container with
  | nil => exact built
  | cons entry rest ih => exact ih (built.add entry.1 entry.2)

end Container

variable [Cargo κ]

theorem payloads_kept {container : Container κ} (built : container.Built) :
    container.names.Nodup ∧ container.size = container.names.length ∧
    (∀ entries, container.Keeps entries ∧ (container.addAll entries).1.Built) ∧
    ∀ (owner : Record κ) (ledger : Ledger), owner.payloads = some container →
      ∃ copy, (owner.clone ledger).1.payloads = some copy ∧ copy.entries = container.entries := by
  refine ⟨built.nodup, container.size_names.symm, fun entries => ⟨container.keeps entries, built.addAll entries⟩, ?_⟩
  intro owner ledger own
  rw [owner.clone_same]
  exact ⟨container, own, rfl⟩

-- What is read where two entries of one name were sent.
def Container.ofOne : Container := ⟨[("k", .fields [.number 6])]⟩

-- An object, a payload under a new name, and nothing in the place of the object.
def Container.threeMore : List (String × Payload) :=
  [("k", .reference (some 3)), ("m", .fields [.number 1]), ("k", .reference none)]

theorem payloads_kept_of_repeats :
    Container.ofOne.Built ∧ (Record.mk [] (some Container.ofOne)).payloads = some Container.ofOne ∧
    Container.threeMore = [("k", .reference (some 3)), ("m", .fields [.number 1])] ++ ("k", .reference none) :: [] ∧
    ∃ filled answers, Container.ofOne.addAll Container.threeMore = (filled, answers) ∧
      filled.find? "k" = some (.reference none) ∧ filled.names = ["k", "m"] ∧
      answers[2]? = some (some (.reference (some 3))) ∧
      (filled.payloads ++ answers.filterMap id).Perm
        [.fields [.number 6], .reference (some 3), .fields [.number 1], .reference none] := by
  have read : Container.read (⟨[("k", .fields [.number 0])]⟩ : Registry) (.start (.ofBytes .network [0, 0, 0, 2,
      0, 0, 0, 1, 0x6B, 0, 0, 0, 4, 0, 0, 0, 5, 0, 0, 0, 1, 0x6B, 0, 0, 0, 4, 0, 0, 0, 6])) =
      (.ok .ofOne, _) := rfl
  have own : (Record.mk [] (some Container.ofOne)).payloads = some Container.ofOne := rfl
  have built := (Container.Built.read read).clone own .initial rfl
  have split : Container.threeMore =
      [("k", .reference (some 3)), ("m", .fields [.number 1])] ++ ("k", .reference none) :: [] := rfl
  obtain ⟨-, -, kept, -⟩ := payloads_kept built
  obtain ⟨keeps, -⟩ := kept Container.threeMore
  obtain ⟨answered, -⟩ := keeps.answers _ _ _ _ split
  exact ⟨built, own, split, _, _, rfl, keeps.last "k", keeps.inOrder, answered, keeps.conserved⟩

end RecordBridge
