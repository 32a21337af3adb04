import RecordBridge.Custody.Store
import RecordBridge.Proofs.Custody.Rebuilding

namespace RecordBridge

variable {κ : Type}

namespace Record

-- The beginning of a copy, which has its payloads still to come.
def withoutPayloads (record : Record κ) : Record κ :=
  { record with payloads := record.payloads.map fun _ => .empty }

def append (record : Record κ) (entry : String × Payload κ) : Record κ :=
  { record with payloads := some ⟨record.container.entries ++ [entry]⟩ }

end Record

namespace Worker

inductive Source where
  | seed
  | own (name : String)
  deriving DecidableEq, Repr

inductive Command (κ : Type) where
  | clone (source : Source) (target : String)
  | drop (name : String)
  | attach (name : String) (object : ObjectId)
  | lookup (source : Source)
  | transport (source : Source) (target : String) (order readOrder : ByteOrder) (registry : Registry κ)
      (nothing : registry.HoldsNothing)

-- What is left to do of a command that has begun.
inductive Task (κ : Type) where
  | idle
  | copying (target : String) (copy : Record κ) (left : List (String × Payload κ))
  | releasing (left : List (Payload κ))
  -- The reference for the slot is taken, the slot is as it was.
  | attaching (name : String) (object : ObjectId)
  | displacing (payload : Payload κ)
  -- A reference that was looked up is still to be given back.
  | looking (object : ObjectId)

end Worker

structure Worker (κ : Type) where
  program : List (Worker.Command κ)
  records : List (String × Record κ)
  task : Worker.Task κ
  -- Every record that was looked into, with what was found.
  answers : List (Record κ × Option ObjectId)

namespace Worker

def fresh (program : List (Command κ)) : Worker κ := ⟨program, [], .idle, []⟩

def record? (seed : Record κ) (worker : Worker κ) : Source → Option (Record κ)
  | .seed => some seed
  | .own name => Named.find? name worker.records

-- Puts a record under a name. What the name stood for before is given up next.
def keep (target : String) (record : Record κ) (worker : Worker κ) : Worker κ :=
  { worker with
    records := Named.put target record worker.records
    task := .releasing ((Named.find? target worker.records).elim [] Record.owned) }

-- A record that cannot be read is not kept.
def receive (target : String) (outcome : Except HostError (Record κ)) (worker : Worker κ) : Worker κ :=
  match outcome with
  | .ok received => worker.keep target received
  | .error _ => worker

variable [Cargo κ]

def begin (seed : Record κ) (command : Command κ) (worker : Worker κ) (ledger : Ledger) :
    Worker κ × Ledger :=
  match command with
  | .clone source target =>
    match worker.record? seed source with
    | some record =>
      ({ worker with task := .copying target record.withoutPayloads record.container.entries }, ledger)
    | none => (worker, ledger)
  | .drop name =>
    ({ worker with
        records := Named.erase name worker.records
        task := .releasing ((Named.find? name worker.records).elim [] Record.owned) },
      ledger)
  | .attach name object =>
    match Named.find? name worker.records with
    | some _ => ({ worker with task := .attaching name object }, ledger.acquire object)
    | none => (worker, ledger)
  | .lookup source =>
    match worker.record? seed source with
    | some record =>
      let found := record.lookup ledger
      ({ worker with
          answers := worker.answers ++ [(record, found.1)]
          task := found.1.elim .idle .looking },
        found.2)
    | none => (worker, ledger)
  | .transport source target order readOrder registry _ =>
    match worker.record? seed source with
    | some record =>
      let done := Record.deserialize registry (.ofBytes readOrder (record.serialize order)) ledger
      (worker.receive target done.1.1, done.2)
    | none => (worker, ledger)

-- The next step of a worker. Every one changes at most one reference count, and that by one.
def advance (seed : Record κ) (worker : Worker κ) (ledger : Ledger) : Worker κ × Ledger :=
  match worker.task with
  | .idle =>
    match worker.program with
    | [] => (worker, ledger)
    | command :: rest => begin seed command { worker with program := rest } ledger
  | .copying target copy [] => (worker.keep target copy, ledger)
  | .copying target copy (entry :: left) =>
    ({ worker with task := .copying target (copy.append (Container.copyEntry entry)) left },
      ledger.apply (.cloned entry.2))
  | .releasing [] => ({ worker with task := .idle }, ledger)
  | .releasing (payload :: left) =>
    ({ worker with task := .releasing left }, ledger.apply (.dropped payload))
  | .attaching name object =>
    match Named.find? name worker.records with
    | some record =>
      let payload : Payload κ := .reference (some object)
      let added := record.add slotName payload
      ({ worker with
          records := Named.put name added.1 worker.records
          task := added.2.elim .idle .displacing },
        ledger.apply (.created payload))
    | none => ({ worker with task := .idle }, ledger.release object)
  | .displacing payload =>
    let released := payload.releaseHeld ledger
    ({ worker with task := .idle }, released.2.apply (.dropped released.1))
  | .looking object => ({ worker with task := .idle }, ledger.release object)

-- So many steps of one worker with none of the others between them.
def steps (seed : Record κ) : Nat → Worker κ → Ledger → Worker κ × Ledger
  | 0, worker, ledger => (worker, ledger)
  | count + 1, worker, ledger =>
    let next := worker.advance seed ledger
    steps seed count next.1 next.2

-- The same command on a store, in one piece.
def Command.perform (seed : Record κ) (command : Command κ) (store : Store κ) : Store κ :=
  match command with
  | .clone .seed target =>
    let copied := seed.clone store.ledger
    Store.keepRecord target copied.1 { store with ledger := copied.2 }
  | .clone (.own name) target => store.cloneRecord name target
  | .drop name => store.dropRecord name
  | .attach name object => store.attach name object
  | .lookup .seed =>
    let found := seed.lookup store.ledger
    Store.discardHandle found.1 { store with ledger := found.2 }
  | .lookup (.own name) => (store.lookup name).2
  | .transport .seed target order readOrder registry _ =>
    (store.receive target registry (.ofBytes readOrder (seed.serialize order))).2
  | .transport (.own name) target order readOrder registry _ =>
    match store.record? name with
    | some record => (store.receive target registry (.ofBytes readOrder (record.serialize order))).2
    | none => store

section Undisturbed

variable (seed : Record κ)

-- Left alone, the worker gets to the end of its command, and then has and owes what the store does.
def Settles (worker : Worker κ) (ledger : Ledger) (store : Store κ) : Prop :=
  ∃ count, let done := steps seed count worker ledger
    done.1.task = .idle ∧ done.1.program = worker.program ∧ done.1.records = store.records ∧
      done.2 = store.ledger

-- The records of a worker with the ledger, as a store that holds nothing else.
def asStore (worker : Worker κ) (ledger : Ledger) : Store κ := ⟨ledger, worker.records, [], []⟩

theorem settles_idle {worker : Worker κ} (idle : worker.task = .idle) (ledger : Ledger) :
    Settles seed worker ledger (worker.asStore ledger) := ⟨0, idle, rfl, rfl, rfl⟩

variable {seed} in
theorem settles_step {worker : Worker κ} {ledger : Ledger} {store : Store κ}
    (same : (worker.advance seed ledger).1.program = worker.program)
    (later : Settles seed (worker.advance seed ledger).1 (worker.advance seed ledger).2 store) :
    Settles seed worker ledger store := by
  obtain ⟨count, idle, program, records, accounts⟩ := later
  exact ⟨count + 1, idle, program.trans same, records, accounts⟩

theorem settles_releasing (worker : Worker κ) (left : List (Payload κ)) (ledger : Ledger) :
    Settles seed { worker with task := .releasing left } ledger
      (worker.asStore (ledger.applyAll (left.map .dropped))) := by
  induction left generalizing ledger with
  | nil => exact ⟨1, rfl, rfl, rfl, rfl⟩
  | cons payload left ih => exact settles_step rfl (ih (ledger.apply (.dropped payload)))

theorem settles_keep (worker : Worker κ) (target : String) (record : Record κ) (ledger : Ledger) :
    Settles seed (worker.keep target record) ledger
      ((worker.asStore ledger).keepRecord target record) := by
  have released := settles_releasing seed
    { worker with records := Named.put target record worker.records }
    ((Named.find? target worker.records).elim [] Record.owned) ledger
  unfold Store.keepRecord
  change Settles seed _ _ (Store.discardRecord (Named.find? target worker.records) _)
  cases displaced : Named.find? target worker.records with
  | none =>
    rw [displaced] at released
    rw [keep, displaced]
    exact released
  | some old =>
    rw [displaced] at released
    rw [keep, displaced]
    exact released

omit [Cargo κ] in
theorem append_all (attributes : List (String × Value)) (front back : List (String × Payload κ)) :
    back.foldl Record.append ⟨attributes, some ⟨front⟩⟩ = ⟨attributes, some ⟨front ++ back⟩⟩ := by
  induction back generalizing front with
  | nil => rw [List.append_nil, List.foldl_nil]
  | cons entry back ih =>
    have rest := ih (front ++ [entry])
    rw [List.append_assoc] at rest
    exact rest

-- Payload by payload a copy is made up.
theorem append_owned (record : Record κ) :
    (record.container.entries.map Container.copyEntry).foldl Record.append record.withoutPayloads =
      record.copy := by
  obtain ⟨attributes, payloads⟩ := record
  cases payloads with
  | none => rfl
  | some container => exact append_all attributes [] (container.entries.map Container.copyEntry)

theorem settles_copying (worker : Worker κ) (target : String) (copy : Record κ)
    (left : List (String × Payload κ)) (ledger : Ledger) :
    Settles seed { worker with task := .copying target copy left } ledger
      ((worker.asStore (ledger.applyAll (left.map fun entry => .cloned entry.2))).keepRecord target
        ((left.map Container.copyEntry).foldl Record.append copy)) := by
  induction left generalizing copy ledger with
  | nil => exact settles_step rfl (settles_keep seed worker target copy ledger)
  | cons entry left ih =>
    exact settles_step rfl (ih (copy.append (Container.copyEntry entry)) (ledger.apply (.cloned entry.2)))

theorem settles_clone (worker : Worker κ) (target : String) (record : Record κ) (ledger : Ledger) :
    Settles seed { worker with task := .copying target record.withoutPayloads record.container.entries }
      ledger ((worker.asStore (record.clone ledger).2).keepRecord target (record.clone ledger).1) := by
  have copied := settles_copying seed worker target record.withoutPayloads
    record.container.entries ledger
  rw [append_owned] at copied
  have accounts : (record.clone ledger).2 =
      ledger.applyAll (record.container.entries.map fun entry => .cloned entry.2) := by
    rw [Record.clone, Record.owned, Container.payloads, List.map_map]
    rfl
  rw [accounts]
  exact copied

theorem settles_attaching {worker : Worker κ} {name : String} {record : Record κ}
    (found : Named.find? name worker.records = some record) (object : ObjectId) (ledger : Ledger) :
    Settles seed { worker with task := .attaching name object } (ledger.acquire object)
      ((worker.asStore ledger).attach name object) := by
  have stored : (worker.asStore ledger).record? name = some record := found
  have placed : (worker.asStore ledger).attach name object =
      ⟨(record.attach object (ledger.acquire object)).2,
        Named.put name (record.attach object (ledger.acquire object)).1 worker.records, [], []⟩ := by
    unfold Store.attach
    rw [stored]
    rfl
  rw [placed]
  unfold Record.attach
  cases displaced : (record.add slotName (.reference (some object))).2 with
  | none =>
    refine ⟨1, ?_⟩
    simp [steps, advance, found, displaced]
  | some payload =>
    refine ⟨2, ?_⟩
    simp [steps, advance, found, displaced]

theorem settles_looking (worker : Worker κ) (answers : List (Record κ × Option ObjectId))
    (found : Option ObjectId) (ledger : Ledger) :
    Settles seed { worker with answers, task := found.elim .idle .looking } ledger
      (Store.discardHandle found (worker.asStore ledger)) := by
  cases found with
  | none => exact ⟨0, rfl, rfl, rfl, rfl⟩
  | some object => exact ⟨1, rfl, rfl, rfl, rfl⟩

-- Where a command finds no record there is nothing to do.
theorem begin_program (command : Command κ) (worker : Worker κ) (ledger : Ledger) :
    (begin seed command worker ledger).1.program = worker.program := by
  cases command with
  | clone source target =>
    rw [begin]
    cases worker.record? seed source <;> rfl
  | drop name => rfl
  | attach name object =>
    rw [begin]
    cases Named.find? name worker.records <;> rfl
  | lookup source =>
    rw [begin]
    cases worker.record? seed source <;> rfl
  | transport source target order readOrder registry nothing =>
    rw [begin]
    cases worker.record? seed source with
    | none => rfl
    | some record =>
      dsimp only [receive]
      split <;> rfl

theorem settles_received {worker : Worker κ} (idle : worker.task = .idle) (target : String)
    (registry : Registry κ) (buffer : Buffer) (ledger : Ledger) :
    Settles seed (worker.receive target (Record.deserialize registry buffer ledger).1.1)
      (Record.deserialize registry buffer ledger).2
      ((worker.asStore ledger).receive target registry buffer).2 := by
  unfold Store.receive
  rw [asStore]
  rcases Record.deserialize registry buffer ledger with ⟨⟨e | received, rest⟩, after⟩
  · exact settles_idle seed idle after
  · exact settles_keep seed worker target received after

theorem settles_begin (command : Command κ) {worker : Worker κ} (idle : worker.task = .idle)
    (ledger : Ledger) : Settles seed (begin seed command worker ledger).1
      (begin seed command worker ledger).2 (command.perform seed (worker.asStore ledger)) := by
  cases command with
  | clone source target =>
    cases source with
    | seed => exact settles_clone seed worker target seed ledger
    | own name =>
      simp only [begin, record?, Command.perform, Store.cloneRecord, Store.copyRecord, Store.record?,
        asStore]
      cases Named.find? name worker.records with
      | none => exact settles_idle seed idle ledger
      | some record => exact settles_clone seed worker target record ledger
  | drop name =>
    simp only [begin, Command.perform, Store.dropRecord, Store.record?, asStore]
    have released := settles_releasing seed { worker with records := Named.erase name worker.records }
      ((Named.find? name worker.records).elim [] Record.owned) ledger
    cases found : Named.find? name worker.records with
    | none =>
      rw [found] at released
      exact released
    | some record =>
      rw [found] at released
      exact released
  | attach name object =>
    have settled := @settles_attaching κ _ seed worker name
    rw [begin]
    cases found : Named.find? name worker.records with
    | none =>
      have missing : (worker.asStore ledger).record? name = none := found
      rw [Command.perform, Store.attach, missing]
      exact settles_idle seed idle ledger
    | some record => exact settled found object ledger
  | lookup source =>
    cases source with
    | seed => exact settles_looking seed worker _ (seed.lookup ledger).1 (seed.lookup ledger).2
    | own name =>
      simp only [begin, record?, Command.perform, Store.lookup, Store.record?, asStore]
      cases Named.find? name worker.records with
      | none => exact settles_idle seed idle ledger
      | some record => exact settles_looking seed worker _ (record.lookup ledger).1 (record.lookup ledger).2
  | transport source target order readOrder registry nothing =>
    cases source with
    | seed => exact settles_received seed idle target registry _ ledger
    | own name =>
      simp only [begin, record?, Command.perform, Store.record?, asStore]
      cases Named.find? name worker.records with
      | none => exact settles_idle seed idle ledger
      | some record => exact settles_received seed idle target registry _ ledger

end Undisturbed

-- A worker at the beginning of a command, left alone until its end, has done what the store does.
theorem undisturbed (seed : Record κ) {worker : Worker κ} {command : Command κ} {rest : List (Command κ)}
    (idle : worker.task = .idle) (next : worker.program = command :: rest) (ledger : Ledger) :
    ∃ count, let done := steps seed count worker ledger
      let whole := command.perform seed (worker.asStore ledger)
      done.1.task = .idle ∧ done.1.program = rest ∧ done.1.records = whole.records ∧ done.2 = whole.ledger := by
  have first : worker.advance seed ledger = begin seed command { worker with program := rest } ledger := by
    rw [advance, idle, next]
  have program := begin_program seed command { worker with program := rest } ledger
  obtain ⟨count, settled, left, records, accounts⟩ :=
    @settles_begin κ _ seed command { worker with program := rest } idle ledger
  refine ⟨count + 1, ?_⟩
  simp only [steps, first]
  exact ⟨settled, left.trans program, records, accounts⟩

end Worker
end RecordBridge
