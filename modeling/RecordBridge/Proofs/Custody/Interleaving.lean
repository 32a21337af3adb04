import RecordBridge.Proofs.Custody.Stepping

namespace RecordBridge

variable {κ : Type}

namespace Worker

-- A copy owns what it has got so far, and what is given up is owned until its turn comes.
def Task.payloads : Task κ → List (Payload κ)
  | .copying _ copy _ => copy.owned
  | .releasing left => left
  | .displacing payload => [payload]
  | _ => []

def Task.handles : Task κ → List ObjectId
  | .attaching _ object => [object]
  | .looking object => [object]
  | _ => []

def stored (worker : Worker κ) : List (Payload κ) :=
  worker.records.flatMap (·.2.owned) ++ worker.task.payloads

end Worker

namespace Account

def ofTask (account : Account) (task : Worker.Task κ) : Int :=
  account.shares task.payloads + account.handed task.handles

def ofWorker (account : Account) (worker : Worker κ) : Int :=
  Named.total account.ofRecord worker.records + account.ofTask worker.task

theorem ofWorker_exact (account : Account) (worker : Worker κ) :
    account.shares worker.stored + account.handed worker.task.handles = account.ofWorker worker := by
  rw [Worker.stored, shares_append, shares_records, ofWorker, ofTask, Int.add_assoc]

theorem shares_cons (account : Account) (payload : Payload κ) (rest : List (Payload κ)) :
    account.shares (payload :: rest) = account.share payload + account.shares rest := rfl

@[simp]
theorem ofTask_idle (account : Account) : account.ofTask (.idle : Worker.Task κ) = 0 := rfl

@[simp]
theorem ofTask_copying (account : Account) (target : String) (copy : Record κ)
    (left : List (String × Payload κ)) : account.ofTask (.copying target copy left) = account.ofRecord copy :=
  Int.add_zero _

@[simp]
theorem ofTask_releasing (account : Account) (left : List (Payload κ)) :
    account.ofTask (.releasing left) = account.shares left := Int.add_zero _

@[simp]
theorem ofTask_attaching (account : Account) (name : String) (object : ObjectId) :
    account.ofTask (.attaching name object : Worker.Task κ) = account.reference object :=
  (Int.zero_add _).trans (Int.add_zero _)

@[simp]
theorem ofTask_looking (account : Account) (object : ObjectId) :
    account.ofTask (.looking object : Worker.Task κ) = account.reference object :=
  (Int.zero_add _).trans (Int.add_zero _)

@[simp]
theorem ofTask_displacing (account : Account) (payload : Payload κ) :
    account.ofTask (.displacing payload) = account.share payload :=
  (Int.add_zero _).trans (Int.add_zero _)

theorem ofTask_found (account : Account) (found : Option ObjectId) :
    account.ofTask (found.elim .idle .looking : Worker.Task κ) = found.elim 0 account.reference := by
  cases found with
  | none => rfl
  | some object => exact account.ofTask_looking object

theorem ofTask_displaced (account : Account) (displaced : Option (Payload κ)) :
    account.ofTask (displaced.elim .idle .displacing) = displaced.elim 0 account.share := by
  cases displaced with
  | none => rfl
  | some payload => exact account.ofTask_displacing payload

theorem shares_displaced (account : Account) (displaced : Option (Record κ)) :
    account.shares (displaced.elim [] Record.owned) = displaced.elim 0 account.ofRecord := by
  cases displaced <;> rfl

theorem ofRecord_withoutPayloads (account : Account) (record : Record κ) :
    account.ofRecord record.withoutPayloads = 0 := by
  obtain ⟨attributes, payloads⟩ := record
  cases payloads <;> rfl

theorem ofRecord_append (account : Account) (record : Record κ) (entry : String × Payload κ) :
    account.ofRecord (record.append entry) = account.ofRecord record + account.share entry.2 := by
  rw [ofRecord_exact, ofRecord_exact]
  change Named.total account.share (record.container.entries ++ [entry]) = _
  rw [Named.total, List.map_append, List.sum_append]
  exact congrArg (account.ofContainer record.container + ·) (Int.add_zero _)

theorem ofWorker_keep (account : Account) (worker : Worker κ) (target : String) (record : Record κ) :
    account.ofWorker (worker.keep target record) =
      account.ofWorker worker - account.ofTask worker.task + account.ofRecord record := by
  simp only [ofWorker, Worker.keep, Named.total_put, ofTask_releasing, shares_displaced]
  omega

theorem ofWorker_receive (account : Account) {worker : Worker κ} (idle : worker.task = .idle)
    (target : String) (outcome : Except HostError (Record κ)) :
    account.ofWorker (worker.receive target outcome) =
      account.ofWorker worker + gain account.ofRecord outcome := by
  cases outcome with
  | ok received =>
    rw [Worker.receive, ofWorker_keep, idle, ofTask_idle, gain_ok]
    omega
  | error e =>
    rw [Worker.receive, gain_error]
    omega

variable [Cargo κ]

theorem begin_even (account : Account) (seed : Record κ) (command : Worker.Command κ) {worker : Worker κ}
    (idle : worker.task = .idle) (ledger : Ledger) :
    account.balance (Worker.begin seed command worker ledger).2 -
        account.ofWorker (Worker.begin seed command worker ledger).1 =
      account.balance ledger - account.ofWorker worker := by
  cases command with
  | clone source target =>
    rw [Worker.begin]
    cases worker.record? seed source with
    | none => rfl
    | some record => simp only [ofWorker, ofTask_copying, ofRecord_withoutPayloads, idle, ofTask_idle]
  | drop name =>
    simp only [Worker.begin, ofWorker, Named.total_erase, ofTask_releasing, shares_displaced, idle, ofTask_idle]
    omega
  | attach name object =>
    rw [Worker.begin]
    cases Named.find? name worker.records with
    | none => rfl
    | some record =>
      simp only [ofWorker, ofTask_attaching, balance_acquire, idle, ofTask_idle]
      omega
  | lookup source =>
    rw [Worker.begin]
    cases worker.record? seed source with
    | none => rfl
    | some record =>
      simp only [ofWorker, ofTask_found, balance_lookup, idle, ofTask_idle]
      omega
  | transport source target order readOrder registry nothing =>
    rw [Worker.begin]
    cases worker.record? seed source with
    | none => rfl
    | some record =>
      simp only [account.balance_deserialize nothing, account.ofWorker_receive idle]
      omega

-- One step moves the ledger by what it moves the worker.
theorem advance_even (account : Account) (seed : Record κ) (worker : Worker κ) (ledger : Ledger) :
    account.balance (worker.advance seed ledger).2 - account.ofWorker (worker.advance seed ledger).1 =
      account.balance ledger - account.ofWorker worker := by
  obtain ⟨program, records, task, answers⟩ := worker
  cases task with
  | idle =>
    cases program with
    | nil => rfl
    | cons command rest => exact @begin_even κ _ account seed command ⟨rest, records, .idle, answers⟩ rfl ledger
  | copying target copy left =>
    cases left with
    | nil =>
      simp only [Worker.advance, ofWorker_keep, ofTask_copying]
      omega
    | cons entry left =>
      simp only [Worker.advance, ofWorker, ofTask_copying, ofRecord_append, Container.copyEntry_same, balance_apply,
        effect]
      omega
  | releasing left =>
    cases left with
    | nil =>
      simp only [Worker.advance, ofWorker, ofTask_releasing, ofTask_idle]
      rfl
    | cons payload left =>
      simp only [Worker.advance, ofWorker, ofTask_releasing, shares_cons, balance_apply, effect]
      omega
  | attaching name object =>
    cases found : Named.find? name records with
    | none =>
      simp only [Worker.advance, found, ofWorker, ofTask_attaching, ofTask_idle, balance_release]
      omega
    | some record =>
      have added := account.ofRecord_add record slotName (.reference (some object))
      have worth : account.share (.reference (some object) : Payload κ) =
          account.reference object + account.existence .reference := rfl
      simp only [Worker.advance, found, ofWorker, ofTask_attaching, ofTask_displaced, Named.total_put,
        Option.elim_some, balance_apply, effect, Payload.kind]
      omega
  | displacing payload =>
    have released := account.balance_releaseHeld payload ledger
    simp only [Worker.advance, ofWorker, ofTask_displacing, ofTask_idle, balance_apply, effect]
    omega
  | looking object =>
    simp only [Worker.advance, ofWorker, ofTask_looking, ofTask_idle, balance_release]
    omega

end Account

structure Fleet (κ : Type) where
  seed : Record κ
  ledger : Ledger
  workers : List (Worker κ)

namespace Fleet

def stored (fleet : Fleet κ) : List (Payload κ) := fleet.seed.owned ++ fleet.workers.flatMap Worker.stored

def handles (fleet : Fleet κ) : List ObjectId := fleet.workers.flatMap (·.task.handles)

def Keeps (fleet : Fleet κ) (record : Record κ) : Prop :=
  record = fleet.seed ∨ ∃ worker ∈ fleet.workers, ∃ name, (name, record) ∈ worker.records

variable [Cargo κ]

-- The accounts of a seed that nobody has copied yet.
def start (seed : Record κ) (programs : List (List (Worker.Command κ))) : Fleet κ :=
  ⟨seed, (seed.clone .initial).2, programs.map Worker.fresh⟩

-- The turn goes to one of the workers, to nobody if there is no such worker.
def turn (fleet : Fleet κ) (index : Nat) : Fleet κ :=
  match fleet.workers[index]? with
  | some worker =>
    let moved := worker.advance fleet.seed fleet.ledger
    { fleet with ledger := moved.2, workers := fleet.workers.set index moved.1 }
  | none => fleet

def run (schedule : List Nat) (fleet : Fleet κ) : Fleet κ := schedule.foldl turn fleet

end Fleet

namespace Account

def ofFleet (account : Account) (fleet : Fleet κ) : Int :=
  account.ofRecord fleet.seed + (fleet.workers.map account.ofWorker).sum

theorem ofFleet_exact (account : Account) (fleet : Fleet κ) :
    account.shares fleet.stored + account.handed fleet.handles = account.ofFleet fleet := by
  have workers : account.shares (fleet.workers.flatMap Worker.stored) +
      account.handed (fleet.workers.flatMap (·.task.handles)) =
        (fleet.workers.map account.ofWorker).sum := by
    induction fleet.workers with
    | nil => rfl
    | cons worker rest ih =>
      have one := account.ofWorker_exact worker
      simp only [handed] at ih one
      simp only [handed, List.flatMap_cons, shares_append, List.map_append, List.sum_append, List.map_cons,
        List.sum_cons]
      omega
  rw [Fleet.stored, Fleet.handles, shares_append, Int.add_assoc, workers]
  rfl

theorem sum_set (worth : Worker κ → Int) {workers : List (Worker κ)} {index : Nat} {old : Worker κ}
    (found : workers[index]? = some old) (new : Worker κ) :
    ((workers.set index new).map worth).sum = (workers.map worth).sum - worth old + worth new := by
  induction workers generalizing index with
  | nil => cases found
  | cons worker rest ih =>
    cases index with
    | zero =>
      cases found
      simp only [List.set_cons_zero, List.map_cons, List.sum_cons]
      omega
    | succ index =>
      have later := ih found
      simp only [List.set_cons_succ, List.map_cons, List.sum_cons]
      omega

variable [Cargo κ]

theorem start_even (account : Account) (seed : Record κ) (programs : List (List (Worker.Command κ))) :
    account.balance (Fleet.start seed programs).ledger = account.ofFleet (Fleet.start seed programs) := by
  have fresh : ((programs.map Worker.fresh).map account.ofWorker).sum = 0 := by
    induction programs with
    | nil => rfl
    | cons program rest ih => exact (Int.zero_add _).trans ih
  have nothing : account.balance .initial = 0 := by cases account <;> rfl
  simp only [Fleet.start, ofFleet, balance_clone, fresh, nothing]
  omega

theorem turn_even (account : Account) (fleet : Fleet κ) (index : Nat) :
    account.balance (fleet.turn index).ledger - account.ofFleet (fleet.turn index) =
      account.balance fleet.ledger - account.ofFleet fleet := by
  unfold Fleet.turn
  cases found : fleet.workers[index]? with
  | none => rfl
  | some worker =>
    have moved := account.advance_even fleet.seed worker fleet.ledger
    simp only [ofFleet, sum_set account.ofWorker found]
    omega

theorem run_even (account : Account) (schedule : List Nat) (fleet : Fleet κ) :
    account.balance (fleet.run schedule).ledger - account.ofFleet (fleet.run schedule) =
      account.balance fleet.ledger - account.ofFleet fleet := by
  induction schedule generalizing fleet with
  | nil => rfl
  | cons index rest ih => exact (ih (fleet.turn index)).trans (account.turn_even fleet index)

theorem run_exact (account : Account) (seed : Record κ) (programs : List (List (Worker.Command κ)))
    (schedule : List Nat) : let fleet := (Fleet.start seed programs).run schedule
    account.balance fleet.ledger = account.shares fleet.stored + account.handed fleet.handles := by
  intro fleet
  have even := account.run_even schedule (Fleet.start seed programs)
  have start := account.start_even seed programs
  change account.balance fleet.ledger - account.ofFleet fleet = _ at even
  rw [ofFleet_exact]
  omega

end Account
namespace Fleet

variable [Cargo κ]

theorem run_seed (schedule : List Nat) (fleet : Fleet κ) : (fleet.run schedule).seed = fleet.seed := by
  induction schedule generalizing fleet with
  | nil => rfl
  | cons index rest ih =>
    have one : (fleet.turn index).seed = fleet.seed := by
      unfold turn
      split <;> rfl
    exact (ih (fleet.turn index)).trans one

-- A turn is one step of the worker whose turn it is.
theorem turn_workers (fleet : Fleet κ) (index other : Nat) : (fleet.turn index).workers[other]? =
    if index = other then fleet.workers[other]?.map fun worker => (worker.advance fleet.seed fleet.ledger).1
    else fleet.workers[other]? := by
  unfold turn
  by_cases same : index = other
  · subst same
    rw [if_pos rfl]
    cases found : fleet.workers[index]? with
    | none => exact found
    | some worker => exact List.getElem?_set_self (List.getElem?_eq_some_iff.mp found).1
  · rw [if_neg same]
    cases fleet.workers[index]? with
    | none => rfl
    | some worker => exact List.getElem?_set_ne same

-- What a worker keeps and sees is its own business: it is where it would be alone after as many steps.
theorem run_alone (schedule : List Nat) (fleet : Fleet κ) (index : Nat) (ledger : Ledger) :
    (fleet.run schedule).workers[index]? = fleet.workers[index]?.map fun worker =>
      (Worker.steps fleet.seed (schedule.count index) worker ledger).1 := by
  induction schedule generalizing fleet ledger with
  | nil => exact Option.map_id'.symm
  | cons next rest ih =>
    have seed := run_seed [next] fleet
    change (fleet.turn next).seed = fleet.seed at seed
    have later := ih (fleet.turn next) ledger
    rw [turn_workers, seed] at later
    refine later.trans ?_
    by_cases same : next = index
    · subst same
      rw [if_pos rfl, List.count_cons_self, Option.map_map]
      refine congrArg (Option.map · _) (funext fun worker => ?_)
      rw [Function.comp_apply, Worker.steps, Worker.advance_alone fleet.seed worker fleet.ledger ledger]
      exact Worker.steps_alone fleet.seed _ _ _ _
    · rw [if_neg same, List.count_cons_of_ne same]

theorem run_truthful (seed : Record κ) (programs : List (List (Worker.Command κ))) (schedule : List Nat) :
    ∀ worker ∈ ((start seed programs).run schedule).workers, worker.Truthful := by
  have every : ∀ fleet : Fleet κ, (∀ worker ∈ fleet.workers, worker.Truthful) →
      ∀ worker ∈ (fleet.run schedule).workers, worker.Truthful := by
    induction schedule with
    | nil => exact fun fleet before => before
    | cons index rest ih =>
      intro fleet before
      refine ih (fleet.turn index) fun worker member => ?_
      unfold turn at member
      cases found : fleet.workers[index]? with
      | none =>
        rw [found] at member
        exact before worker member
      | some old =>
        rw [found] at member
        rcases List.mem_or_eq_of_mem_set member with kept | rfl
        · exact before worker kept
        · exact Worker.advance_truthful fleet.seed (before old (List.mem_of_getElem? found)) fleet.ledger
  refine every _ fun worker member => ?_
  obtain ⟨program, -, rfl⟩ := List.mem_map.mp member
  exact List.forall_mem_nil _

-- Enough turns for everybody bring everybody to the end, in whatever order they come.
theorem run_finishes (seed : Record κ) (programs : List (List (Worker.Command κ))) :
    ∃ enough, ∀ schedule : List Nat, (∀ index < programs.length, enough ≤ schedule.count index) →
      ∀ worker ∈ ((start seed programs).run schedule).workers, worker.Finished := by
  have each : ∃ enough, ∀ program ∈ programs, ∀ count ≥ enough,
      (Worker.steps seed count (.fresh program) .initial).1.Finished := by
    induction programs with
    | nil => exact ⟨0, List.forall_mem_nil _⟩
    | cons program rest ih =>
      obtain ⟨others, done⟩ := ih
      obtain ⟨one, finished⟩ := @Worker.finishes κ _ seed program (.fresh program) rfl rfl .initial
      refine ⟨max one others, List.forall_mem_cons.mpr ⟨?_, ?_⟩⟩
      · exact fun count enough => finished count (Nat.le_trans (Nat.le_max_left one others) enough)
      · exact fun own member count enough =>
          done own member count (Nat.le_trans (Nat.le_max_right one others) enough)
  obtain ⟨enough, finished⟩ := each
  refine ⟨enough, fun schedule turns worker member => ?_⟩
  obtain ⟨index, found⟩ := List.mem_iff_getElem?.mp member
  rw [run_alone schedule _ index .initial] at found
  obtain ⟨fresh, there, rfl⟩ := Option.map_eq_some_iff.mp found
  rw [start, List.getElem?_map] at there
  obtain ⟨program, known, rfl⟩ := Option.map_eq_some_iff.mp there
  obtain ⟨inside, same⟩ := List.getElem?_eq_some_iff.mp known
  exact finished program (List.mem_of_getElem? known) _ (turns index inside)

end Fleet

theorem lifecycle_interleaved [Cargo κ] (seed : Record κ) (programs : List (List (Worker.Command κ)))
    (schedule : List Nat) :
    let fleet := (Fleet.start seed programs).run schedule
    (∀ object, fleet.ledger.references object =
      (fleet.stored.countP (·.held? = some object) + fleet.handles.countP (· = object) : Nat)) ∧
    (∀ worker ∈ fleet.workers, ∀ entry ∈ worker.answers, ∀ object,
      entry.1.slot? = some (some object) → entry.2 = some object) ∧
    (∀ record, fleet.Keeps record → ∀ object, record.slot? = some (some object) →
      0 < fleet.ledger.references object) ∧
    ((∀ worker ∈ fleet.workers, worker.Finished ∧ worker.records = []) →
      ∀ object, fleet.ledger.references object = (seed.owned.countP (·.held? = some object) : Nat)) := by
  intro fleet
  have same : fleet.seed = seed := Fleet.run_seed schedule _
  have counted : ∀ object, fleet.ledger.references object =
      (fleet.stored.countP (·.held? = some object) + fleet.handles.countP (· = object) : Nat) := by
    intro object
    have exactly : (Account.references object).balance fleet.ledger =
        (Account.references object).shares fleet.stored + (Account.references object).handed fleet.handles :=
      (Account.references object).run_exact seed programs schedule
    rw [Account.shares_references, Account.handed_references] at exactly
    simpa [Account.balance] using exactly
  refine ⟨counted, ?_, ?_, ?_⟩
  · intro worker member entry answered object attached
    have truthful := Fleet.run_truthful seed programs schedule worker member entry answered
    rw [truthful, attached]
    rfl
  · intro record kept object attached
    obtain ⟨payload, inside, held⟩ := Record.attached_held attached
    have stored : payload ∈ fleet.stored := by
      rcases kept with rfl | ⟨worker, member, name, own⟩
      · exact List.mem_append_left _ inside
      · refine List.mem_append_right _ (List.mem_flatMap.mpr ⟨worker, member, ?_⟩)
        exact List.mem_append_left _ (List.mem_flatMap.mpr ⟨(name, record), own, inside⟩)
    have some : 0 < fleet.stored.countP (·.held? = some object) :=
      List.countP_pos_iff.mpr ⟨payload, stored, by simp [held]⟩
    rw [counted]
    omega
  · intro finished object
    have nothing : fleet.workers.flatMap Worker.stored = [] := by
      refine List.flatMap_eq_nil_iff.mpr fun worker member => ?_
      obtain ⟨⟨-, idle⟩, none⟩ := finished worker member
      rw [Worker.stored, none, idle]
      rfl
    have empty : fleet.handles = [] := by
      refine List.flatMap_eq_nil_iff.mpr fun worker member => ?_
      rw [(finished worker member).1.2]
      rfl
    rw [counted, empty, Fleet.stored, nothing, same, List.append_nil]
    rfl

-- Two workers in turn: each copies the seed, attaches another object to the copy and drops it.
def Fleet.ofTwo : Fleet Fields :=
  (Fleet.start ⟨[], some ⟨[(slotName, .reference (some 7))]⟩⟩
    (List.replicate 2 [.clone .seed "copy", .attach "copy" 8, .lookup (.own "copy"), .drop "copy"])).run
      (List.replicate 12 [0, 1]).flatten

theorem lifecycle_of_two :
    (∀ worker ∈ Fleet.ofTwo.workers, worker.Finished ∧ worker.records = []) ∧
    (∀ worker ∈ Fleet.ofTwo.workers, worker.answers.map (·.2) = [some 8]) ∧
    Fleet.ofTwo.ledger.references 7 = 1 ∧ Fleet.ofTwo.ledger.references 8 = 0 := by
  have workers : Fleet.ofTwo.workers = List.replicate 2
      ⟨[], [], .idle, [(⟨[], some ⟨[(slotName, .reference (some 8))]⟩⟩, some 8)]⟩ := by rfl
  have finished : ∀ worker ∈ Fleet.ofTwo.workers, worker.Finished ∧ worker.records = [] := by
    rw [workers]
    intro worker member
    rw [List.eq_of_mem_replicate member]
    exact ⟨⟨rfl, rfl⟩, rfl⟩
  obtain ⟨-, -, -, counts⟩ := @lifecycle_interleaved Fields _ ⟨[], some ⟨[(slotName, .reference (some 7))]⟩⟩
    (List.replicate 2 [.clone .seed "copy", .attach "copy" 8, .lookup (.own "copy"), .drop "copy"])
    (List.replicate 12 [0, 1]).flatten
  refine ⟨finished, ?_, counts finished 7, counts finished 8⟩
  rw [workers]
  intro worker member
  rw [List.eq_of_mem_replicate member]
  rfl

end RecordBridge
