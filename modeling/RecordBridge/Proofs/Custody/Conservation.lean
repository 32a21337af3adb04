import RecordBridge.Proofs.Custody.Holdings

namespace RecordBridge

variable {κ : Type}

-- One thing the host may do, inside the lock or outside. A scope of the lock is whatever stands between
-- entering and leaving it. Writing a record is no operation of its own: it changes nothing.
inductive Operation (κ : Type) where
  | enter
  | leave
  | newRecord (name : String)
  | dropRecord (name : String)
  | cloneRecord (name target : String)
  | setAttribute (name label : String) (value : Value)
  | touch (name : String)
  | put (name slot : String) (payload : Payload κ)
  | move (source name slot : String)
  | adopt (name : String) (entries : List (String × Payload κ))
  | attach (name : String) (object : ObjectId)
  | lookup (name : String)
  | hold (name handle : String)
  | release (handle : String)
  | newPayload (name : String) (payload : Payload κ)
  | clonePayload (name target : String)
  | refill (name : String) (buffer : Buffer)
  | dropPayload (name : String)
  | receive (target : String) (registry : Registry κ) (nothing : registry.HoldsNothing) (buffer : Buffer)
  | transport (name target : String) (order readOrder : ByteOrder) (registry : Registry κ)
      (nothing : registry.HoldsNothing)

variable [Cargo κ]

namespace Operation

def perform (operation : Operation κ) (store : Store κ) : Store κ :=
  match operation with
  | .enter => store.settle Ledger.enter
  | .leave => store.settle Ledger.leave
  | .newRecord name => store.keepRecord name .empty
  | .dropRecord name => store.dropRecord name
  | .cloneRecord name target => store.cloneRecord name target
  | .setAttribute name label value => store.setAttribute name label value
  | .touch name => store.touch name
  | .put name slot payload => (store.put name slot payload).2
  | .move source name slot => (store.move source name slot).2
  | .adopt name entries => store.adopt name entries
  | .attach name object => store.attach name object
  | .lookup name => (store.lookup name).2
  | .hold name handle => (store.hold name handle).2
  | .release handle => store.release handle
  | .newPayload name payload => (store.settle (Store.make payload)).keepPayload name payload
  | .clonePayload name target => store.clonePayload name target
  | .refill name buffer => (store.refill name buffer).2
  | .dropPayload name => store.dropPayload name
  | .receive target registry _ buffer => (store.receive target registry buffer).2
  | .transport name target order readOrder registry _ =>
    match store.record? name with
    | some record => (store.receive target registry (.ofBytes readOrder (record.serialize order))).2
    | none => store

def run (operations : List (Operation κ)) (store : Store κ) : Store κ :=
  operations.foldl (fun store operation => operation.perform store) store

theorem perform_excess (operation : Operation κ) (account : Account) (store : Store κ) :
    account.excess (operation.perform store) = account.excess store := by
  cases operation with
  | enter =>
    simp only [perform, Account.excess_settle, Account.balance_enter]
    omega
  | leave =>
    simp only [perform, Account.excess_settle, Account.balance_leave]
    omega
  | newRecord name =>
    have nothing : account.ofRecord (Record.empty : Record κ) = 0 := rfl
    simp only [perform, Account.excess_keepRecord, nothing]
    omega
  | dropRecord name => exact account.excess_dropRecord name store
  | cloneRecord name target => exact account.excess_cloneRecord name target store
  | setAttribute name label value =>
    exact account.excess_update name (·.setAttribute label value) (fun _ => rfl) store
  | touch name =>
    exact account.excess_update name (fun record => { record with payloads := some record.container })
      (fun _ => rfl) store
  | put name slot payload => exact account.excess_put name slot payload store
  | move source name slot => exact account.excess_move source name slot store
  | adopt name entries => exact account.excess_adopt name entries store
  | attach name object => exact account.excess_attach name object store
  | lookup name => exact account.excess_lookup name store
  | hold name handle => exact account.excess_hold name handle store
  | release handle => exact account.excess_release handle store
  | newPayload name payload =>
    simp only [perform, Account.excess_keepPayload, Account.excess_settle, Account.balance_make]
    omega
  | clonePayload name target => exact account.excess_clonePayload name target store
  | refill name buffer => exact account.excess_refill name buffer store
  | dropPayload name => exact account.excess_dropPayload name store
  | receive target registry nothing buffer => exact account.excess_receive target nothing buffer store
  | transport name target order readOrder registry nothing =>
    simp only [perform]
    cases store.record? name with
    | none => rfl
    | some record => exact account.excess_receive target nothing _ store

theorem run_excess (operations : List (Operation κ)) (account : Account) (store : Store κ) :
    account.excess (run operations store) = account.excess store := by
  induction operations generalizing store with
  | nil => rfl
  | cons operation rest ih =>
    have step := operation.perform_excess account store
    exact (ih (operation.perform store)).trans step

end Operation

namespace Account

omit [Cargo κ]

theorem shares_references (object : ObjectId) (payloads : List (Payload κ)) :
    (references object).shares payloads = payloads.countP (·.held? = some object) := by
  induction payloads with
  | nil => rfl
  | cons payload rest ih =>
    simp only [shares] at ih
    simp only [shares, List.map_cons, List.sum_cons, ih, List.countP_cons, share, holding, existence]
    rcases payload.held? with _ | held
    · simp
    · by_cases same : held = object <;> simp [reference, same]; omega

theorem shares_live (kind : PayloadKind) (payloads : List (Payload κ)) :
    (live kind).shares payloads = payloads.countP (·.kind = kind) := by
  induction payloads with
  | nil => rfl
  | cons payload rest ih =>
    have none : (live kind).holding payload = 0 := by
      rcases held : payload.held? <;> simp [holding, held, reference]
    simp only [shares] at ih
    simp only [shares, List.map_cons, List.sum_cons, ih, List.countP_cons, share, none, existence]
    by_cases same : payload.kind = kind <;> simp [same]; omega

theorem shares_append (account : Account) (front back : List (Payload κ)) :
    account.shares (front ++ back) = account.shares front + account.shares back := by
  simp only [shares, List.map_append, List.sum_append]

theorem shares_records (account : Account) (records : List (String × Record κ)) :
    account.shares (records.flatMap (·.2.owned)) = Named.total account.ofRecord records := by
  induction records with
  | nil => rfl
  | cons entry rest ih =>
    rw [List.flatMap_cons, shares_append, ih]
    rfl

theorem shares_stored (account : Account) (store : Store κ) :
    account.shares store.stored =
      Named.total account.ofRecord store.records + Named.total account.share store.payloads := by
  rw [Store.stored, shares_append, shares_records, shares, List.map_map]
  rfl

def handed (account : Account) (objects : List ObjectId) : Int := (objects.map account.reference).sum

theorem handed_references (object : ObjectId) (objects : List ObjectId) :
    (references object).handed objects = objects.countP (· = object) := by
  induction objects with
  | nil => rfl
  | cons held rest ih =>
    simp only [handed] at ih
    simp only [handed, List.map_cons, List.sum_cons, ih, List.countP_cons]
    by_cases same : held = object <;> simp [reference, same]; omega

theorem handed_live (kind : PayloadKind) (objects : List ObjectId) : (live kind).handed objects = 0 := by
  induction objects with
  | nil => rfl
  | cons held rest ih => exact (Int.zero_add _).trans ih

theorem total_references (object : ObjectId) (handles : List (String × ObjectId)) :
    Named.total (references object).reference handles = handles.countP (·.2 = object) := by
  have counted := handed_references object (handles.map (·.2))
  rw [handed, List.map_map, List.countP_map] at counted
  exact counted

theorem total_live (kind : PayloadKind) (handles : List (String × ObjectId)) :
    Named.total (live kind).reference handles = 0 := by
  have counted := handed_live kind (handles.map (·.2))
  rw [handed, List.map_map] at counted
  exact counted

theorem balanced {account : Account} {store : Store κ} (even : account.excess store = 0) :
    account.balance store.ledger =
      account.shares store.stored + Named.total account.reference store.handles := by
  have due := account.shares_stored store
  simp only [excess, Account.due] at even
  omega

end Account

theorem references_conserved (operations : List (Operation κ)) :
    let store := Operation.run operations .initial
    (∀ object, store.ledger.references object =
      (store.stored.countP (·.held? = some object) + store.handles.countP (·.2 = object) : Nat)) ∧
    (∀ kind, store.ledger.live kind = (store.stored.countP (·.kind = kind) : Nat)) ∧
    (∀ object, store.clear.ledger.references object = 0) ∧
    ∀ kind, store.clear.ledger.live kind = 0 := by
  intro store
  have even : ∀ account : Account, account.excess store = 0 := by
    intro account
    have start : account.excess (Store.initial : Store κ) = 0 := by cases account <;> rfl
    exact (Operation.run_excess operations account .initial).trans start
  have cleared : ∀ account : Account, account.balance store.clear.ledger = 0 := by
    intro account
    have rest := even account
    simp only [Account.excess] at rest
    rw [account.balance_clear]
    exact rest
  refine ⟨?_, ?_, fun object => cleared (.references object), fun kind => cleared (.live kind)⟩
  · intro object
    have counted := Account.balanced (even (.references object))
    rw [Account.shares_references, Account.total_references] at counted
    simpa [Account.balance] using counted
  · intro kind
    have counted := Account.balanced (even (.live kind))
    rw [Account.shares_live, Account.total_live] at counted
    simpa [Account.balance] using counted

end RecordBridge
