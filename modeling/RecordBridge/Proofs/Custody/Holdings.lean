import RecordBridge.Proofs.Custody.Rebuilding

namespace RecordBridge

variable {κ : Type}

-- Every payload that somebody owns: those of records, under any name, and those by themselves.
def Store.stored (store : Store κ) : List (Payload κ) :=
  store.records.flatMap (fun entry => entry.2.owned) ++ store.payloads.map (·.2)

namespace Account

def due (account : Account) (store : Store κ) : Int :=
  Named.total account.ofRecord store.records + Named.total account.share store.payloads +
    Named.total account.reference store.handles

-- What the ledger counts beyond what the holders in the store add up to.
def excess (account : Account) (store : Store κ) : Int :=
  account.balance store.ledger - account.due store

theorem excess_settle (account : Account) (store : Store κ) (change : Ledger → Ledger) :
    account.excess (store.settle change) =
      account.excess store + account.balance (change store.ledger) - account.balance store.ledger := by
  simp only [excess, due, Store.settle]
  omega

theorem excess_ledger (account : Account) (store : Store κ) (ledger : Ledger) :
    account.excess { store with ledger } =
      account.excess store + account.balance ledger - account.balance store.ledger :=
  account.excess_settle store fun _ => ledger

theorem excess_put_record (account : Account) (store : Store κ) (name : String) (record : Record κ) :
    account.excess { store with records := Named.put name record store.records } =
      account.excess store - account.ofRecord record +
        (store.record? name).elim 0 account.ofRecord := by
  simp only [excess, due, Named.total_put, Store.record?]
  omega

theorem excess_put_payload (account : Account) (store : Store κ) (name : String) (payload : Payload κ) :
    account.excess { store with payloads := Named.put name payload store.payloads } =
      account.excess store - account.share payload + (store.payload? name).elim 0 account.share := by
  simp only [excess, due, Named.total_put, Store.payload?]
  omega

theorem excess_put_handle (account : Account) (store : Store κ) (name : String) (object : ObjectId) :
    account.excess { store with handles := Named.put name object store.handles } =
      account.excess store - account.reference object +
        (store.handle? name).elim 0 account.reference := by
  simp only [excess, due, Named.total_put, Store.handle?]
  omega

theorem excess_erase_record (account : Account) (store : Store κ) (name : String) :
    account.excess { store with records := Named.erase name store.records } =
      account.excess store + (store.record? name).elim 0 account.ofRecord := by
  simp only [excess, due, Named.total_erase, Store.record?]
  omega

theorem excess_erase_payload (account : Account) (store : Store κ) (name : String) :
    account.excess { store with payloads := Named.erase name store.payloads } =
      account.excess store + (store.payload? name).elim 0 account.share := by
  simp only [excess, due, Named.total_erase, Store.payload?]
  omega

theorem excess_erase_handle (account : Account) (store : Store κ) (name : String) :
    account.excess { store with handles := Named.erase name store.handles } =
      account.excess store + (store.handle? name).elim 0 account.reference := by
  simp only [excess, due, Named.total_erase, Store.handle?]
  omega

theorem excess_discardRecord (account : Account) (record : Option (Record κ)) (store : Store κ) :
    account.excess (store.discardRecord record) =
      account.excess store - record.elim 0 account.ofRecord := by
  cases record with
  | none => simp [Store.discardRecord]
  | some record =>
    simp only [Store.discardRecord, excess_settle, balance_drop, Option.elim_some]
    omega

theorem excess_discardPayload (account : Account) (payload : Option (Payload κ)) (store : Store κ) :
    account.excess (store.discardPayload payload) =
      account.excess store - payload.elim 0 account.share := by
  cases payload with
  | none => simp [Store.discardPayload]
  | some payload =>
    simp only [Store.discardPayload, excess_settle, balance_apply, effect, Option.elim_some]
    omega

theorem excess_discardHandle (account : Account) (handle : Option ObjectId) (store : Store κ) :
    account.excess (store.discardHandle handle) =
      account.excess store - handle.elim 0 account.reference := by
  cases handle with
  | none => simp [Store.discardHandle]
  | some object =>
    simp only [Store.discardHandle, excess_settle, balance_release, Option.elim_some]
    omega

-- Keeping something uses up what was counted for it, whatever the name stood for before.
theorem excess_keepRecord (account : Account) (name : String) (record : Record κ) (store : Store κ) :
    account.excess (store.keepRecord name record) = account.excess store - account.ofRecord record := by
  simp only [Store.keepRecord, excess_discardRecord, excess_put_record]
  omega

theorem excess_keepPayload (account : Account) (name : String) (payload : Payload κ) (store : Store κ) :
    account.excess (store.keepPayload name payload) = account.excess store - account.share payload := by
  simp only [Store.keepPayload, excess_discardPayload, excess_put_payload]
  omega

theorem excess_keepHandle (account : Account) (name : String) (object : ObjectId) (store : Store κ) :
    account.excess (store.keepHandle name object) = account.excess store - account.reference object := by
  simp only [Store.keepHandle, excess_discardHandle, excess_put_handle]
  omega

theorem excess_dropRecord (account : Account) (name : String) (store : Store κ) :
    account.excess (store.dropRecord name) = account.excess store := by
  simp only [Store.dropRecord, excess_discardRecord, excess_erase_record]
  omega

theorem excess_dropPayload (account : Account) (name : String) (store : Store κ) :
    account.excess (store.dropPayload name) = account.excess store := by
  simp only [Store.dropPayload, excess_discardPayload, excess_erase_payload]
  omega

theorem excess_release (account : Account) (name : String) (store : Store κ) :
    account.excess (store.release name) = account.excess store := by
  simp only [Store.release, excess_discardHandle, excess_erase_handle]
  omega

theorem excess_update (account : Account) (name : String) (change : Record κ → Record κ)
    (same : ∀ record, account.ofRecord (change record) = account.ofRecord record) (store : Store κ) :
    account.excess (store.update name change) = account.excess store := by
  unfold Store.update
  cases found : store.record? name with
  | none => rfl
  | some record =>
    simp only [excess_put_record, found, Option.elim_some, same]
    omega

theorem excess_cloneRecord [Cargo κ] (account : Account) (name target : String) (store : Store κ) :
    account.excess (store.cloneRecord name target) = account.excess store := by
  unfold Store.cloneRecord Store.copyRecord
  cases store.record? name with
  | none => rfl
  | some record =>
    simp only [Store.keepCopy, excess_keepRecord, excess_ledger, balance_clone, Record.clone_same]
    omega

theorem excess_clonePayload [Cargo κ] (account : Account) (name target : String) (store : Store κ) :
    account.excess (store.clonePayload name target) = account.excess store := by
  unfold Store.clonePayload
  cases store.payload? name with
  | none => rfl
  | some payload =>
    simp only [excess_keepPayload, excess_settle, balance_apply, effect, Payload.copy_same]
    omega

theorem balance_make (account : Account) (payload : Payload κ) (ledger : Ledger) :
    account.balance (Store.make payload ledger) = account.balance ledger + account.share payload := by
  simp only [Store.make, share, holding]
  cases payload.held? with
  | none => simp only [balance_apply, effect, Option.elim_none]; omega
  | some object => simp only [balance_acquire, balance_apply, effect, Option.elim_some]; omega

theorem ofRecord_add (account : Account) (record : Record κ) (name : String) (payload : Payload κ) :
    account.ofRecord (record.add name payload).1 =
      account.ofRecord record + account.share payload -
        (record.add name payload).2.elim 0 account.share := by
  simp only [ofRecord_exact]
  exact account.ofContainer_add record.container name payload

theorem excess_place (account : Account) (name slot : String) (payload : Payload κ) (store : Store κ) :
    account.excess (store.place name slot payload).2 = account.excess store - account.share payload := by
  unfold Store.place
  cases found : store.record? name with
  | none => simp only [excess_discardPayload, Option.elim_some]
  | some record =>
    simp only [excess_discardPayload, excess_put_record, found, Option.elim_some, ofRecord_add]
    omega

theorem excess_put (account : Account) (name slot : String) (payload : Payload κ) (store : Store κ) :
    account.excess (store.put name slot payload).2 = account.excess store := by
  simp only [Store.put, excess_place, excess_settle, balance_make]
  omega

theorem excess_move (account : Account) (source name slot : String) (store : Store κ) :
    account.excess (store.move source name slot).2 = account.excess store := by
  unfold Store.move
  cases found : store.payload? source with
  | none => rfl
  | some payload =>
    simp only [excess_place, excess_erase_payload, found, Option.elim_some]
    omega

theorem balance_fill (account : Account) (entries : List (String × Payload κ)) (ledger : Ledger) :
    account.balance (Store.fill entries ledger).2 =
      account.balance ledger + account.ofContainer (Store.fill entries ledger).1 := by
  -- The container so far and its ledger move together; it starts empty.
  have onto : ∀ (state : Container κ × Ledger),
      account.balance (entries.foldl Store.fillEntry state).2 -
        account.ofContainer (entries.foldl Store.fillEntry state).1 =
      account.balance state.2 - account.ofContainer state.1 := by
    induction entries with
    | nil => intro state; rfl
    | cons entry rest ih =>
      intro state
      rw [List.foldl_cons, ih]
      have added := account.ofContainer_add state.1 entry.1 entry.2
      have made := account.balance_make entry.2 state.2
      simp only [Store.fillEntry]
      cases displaced : (state.1.add entry.1 entry.2).2 with
      | none =>
        simp only [displaced, Option.elim_none] at added
        dsimp only
        omega
      | some old =>
        simp only [displaced, Option.elim_some] at added
        simp only [balance_apply, effect]
        omega
  have start := onto (.empty, ledger)
  have nothing : account.ofContainer (Container.empty : Container κ) = 0 := rfl
  simp only [Store.fill]
  simp only [nothing] at start
  omega

theorem excess_adopt (account : Account) (name : String) (entries : List (String × Payload κ))
    (store : Store κ) : account.excess (store.adopt name entries) = account.excess store := by
  unfold Store.adopt
  cases found : store.record? name with
  | none => rfl
  | some record =>
    have filled := account.balance_fill entries store.ledger
    have worth : account.ofRecord { record with payloads := some (Store.fill entries store.ledger).1 } =
        account.ofContainer (Store.fill entries store.ledger).1 := account.ofRecord_exact _
    have put := account.excess_put_record store name
      { record with payloads := some (Store.fill entries store.ledger).1 }
    simp only [found, Option.elim_some, worth] at put
    simp only [excess, due, balance_drop] at put ⊢
    omega

theorem balance_releaseHeld (account : Account) (payload : Payload κ) (ledger : Ledger) :
    account.balance (payload.releaseHeld ledger).2 - account.share (payload.releaseHeld ledger).1 =
      account.balance ledger - account.share payload := by
  unfold Payload.releaseHeld
  split
  · simp only [balance_release, share, holding, Payload.held?, Payload.kind, Option.elim_none,
      Option.elim_some]
    omega
  · rfl

-- The caller's reference has been counted before it goes into the slot.
theorem balance_attach (account : Account) (record : Record κ) (object : ObjectId) (ledger : Ledger) :
    account.balance (record.attach object ledger).2 - account.ofRecord (record.attach object ledger).1 =
      account.balance ledger - account.ofRecord record - account.reference object := by
  have added := account.ofRecord_add record slotName (.reference (some object))
  have worth : account.share (.reference (some object) : Payload κ) =
      account.reference object + account.existence .reference := rfl
  have made := account.balance_apply ledger (.created (.reference (some object) : Payload κ))
  simp only [effect, Payload.kind] at made
  simp only [Record.attach]
  cases displaced : (record.add slotName (.reference (some object))).2 with
  | none =>
    simp only [displaced, Option.elim_none] at added
    dsimp only
    omega
  | some old =>
    have released := account.balance_releaseHeld old
      (ledger.apply (.created (.reference (some object) : Payload κ)))
    simp only [displaced, Option.elim_some] at added
    rw [balance_apply]
    simp only [effect]
    omega

theorem excess_attach (account : Account) (name : String) (object : ObjectId) (store : Store κ) :
    account.excess (store.attach name object) = account.excess store := by
  unfold Store.attach
  cases found : store.record? name with
  | none => rfl
  | some record =>
    have attached := account.balance_attach record object (store.ledger.acquire object)
    have put := account.excess_put_record store name
      (record.attach object (store.ledger.acquire object)).1
    simp only [found, Option.elim_some] at put
    simp only [balance_acquire] at attached
    simp only [excess, due] at put ⊢
    omega

theorem balance_lookup (account : Account) (record : Record κ) (ledger : Ledger) :
    account.balance (record.lookup ledger).2 =
      account.balance ledger + (record.lookup ledger).1.elim 0 account.reference := by
  unfold Record.lookup
  split
  · simp only [balance_acquire, Option.elim_some]
  · simp only [Option.elim_none]
    omega

theorem excess_lookup (account : Account) (name : String) (store : Store κ) :
    account.excess (store.lookup name).2 = account.excess store := by
  unfold Store.lookup
  cases store.record? name with
  | none => rfl
  | some record =>
    simp only [excess_discardHandle, excess_ledger, balance_lookup]
    omega

theorem excess_hold (account : Account) (name handle : String) (store : Store κ) :
    account.excess (store.hold name handle).2 = account.excess store := by
  unfold Store.hold
  cases store.record? name with
  | none => rfl
  | some record =>
    have looked := account.balance_lookup record store.ledger
    cases found : (record.lookup store.ledger).1 with
    | none =>
      simp only [found, Option.elim_none] at looked
      simp only [found, excess_ledger]
      omega
    | some object =>
      simp only [found, Option.elim_some] at looked
      simp only [found, excess_keepHandle, excess_ledger]
      omega

theorem balance_dropAll {α : Type} (account : Account) (worth : α → Int) (drop : α → Ledger → Ledger)
    (costs : ∀ item ledger, account.balance (drop item ledger) = account.balance ledger - worth item)
    (items : List (String × α)) (ledger : Ledger) :
    account.balance (items.foldl (fun ledger entry => drop entry.2 ledger) ledger) =
      account.balance ledger - Named.total worth items := by
  induction items generalizing ledger with
  | nil => simp [Named.total]
  | cons entry rest ih =>
    rw [List.foldl_cons, ih, costs]
    simp only [Named.total, List.map_cons, List.sum_cons]
    omega

theorem balance_clear (account : Account) (store : Store κ) :
    account.balance store.clear.ledger = account.balance store.ledger - account.due store := by
  have records := account.balance_dropAll account.ofRecord Record.drop
    (fun record ledger => account.balance_drop record ledger) store.records
  have payloads := account.balance_dropAll account.share
    (fun (payload : Payload κ) ledger => ledger.apply (.dropped payload))
    (fun payload ledger => (account.balance_apply ledger (.dropped payload)).trans (by
      simp only [effect]; omega)) store.payloads
  have handles := account.balance_dropAll account.reference Ledger.release
    (fun object ledger => account.balance_release ledger object) store.handles
  simp only [Store.clear, handles, payloads, records, due]
  omega

variable [Cargo κ]

theorem excess_refill (account : Account) (name : String) (buffer : Buffer) (store : Store κ) :
    account.excess (store.refill name buffer).2 = account.excess store := by
  unfold Store.refill
  cases found : store.payload? name with
  | none => rfl
  | some payload =>
    have put := account.excess_put_payload store name (payload.read buffer).value
    simp only [found, Option.elim_some, share_read] at put
    have reset := account.balance_apply store.ledger (.reset payload)
    simp only [excess, due, Store.settle, share, effect] at put reset ⊢
    omega

theorem excess_receive (account : Account) (target : String) {registry : Registry κ}
    (nothing : registry.HoldsNothing) (buffer : Buffer) (store : Store κ) :
    account.excess (store.receive target registry buffer).2 = account.excess store := by
  have read := account.balance_deserialize nothing buffer store.ledger
  unfold Store.receive
  cases done : (Record.deserialize registry buffer store.ledger).1.1 with
  | ok record =>
    simp only [done, gain_ok] at read
    simp only [done, excess_keepRecord, excess_ledger]
    omega
  | error e =>
    simp only [done, gain_error] at read
    simp only [done, excess_ledger]
    omega

end Account
end RecordBridge
