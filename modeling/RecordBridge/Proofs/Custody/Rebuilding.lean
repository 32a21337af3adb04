import RecordBridge.Proofs.Custody.Balance

namespace RecordBridge

namespace Named

variable {α : Type}

theorem find?_member {name : String} {item : α} {items : List (String × α)}
    (found : find? name items = some item) : (name, item) ∈ items := by
  induction items with
  | nil => simp [find?] at found
  | cons entry rest ih =>
    obtain ⟨key, old⟩ := entry
    by_cases same : key = name
    · simp only [find?, same, if_true, Option.some.injEq] at found
      subst same found
      exact List.mem_cons_self
    · simp only [find?, same, if_false] at found
      exact List.mem_cons_of_mem _ (ih found)

theorem find?_fresh {name : String} {items : List (String × α)} (fresh : name ∉ names items) :
    find? name items = none := by
  cases found : find? name items with
  | none => rfl
  | some item => exact absurd (List.mem_map_of_mem (find?_member found)) fresh

theorem find?_known {name : String} {items : List (String × α)} (known : name ∈ names items) :
    ∃ item, find? name items = some item := by
  induction items with
  | nil => cases known
  | cons entry rest ih =>
    by_cases here : entry.1 = name
    · exact ⟨entry.2, by rw [find?, if_pos here]⟩
    · rw [find?, if_neg here]
      exact ih ((List.mem_cons.mp known).resolve_left (Ne.symm here))

end Named

variable {κ : Type}

-- No blank of the registry comes with an object in it.
def Registry.HoldsNothing (registry : Registry κ) : Prop :=
  ∀ entry ∈ registry.blanks, entry.2.held? = none

theorem Registry.HoldsNothing.create {registry : Registry κ} (nothing : registry.HoldsNothing)
    {name : String} {blank : Payload κ} (made : registry.create name = .ok blank) :
    blank.held? = none := by
  unfold Registry.create at made
  cases found : Named.find? name registry.blanks with
  | none => simp [found] at made
  | some known =>
    simp only [found, Except.ok.injEq] at made
    subst made
    exact nothing _ (Named.find?_member found)

theorem Registry.HoldsNothing.register {registry : Registry κ} (nothing : registry.HoldsNothing)
    {blank : Payload κ} (none : blank.held? = none) (name : String) :
    (registry.register name blank).HoldsNothing := List.forall_mem_cons.mpr ⟨none, nothing⟩

theorem Registry.slot_holds_nothing : (slotRegistry : Registry κ).HoldsNothing :=
  List.forall_mem_singleton.mpr rfl

namespace Account

variable {α β : Type}

def gain (worth : α → Int) : Except HostError α → Int
  | .ok a => worth a
  | .error _ => 0

theorem gain_ok (worth : α → Int) (a : α) : gain worth (.ok a) = worth a := rfl

theorem gain_error (worth : α → Int) (e : HostError) : gain worth (.error e) = 0 := rfl

-- A step takes over holders of a certain worth. It answers for them with what it returns, and has
-- dropped them all where it fails.
def Trades (account : Account) (taken : Int) (step : Reader (Decoding κ) α) (worth : α → Int) : Prop :=
  ∀ decoding, account.effects (step decoding).2.events =
    account.effects decoding.events + gain worth (step decoding).1 - taken

theorem Trades.bind {account : Account} {taken : Int} {first : Reader (Decoding κ) α}
    {next : α → Reader (Decoding κ) β} {between : α → Int} {worth : β → Int}
    (one : account.Trades taken first between)
    (two : ∀ a, account.Trades (between a) (next a) worth) :
    account.Trades taken (first >>= next) worth := by
  intro decoding
  have head := one decoding
  change account.effects (Reader.bind first next decoding).2.events =
    account.effects decoding.events + gain worth (Reader.bind first next decoding).1 - taken
  unfold Reader.bind
  rcases ran : first decoding with ⟨outcome, middle⟩
  rw [ran] at head
  cases outcome with
  | ok a =>
    have tail := two a middle
    simp only [gain_ok] at head
    change account.effects (next a middle).2.events =
      account.effects decoding.events + gain worth (next a middle).1 - taken
    omega
  | error e => simpa only [gain_error] using head

theorem trades_pure (account : Account) (worth : α → Int) (a : α) :
    account.Trades (worth a) (Pure.pure a : Reader (Decoding κ) α) worth := by
  intro decoding
  change account.effects decoding.events = account.effects decoding.events + worth a - worth a
  omega

theorem trades_fail (account : Account) (worth : α → Int) (e : HostError) :
    account.Trades 0 (Reader.fail e : Reader (Decoding κ) α) worth := by
  intro decoding
  simp [Reader.fail, gain_error]

-- Bytes alone are worth nothing.
theorem trades_onBuffer (account : Account) (step : Reader Buffer α) :
    account.Trades 0 (Decoding.onBuffer step : Reader (Decoding κ) α) (fun _ => 0) := by
  intro decoding
  simp only [Decoding.onBuffer]
  cases (step decoding.buffer).1 <;> simp [gain]

theorem trades_receive (account : Account) (container : Container κ) (name : String)
    (payload : Payload κ) : account.Trades (account.share payload) (container.receive name payload)
      (fun filled => account.ofContainer filled - account.ofContainer container) := by
  intro decoding
  have added := account.ofContainer_add container name payload
  simp only [Container.receive, Decoding.note, effects_append, effects_dropped, gain_ok]
  cases displaced : (container.add name payload).2 with
  | none =>
    simp only [displaced, Option.elim_none] at added
    simp only [shares, Option.toList_none, List.map_nil, List.sum_nil]
    omega
  | some old =>
    simp only [displaced, Option.elim_some] at added
    simp only [shares, Option.toList_some, List.map_cons, List.map_nil, List.sum_cons, List.sum_nil]
    omega

end Account

variable [Cargo κ]

theorem Payload.read_kind (payload : Payload κ) (buffer : Buffer) :
    (payload.read buffer).value.kind = payload.kind := by
  cases payload <;> rfl

theorem Payload.read_holds_nothing (payload : Payload κ) (buffer : Buffer) :
    (payload.read buffer).value.held? = none := by
  cases payload <;> rfl

namespace Account

variable {registry : Registry κ}

-- Whatever a payload held before it was filled, it is worth its existence afterwards.
theorem share_read (account : Account) (payload : Payload κ) (buffer : Buffer) :
    account.share (payload.read buffer).value = account.existence payload.kind := by
  simp [share, holding, Payload.read_kind, Payload.read_holds_nothing]

theorem trades_fill (account : Account) {blank : Payload κ} (nothing : blank.held? = none)
    (data : Bytes) : account.Trades 0 (Container.fill blank data) account.share := by
  intro decoding
  have blankHolds : account.holding blank = 0 := by simp [holding, nothing]
  have filled := account.share_read blank (.ofBytes decoding.buffer.order data)
  simp only [Container.fill]
  cases (blank.read (.ofBytes decoding.buffer.order data)).outcome with
  | ok =>
    simp only [Decoding.note, effects, List.map_append, List.sum_append, List.map_cons, List.map_nil,
      List.sum_cons, List.sum_nil, effect, gain_ok]
    omega
  | error e =>
    simp only [Decoding.note, effects, List.map_append, List.sum_append, List.map_cons, List.map_nil,
      List.sum_cons, List.sum_nil, effect, gain_error]
    omega

theorem trades_readEntry (account : Account) (nothing : registry.HoldsNothing)
    (container : Container κ) : account.Trades 0 (container.readEntry registry)
      (fun filled => account.ofContainer filled - account.ofContainer container) := by
  refine .bind (account.trades_onBuffer _) fun name => ?_
  refine .bind (account.trades_onBuffer _) fun data => ?_
  cases made : registry.create name with
  | error e => exact account.trades_fail _ e
  | ok blank =>
    exact .bind (account.trades_fill (nothing.create made) data)
      fun payload => account.trades_receive container name payload

-- The entries read so far are handed on from entry to entry, and dropped by the one that fails.
theorem trades_readEntries (account : Account) (nothing : registry.HoldsNothing) (count : Nat)
    (container : Container κ) : account.Trades (account.ofContainer container)
      (Container.readEntries registry count container) account.ofContainer := by
  induction count generalizing container with
  | zero =>
    intro decoding
    simp only [Container.readEntries, gain_ok]
    omega
  | succ count ih =>
    intro decoding
    have entry := account.trades_readEntry nothing container decoding
    unfold Container.readEntries
    rcases ran : Container.readEntry registry container decoding with ⟨e | filled, middle⟩ <;>
      rw [ran] at entry
    · change account.effects (middle.events ++ container.payloads.map .dropped) =
        account.effects decoding.events + 0 - account.ofContainer container
      simp only [gain_error] at entry
      rw [effects_append, effects_dropped, shares_payloads]
      omega
    · have rest := ih filled middle
      simp only [gain_ok] at entry
      change account.effects (Container.readEntries registry count filled middle).2.events =
        account.effects decoding.events +
          gain account.ofContainer (Container.readEntries registry count filled middle).1 -
          account.ofContainer container
      omega

theorem trades_readContainer (account : Account) (nothing : registry.HoldsNothing) :
    account.Trades 0 (Container.read registry) account.ofContainer := by
  refine .bind (account.trades_onBuffer _) fun count => ?_
  exact account.trades_readEntries nothing count.toNat .empty

theorem trades_readPayloads (account : Account) (nothing : registry.HoldsNothing) :
    account.Trades 0 (Record.readPayloads registry) (·.elim 0 account.ofContainer) := by
  refine .bind (account.trades_onBuffer _) fun flag => ?_
  split
  · exact account.trades_pure (·.elim 0 account.ofContainer) none
  · refine .bind (account.trades_readContainer nothing) fun container => ?_
    exact account.trades_pure (·.elim 0 account.ofContainer) (some container)

theorem trades_read (account : Account) (nothing : registry.HoldsNothing) :
    account.Trades 0 (Record.read registry) account.ofRecord := by
  refine .bind (account.trades_onBuffer _) fun attributes => ?_
  refine .bind (account.trades_readPayloads nothing) fun payloads => ?_
  have worth : payloads.elim 0 account.ofContainer = account.ofRecord ⟨attributes, payloads⟩ := by
    rw [ofRecord_exact]
    cases payloads <;> rfl
  rw [worth]
  exact account.trades_pure account.ofRecord _

theorem balance_deserialize (account : Account) (nothing : registry.HoldsNothing) (buffer : Buffer)
    (ledger : Ledger) :
    account.balance (Record.deserialize registry buffer ledger).2 =
      account.balance ledger +
        gain account.ofRecord (Record.deserialize registry buffer ledger).1.1 := by
  have settled := account.trades_read nothing (.start buffer)
  simp only [Record.deserialize, balance_applyAll]
  simp only [Decoding.start, effects, List.map_nil, List.sum_nil] at settled ⊢
  omega

end Account
end RecordBridge
