import Mathlib.Algebra.Ring.Int.Defs
import RecordBridge.Custody.Store

namespace RecordBridge

namespace Named

variable {α : Type}

def total (worth : α → Int) (items : List (String × α)) : Int := (items.map fun item => worth item.2).sum

theorem total_put (worth : α → Int) (name : String) (item : α) (items : List (String × α)) :
    total worth (put name item items) =
      total worth items + worth item - (find? name items).elim 0 worth := by
  induction items with
  | nil => simp [total, put, find?]
  | cons entry rest ih =>
    by_cases same : entry.1 = name
    · simp only [total, put, find?, same, if_true, List.map_cons, List.sum_cons, Option.elim_some]
      omega
    · simp only [total] at ih
      simp only [total, put, find?, same, if_false, List.map_cons, List.sum_cons, ih]
      omega

theorem total_erase (worth : α → Int) (name : String) (items : List (String × α)) :
    total worth (erase name items) = total worth items - (find? name items).elim 0 worth := by
  induction items with
  | nil => simp [total, erase, find?]
  | cons entry rest ih =>
    by_cases same : entry.1 = name
    · simp only [total, erase, find?, same, if_true, List.map_cons, List.sum_cons, Option.elim_some]
      omega
    · simp only [total] at ih
      simp only [total, erase, find?, same, if_false, List.map_cons, List.sum_cons, ih]
      omega

end Named

inductive Account where
  | references (object : ObjectId)
  | live (kind : PayloadKind)

namespace Account

variable {κ : Type}

def balance (account : Account) (ledger : Ledger) : Int :=
  match account with
  | .references object => ledger.references object
  | .live kind => ledger.live kind

-- What one reference adds, whoever keeps it.
def reference (account : Account) (object : ObjectId) : Int :=
  match account with
  | .references counted => if object = counted then 1 else 0
  | .live _ => 0

-- What a payload adds by being there, apart from the reference it may hold.
def existence (account : Account) (kind : PayloadKind) : Int :=
  match account with
  | .references _ => 0
  | .live counted => if kind = counted then 1 else 0

def holding (account : Account) (payload : Payload κ) : Int := payload.held?.elim 0 account.reference

def share (account : Account) (payload : Payload κ) : Int :=
  account.holding payload + account.existence payload.kind

def shares (account : Account) (payloads : List (Payload κ)) : Int := (payloads.map account.share).sum

def ofContainer (account : Account) (container : Container κ) : Int :=
  Named.total account.share container.entries

def ofRecord (account : Account) (record : Record κ) : Int := account.shares record.owned

theorem shares_payloads (account : Account) (container : Container κ) :
    account.shares container.payloads = account.ofContainer container := by
  simp [shares, Container.payloads, ofContainer, Named.total, Function.comp_def]

theorem ofRecord_exact (account : Account) (record : Record κ) :
    account.ofRecord record = account.ofContainer record.container :=
  account.shares_payloads record.container

theorem ofContainer_add (account : Account) (container : Container κ) (name : String)
    (payload : Payload κ) : account.ofContainer (container.add name payload).1 =
      account.ofContainer container + account.share payload -
        (container.add name payload).2.elim 0 account.share :=
  Named.total_put account.share name payload container.entries

-- Entering and leaving the lock is no business of any account.
@[simp]
theorem balance_enter (account : Account) (ledger : Ledger) :
    account.balance ledger.enter = account.balance ledger := by
  unfold Ledger.enter
  cases account <;> dsimp only <;> split <;> rfl

@[simp]
theorem balance_leave (account : Account) (ledger : Ledger) :
    account.balance ledger.leave = account.balance ledger := by
  cases account <;> rfl

theorem balance_acquire (account : Account) (ledger : Ledger) (object : ObjectId) :
    account.balance (ledger.acquire object) = account.balance ledger + account.reference object := by
  cases account with
  | references counted =>
    by_cases same : counted = object
    · simp [balance, reference, Ledger.acquire, Ledger.adjust, same]
    · simp [balance, reference, Ledger.acquire, Ledger.adjust, same, Ne.symm same]
  | live kind => simp [balance, reference, Ledger.acquire, Ledger.adjust]

theorem balance_release (account : Account) (ledger : Ledger) (object : ObjectId) :
    account.balance (ledger.release object) = account.balance ledger - account.reference object := by
  cases account with
  | references counted =>
    by_cases same : counted = object
    · simp [balance, reference, Ledger.release, Ledger.adjust, same]; omega
    · simp [balance, reference, Ledger.release, Ledger.adjust, same, Ne.symm same]
  | live kind => simp [balance, reference, Ledger.release, Ledger.adjust]

theorem balance_count (account : Account) (ledger : Ledger) (kind : PayloadKind) (change : Int) :
    account.balance (ledger.count kind change) =
      account.balance ledger + change * account.existence kind := by
  cases account with
  | references object => simp [balance, existence, Ledger.count]
  | live counted =>
    by_cases same : counted = kind
    · simp [balance, existence, Ledger.count, same]
    · simp [balance, existence, Ledger.count, same, Ne.symm same]

theorem balance_touch_acquire (account : Account) (ledger : Ledger) (payload : Payload κ) :
    account.balance (ledger.touch payload Ledger.acquire) =
      account.balance ledger + account.holding payload := by
  unfold Ledger.touch holding
  cases payload.held? with
  | none => simp
  | some object => simp [Ledger.held, balance_acquire]

theorem balance_touch_release (account : Account) (ledger : Ledger) (payload : Payload κ) :
    account.balance (ledger.touch payload Ledger.release) =
      account.balance ledger - account.holding payload := by
  unfold Ledger.touch holding
  cases payload.held? with
  | none => simp
  | some object => simp [Ledger.held, balance_release]

-- A payload is created around a reference that was taken before, and counts only for itself then.
def effect (account : Account) : PayloadEvent κ → Int
  | .created payload => account.existence payload.kind
  | .cloned payload => account.share payload
  | .reset payload => - account.holding payload
  | .dropped payload => - account.share payload

def effects (account : Account) (events : List (PayloadEvent κ)) : Int :=
  (events.map account.effect).sum

theorem balance_apply (account : Account) (ledger : Ledger) (event : PayloadEvent κ) :
    account.balance (ledger.apply event) = account.balance ledger + account.effect event := by
  cases event with
  | created payload =>
    simp only [Ledger.apply, balance_count, effect]
    omega
  | cloned payload =>
    simp only [Ledger.apply, balance_count, balance_touch_acquire, effect, share]
    omega
  | reset payload =>
    simp only [Ledger.apply, balance_touch_release, effect]
    omega
  | dropped payload =>
    simp only [Ledger.apply, balance_count, balance_touch_release, effect, share]
    omega

theorem balance_applyAll (account : Account) (ledger : Ledger) (events : List (PayloadEvent κ)) :
    account.balance (ledger.applyAll events) = account.balance ledger + account.effects events := by
  induction events generalizing ledger with
  | nil => simp [Ledger.applyAll, effects]
  | cons event rest ih =>
    have tail := ih (ledger.apply event)
    simp only [Ledger.applyAll, effects] at tail
    simp only [Ledger.applyAll, effects, List.foldl_cons, List.map_cons, List.sum_cons, tail, balance_apply]
    omega

theorem effects_append (account : Account) (first second : List (PayloadEvent κ)) :
    account.effects (first ++ second) = account.effects first + account.effects second := by
  simp [effects]

theorem effects_cloned (account : Account) (payloads : List (Payload κ)) :
    account.effects (payloads.map .cloned) = account.shares payloads := by
  simp [effects, shares, effect, Function.comp_def]

theorem effects_dropped (account : Account) (payloads : List (Payload κ)) :
    account.effects (payloads.map .dropped) = - account.shares payloads := by
  induction payloads with
  | nil => simp [effects, shares]
  | cons payload rest ih =>
    simp only [effects, shares] at ih
    simp only [effects, shares, effect, List.map_cons, List.sum_cons, ih]
    omega

theorem balance_clone [Cargo κ] (account : Account) (record : Record κ) (ledger : Ledger) :
    account.balance (record.clone ledger).2 = account.balance ledger + account.ofRecord record := by
  simp [Record.clone, balance_applyAll, effects_cloned, ofRecord]

theorem balance_drop (account : Account) (record : Record κ) (ledger : Ledger) :
    account.balance (record.drop ledger) = account.balance ledger - account.ofRecord record := by
  simp only [Record.drop, balance_applyAll, effects_dropped, ofRecord]
  omega

end Account
end RecordBridge
