import RecordBridge.Proofs.Record.Alike
import RecordBridge.Proofs.Record.Transport

namespace RecordBridge

open Reader

variable {κ : Type}

namespace Container

-- The same names in the same order, and the same payload under every name but one.
structure SameBut (name : String) (one other : Container κ) : Prop where
  names : other.names = one.names
  others : ∀ key ≠ name, other.find? key = one.find? key

theorem sameBut_add (container : Container κ) (name : String) (one other : Payload κ) :
    SameBut name (container.add name one).1 (container.add name other).1 := by
  refine ⟨by rw [names_add, names_add], fun key different => ?_⟩
  exact (Named.find?_put_other other _ different).trans (Named.find?_put_other one _ different).symm

-- What is said of two containers and said still when the same is put into both.
def Kept (fit : Container κ → Container κ → Prop) : Prop :=
  ∀ {one other : Container κ}, fit one other → ∀ (name : String) (payload : Payload κ),
    fit (one.add name payload).1 (other.add name payload).1

theorem kept_sameBut (name : String) : Kept (@SameBut κ name) := by
  intro one other same key payload
  refine ⟨by rw [names_add, names_add, same.names], fun wanted different => ?_⟩
  by_cases here : wanted = key
  · subst here
    exact (Named.find?_put_self _ _ _).trans (Named.find?_put_self _ _ _).symm
  · exact (Named.find?_put_other _ _ here).trans
      ((same.others wanted different).trans (Named.find?_put_other _ _ here).symm)

variable [Cargo κ]

theorem readEntries_passed {registry : Registry κ} {left : Nat} {container filled : Container κ}
    {before after : Decoding κ} (entry : container.readEntry registry before = (.ok filled, after)) :
    readEntries registry (left + 1) container before = readEntries registry left filled after := by
  rw [readEntries]
  simp only [entry]

theorem repeats_entry (order : ByteOrder) (registry : Registry κ) (container : Container κ) :
    (container.readEntry registry).Repeats order := by
  refine (accepts_entry order registry container).repeats ?_
  rintro wire filled ⟨entry, restorable, rfl, rfl⟩
  exact reads_entry container restorable

-- A payload is filled from its own bytes, so it does not matter where the reading stands.
theorem alike_fill (blank : Payload κ) (data : Bytes) : Alike Eq (fill blank data) (fill blank data) := by
  intro s t level
  have order : s.buffer.order = t.buffer.order := level.1
  unfold fill
  simp only [order]
  cases (blank.read (.ofBytes t.buffer.order data)).outcome with
  | ok done => exact .answered rfl level
  | error e => exact .failed level

variable {fit : Container κ → Container κ → Prop}

theorem alike_entry (registry : Registry κ)
    (kept : Kept fit) {one other : Container κ} (fits : fit one other) :
    Alike fit (one.readEntry registry) (other.readEntry registry) := by
  refine Buffer.alike_getString.onBuffer.bind ?_
  rintro name _ rfl
  refine Buffer.alike_getBytes.onBuffer.bind ?_
  rintro data _ rfl
  cases registry.create name with
  | error e => exact alike_fail fit e
  | ok blank =>
    refine (alike_fill blank data).bind ?_
    rintro payload _ rfl
    exact fun s t level => .answered (kept fits name payload) level

-- What is kept still holds when all entries have been read.
theorem alike_entries (registry : Registry κ)
    (kept : Kept fit) (count : Nat) {one other : Container κ} (fits : fit one other) :
    Alike fit (readEntries registry count one) (readEntries registry count other) := by
  induction count generalizing one other with
  | zero => exact fun s t level => .answered fits level
  | succ count ih =>
    intro s t level
    have entry := alike_entry registry kept fits s t level
    unfold readEntries
    generalize one.readEntry registry s = first at entry
    generalize other.readEntry registry t = second at entry
    cases entry with
    | answered fits level => exact ih fits _ _ level
    | failed level => exact .failed level

end Container

namespace Record

variable [Cargo κ] {registry : Registry κ} {order : ByteOrder}

-- A reading inside the payloads: the attributes are there, a flag that is set and a count were found,
-- some entries have been put into the container, and so many are still to come.
inductive Reached (registry : Registry κ) (start : Decoding κ) :
    List (String × Value) → Nat → Container κ → Decoding κ → Prop where
  | announced {attributes : List (String × Value)} {flag count : UInt32} {one two three : Decoding κ}
      (first : Decoding.onBuffer readCounted start = (.ok attributes, one))
      (flagged : Decoding.onBuffer Buffer.getU32 one = (.ok flag, two)) (set : flag ≠ 0)
      (counted : Decoding.onBuffer Buffer.getU32 two = (.ok count, three)) :
      Reached registry start attributes count.toNat .empty three
  | passed {attributes : List (String × Value)} {left : Nat} {container filled : Container κ}
      {before after : Decoding κ} (reached : Reached registry start attributes (left + 1) container before)
      (entry : container.readEntry registry before = (.ok filled, after)) :
      Reached registry start attributes left filled after

-- The reading of these bytes comes to an entry of that name, and has read just the front of the bytes
-- then: next come the number of the entry's bytes and the bytes themselves.
def Reaches (registry : Registry κ) (order : ByteOrder) (bytes front : Bytes) (name : String) : Prop :=
  ∃ attributes left container before after,
    Reached registry (.start (.ofBytes order bytes)) attributes (left + 1) container before ∧
    Decoding.onBuffer Buffer.getString before = (.ok name, after) ∧ after.buffer.consumed = front.reverse

theorem repeats_counted (order : ByteOrder) : readCounted.Repeats order := by
  refine (accepts_counted order).repeats ?_
  rintro wire attributes ⟨few, short, rfl⟩
  exact reads_counted order few short

-- Nothing but the bytes taken so far has a part in how far the reading has got.
theorem Reached.retraced {start state : Decoding κ} (stands : start.buffer.order = order)
    {attributes : List (String × Value)} {left : Nat} {container : Container κ}
    (reached : Reached registry start attributes left container state) : ∃ wire,
      Retraced order (fun s t => Reached registry s attributes left container t) start state wire := by
  induction reached with
  | announced first flagged set counted =>
    obtain ⟨front, attributes⟩ := (repeats_counted order).onBuffer.retraced stands first
    obtain ⟨middle, flag⟩ := (Buffer.repeats_getU32 order).onBuffer.retraced attributes.still flagged
    obtain ⟨rear, count⟩ := (Buffer.repeats_getU32 order).onBuffer.retraced flag.still counted
    refine ⟨_, ((attributes.trans flag).trans count).imp ?_⟩
    rintro s t ⟨two, ⟨one, first, flagged⟩, counted⟩
    exact .announced first flagged set counted
  | passed reached entry ih =>
    obtain ⟨front, before⟩ := ih
    obtain ⟨rear, passing⟩ := (Container.repeats_entry order registry _).retraced before.still entry
    refine ⟨_, (before.trans passing).imp ?_⟩
    rintro s t ⟨between, reached, entry⟩
    exact .passed reached entry

-- What becomes of the record when the entries have been read.
def closed (attributes : List (String × Value)) :
    Except HostError (Container κ) × Decoding κ → Except HostError (Record κ) × Decoding κ
  | (.ok container, after) => (.ok ⟨attributes, some container⟩, after)
  | (.error e, after) => (.error e, after)

-- From there only the entries to come matter.
theorem Reached.read {start state : Decoding κ} {attributes : List (String × Value)} {left : Nat}
    {container : Container κ} (reached : Reached registry start attributes left container state) :
    Record.read registry start = closed attributes (Container.readEntries registry left container state) := by
  induction reached with
  | @announced flag count one two three first flagged set counted =>
    have entries : Container.read registry two = Container.readEntries registry count.toNat .empty three :=
      bind_answered counted _
    rcases ran : Container.readEntries registry count.toNat .empty three with ⟨e | container, after⟩
    · have payloads : readPayloads registry one = (.error e, after) := by
        rw [readPayloads, bind_answered flagged, if_neg set, bind_failed (entries.trans ran)]
      rw [Record.read, bind_answered first, bind_failed payloads]
      rfl
    · have payloads : readPayloads registry one = (.ok (some container), after) := by
        rw [readPayloads, bind_answered flagged, if_neg set, bind_answered (entries.trans ran)]
        rfl
      rw [Record.read, bind_answered first, bind_answered payloads]
      rfl
  | passed reached entry ih => rw [ih, Container.readEntries_passed entry]

end Record

namespace Container

variable [Cargo κ] {registry : Registry κ} {order : ByteOrder}

-- The number and the bytes of an entry whose name has been read, and what becomes of them.
theorem readEntry_named {container : Container κ} {before after : Decoding κ} {name : String}
    (named : Decoding.onBuffer Buffer.getString before = (.ok name, after)) {consumed back inner : Bytes}
    (stands : after.buffer = ⟨order, consumed, order.counted inner ++ back⟩) (short : inner.length < 2 ^ 32)
    {blank : Payload κ} (made : registry.create name = .ok blank)
    (taken : (blank.read (.ofBytes order inner)).outcome = .ok ()) :
    ∃ there : Decoding κ, container.readEntry registry before =
        (.ok (container.add name (blank.read (.ofBytes order inner)).value).1, there) ∧
      there.buffer = ⟨order, (order.counted inner).reverse ++ consumed, back⟩ := by
  obtain ⟨bytes, behind⟩ := (Buffer.reads_getBytes order short).onBuffer after consumed back stands
  obtain ⟨filled, still⟩ := reads_fill taken (Decoding.onBuffer Buffer.getBytes after).2 _ _ behind
  have entry : container.readEntry registry before =
      container.receive name (blank.read (.ofBytes order inner)).value
        (fill blank inner (Decoding.onBuffer Buffer.getBytes after).2).2 := by
    rw [readEntry, bind_answered named, bind_answered (Prod.ext bytes rfl)]
    simp only [made]
    exact bind_answered (Prod.ext filled rfl) _
  exact ⟨_, entry, still⟩

end Container

namespace Record

variable [Cargo κ] {registry : Registry κ} {order : ByteOrder}

-- A reading that comes to an entry comes to it whatever the bytes of the entry are, and from behind them
-- only the payload restored from them goes on with it.
theorem Reaches.read {front one back : Bytes} {name : String}
    (reaches : Reaches registry order (front ++ order.counted one ++ back) front name) {blank : Payload κ}
    (made : registry.create name = .ok blank) :
    ∃ (attributes : List (String × Value)) (left : Nat) (container : Container κ), ∀ inner : Bytes,
      inner.length < 2 ^ 32 → (blank.read (.ofBytes order inner)).outcome = .ok () → ∃ there : Decoding κ,
        there.buffer.order = order ∧ there.buffer.unread = back ∧
        Record.read registry (.start (.ofBytes order (front ++ order.counted inner ++ back))) =
          closed attributes (Container.readEntries registry left
            (container.add name (blank.read (.ofBytes order inner)).value).1 there) := by
  obtain ⟨attributes, left, container, before, after, reached, named, stands⟩ := reaches
  obtain ⟨wire, way⟩ := reached.retraced (Eq.refl order)
  obtain ⟨nameWire, naming⟩ := (Buffer.repeats_getString order).onBuffer.retraced way.still named
  obtain ⟨consumed, tail, start, stop⟩ := (way.trans naming).taken
  obtain ⟨-, rfl, -⟩ := Buffer.mk.inj start
  have whole : front = wire ++ nameWire := by
    change after.buffer = _ at stop
    rw [stop, List.append_nil] at stands
    exact List.reverse_injective stands.symm
  refine ⟨attributes, left, container, fun inner short taken => ?_⟩
  obtain ⟨here, ⟨between, reached, named⟩, stands⟩ := (way.trans naming).again
    (.start (.ofBytes order (front ++ order.counted inner ++ back))) [] (order.counted inner ++ back)
    (by rw [whole, List.append_assoc]; rfl)
  obtain ⟨there, entry, stop⟩ := Container.readEntry_named named stands short made taken
  exact ⟨there, by rw [stop], by rw [stop], (reached.passed entry).read⟩

-- Two records that differ in what one of the names stands for, if in anything.
structure SameBut (name : String) (one other : Record κ) : Prop where
  attributes : other.attributes = one.attributes
  present : other.payloads.isSome = one.payloads.isSome
  names : other.container.names = one.container.names
  others : ∀ key ≠ name, other.payload? key = one.payload? key

-- What fits two containers behind the entry, and still fits when the same is put into both, fits the records.
theorem Reaches.agree {front one other back : Bytes} {name : String}
    (reaches : Reaches registry order (front ++ order.counted one ++ back) front name)
    (shortOne : one.length < 2 ^ 32) (shortOther : other.length < 2 ^ 32) {blank : Payload κ}
    (made : registry.create name = .ok blank)
    (takesOne : (blank.read (.ofBytes order one)).outcome = .ok ())
    (takesOther : (blank.read (.ofBytes order other)).outcome = .ok ())
    {fit : Container κ → Container κ → Prop} (kept : Container.Kept fit)
    (fits : ∀ container : Container κ, fit (container.add name (blank.read (.ofBytes order one)).value).1
      (container.add name (blank.read (.ofBytes order other)).value).1)
    {whole : Record κ → Record κ → Prop}
    (lift : ∀ attributes one other, fit one other → whole ⟨attributes, some one⟩ ⟨attributes, some other⟩) :
    Agree whole (Record.read registry (.start (.ofBytes order (front ++ order.counted one ++ back))))
      (Record.read registry (.start (.ofBytes order (front ++ order.counted other ++ back)))) := by
  obtain ⟨attributes, left, container, each⟩ := reaches.read made
  obtain ⟨here, hereOrder, hereBack, readOne⟩ := each one shortOne takesOne
  obtain ⟨there, thereOrder, thereBack, readOther⟩ := each other shortOther takesOther
  have abreast : Abreast here there := ⟨hereOrder.trans thereOrder.symm, hereBack.trans thereBack.symm⟩
  have entries := Container.alike_entries registry kept left (fits container) here there abreast
  rw [readOne, readOther]
  generalize Container.readEntries registry left _ here = first at entries ⊢
  generalize Container.readEntries registry left _ there = second at entries ⊢
  cases entries with
  | answered fits abreast => exact .answered (lift attributes _ _ fits) abreast
  | failed abreast => exact .failed abreast

end Record

theorem entries_isolated [Cargo κ] {registry : Registry κ} {order : ByteOrder} {front one other back : Bytes}
    {name : String} (reaches : Record.Reaches registry order (front ++ order.counted one ++ back) front name)
    (shortOne : one.length < 2 ^ 32) (shortOther : other.length < 2 ^ 32) {blank : Payload κ}
    (made : registry.create name = .ok blank)
    (takesOne : (blank.read (.ofBytes order one)).outcome = .ok ())
    (takesOther : (blank.read (.ofBytes order other)).outcome = .ok ()) (ledger : Ledger) :
    let first := (Record.deserialize registry (.ofBytes order (front ++ order.counted one ++ back)) ledger).1
    let second := (Record.deserialize registry (.ofBytes order (front ++ order.counted other ++ back)) ledger).1
    ((∃ record, first.1 = .ok record) ↔ ∃ record, second.1 = .ok record) ∧
    (∀ record changed, first.1 = .ok record → second.1 = .ok changed → record.SameBut name changed) ∧
    (∀ e, first.1 = .error e ↔ second.1 = .error e) ∧
    second.2.unread = first.2.unread ∧ second.2.remaining = first.2.remaining ∧
    (blank.kind = .reference → second.1 = first.1) := by
  simp only [Record.deserialize]
  have beside : Agree (Record.SameBut name)
      (Record.read registry (.start (.ofBytes order (front ++ order.counted one ++ back))))
      (Record.read registry (.start (.ofBytes order (front ++ order.counted other ++ back)))) :=
    reaches.agree shortOne shortOther made takesOne takesOther (Container.kept_sameBut name)
      (fun container => container.sameBut_add name _ _)
      (fun _ _ _ same => ⟨rfl, rfl, same.names, same.others⟩)
  have equal : blank.kind = .reference → Agree Eq
      (Record.read registry (.start (.ofBytes order (front ++ order.counted one ++ back))))
      (Record.read registry (.start (.ofBytes order (front ++ order.counted other ++ back)))) := by
    intro reference
    cases blank with
    | own content => cases reference
    | reference held =>
      exact reaches.agree shortOne shortOther made takesOne takesOther (fun same _ _ => by rw [same])
        (fun _ => rfl) (fun _ _ _ same => by rw [same])
  generalize Record.read registry (.start (.ofBytes order (front ++ order.counted one ++ back))) = first
    at beside equal ⊢
  generalize Record.read registry (.start (.ofBytes order (front ++ order.counted other ++ back))) = second
    at beside equal ⊢
  cases beside with
  | @answered record changed here there fits abreast =>
    have unread : here.buffer.unread = there.buffer.unread := abreast.2
    refine ⟨⟨fun _ => ⟨_, rfl⟩, fun _ => ⟨_, rfl⟩⟩, ?_, fun e => ⟨nofun, nofun⟩, unread.symm, ?_, ?_⟩
    · rintro _ _ ⟨⟩ ⟨⟩
      exact fits
    · exact congrArg List.length unread.symm
    · intro reference
      cases equal reference with
      | answered same _ => rw [same]
  | @failed e here there abreast =>
    have unread : here.buffer.unread = there.buffer.unread := abreast.2
    refine ⟨⟨nofun, nofun⟩, fun _ _ => nofun, fun _ => Iff.rfl, unread.symm, ?_, fun _ => rfl⟩
    exact congrArg List.length unread.symm

-- A pair alone, and a longer one with bytes behind it, each before the same entry for a reference.
def Record.beforePair : Bytes :=
  [0, 0, 0, 0, 0, 0, 0, 9, 0, 0, 0, 2] ++ ByteOrder.network.counted (Utf8.encode "pair")

def Record.behindPair : Bytes :=
  ByteOrder.network.counted (Utf8.encode slotName) ++ ByteOrder.network.counted [1] ++ [3]

theorem isolated_of_pairs :
    Record.Reaches .ofPairs .network
      (Record.beforePair ++ ByteOrder.network.counted [0, 0, 0, 0, 0, 0, 0, 5] ++ Record.behindPair)
      Record.beforePair "pair" ∧
    Registry.ofPairs.create "pair" = .ok (.fields [.bytes [], .number 0]) ∧
    (Payload.read (.ofBytes .network [0, 0, 0, 0, 0, 0, 0, 5]) (.fields [.bytes [], .number 0])).outcome = .ok () ∧
    (Payload.read (.ofBytes .network [0, 0, 0, 2, 8, 8, 0, 0, 0, 6, 4])
      (.fields [.bytes [], .number 0])).outcome = .ok () ∧
    ∃ changed, (Record.deserialize .ofPairs (.ofBytes .network (Record.beforePair ++
        ByteOrder.network.counted [0, 0, 0, 2, 8, 8, 0, 0, 0, 6, 4] ++ Record.behindPair)) .initial).1.1 = .ok changed ∧
      Record.SameBut "pair" ⟨[], some ⟨[("pair", .fields [.bytes [], .number 5]), (slotName, .reference none)]⟩⟩
        changed := by
  have set : (9 : UInt32) ≠ 0 := by decide
  have reaches : Record.Reaches .ofPairs .network
      (Record.beforePair ++ ByteOrder.network.counted [0, 0, 0, 0, 0, 0, 0, 5] ++ Record.behindPair)
      Record.beforePair "pair" :=
    ⟨[], 1, .empty, _, _, @Record.Reached.announced _ _ _ _ [] 9 2 _ _ _ rfl rfl set rfl, rfl, rfl⟩
  have made : Registry.ofPairs.create "pair" = .ok (.fields [.bytes [], .number 0]) := rfl
  obtain ⟨succeeds, beside, -⟩ := entries_isolated reaches (by decide) (by decide) made rfl
    (show (Payload.read (.ofBytes .network [0, 0, 0, 2, 8, 8, 0, 0, 0, 6, 4]) _).outcome = .ok () from rfl) .initial
  obtain ⟨changed, other⟩ := succeeds.mp ⟨_, rfl⟩
  exact ⟨reaches, made, rfl, rfl, changed, other, beside _ _ rfl other⟩

end RecordBridge
