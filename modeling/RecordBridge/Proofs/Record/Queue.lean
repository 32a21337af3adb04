import Mathlib.Algebra.GroupWithZero.Nat
import RecordBridge.Proofs.Record.Cursor

namespace RecordBridge

-- What is put into a buffer as a whole, and read as one.
inductive Datum where
  | number (n : UInt32)
  | bytes (data : Bytes)
  | text (text : String)
  deriving DecidableEq

namespace Datum

inductive Kind where
  | number
  | bytes
  | text
  deriving DecidableEq

def kind : Datum → Kind
  | .number _ => .number
  | .bytes _ => .bytes
  | .text _ => .text

def put (buffer : Buffer) : Datum → Buffer
  | .number n => buffer.putU32 n
  | .bytes data => buffer.putBytes data
  | .text content => buffer.putString content

def Kind.get : Kind → Reader Buffer Datum
  | .number => do return .number (← Buffer.getU32)
  | .bytes => do return .bytes (← Buffer.getBytes)
  | .text => do return .text (← Buffer.getString)

def putOn (tape : Tape) : Datum → Tape
  | .number n => tape.putU32 n
  | .bytes data => tape.putBytes data
  | .text content => tape.putString content

def Kind.read : Kind → Tape.Read Datum
  | .number => do return .number (← Tape.getU32)
  | .bytes => do return .bytes (← Tape.getBytes)
  | .text => do return .text (← Tape.getString)

def wire (order : ByteOrder) : Datum → Bytes
  | .number n => order.encode n
  | .bytes data => order.counted data
  | .text content => order.counted (Utf8.encode content)

def size : Datum → Nat
  | .number _ => 4
  | .bytes data => 4 + data.length
  | .text content => 4 + (Utf8.encode content).length

-- Its length can be told.
def Short : Datum → Prop
  | .number _ => True
  | .bytes data => data.length < 2 ^ 32
  | .text content => (Utf8.encode content).length < 2 ^ 32

theorem put_exact (buffer : Buffer) (datum : Datum) : datum.put buffer = buffer.append (datum.wire buffer.order) := by
  cases datum with
  | number n => exact buffer.putU32_exact n
  | bytes data => exact buffer.putBytes_exact data
  | text content => exact buffer.putString_exact content

theorem length_wire (order : ByteOrder) (datum : Datum) : (datum.wire order).length = datum.size := by
  cases datum with
  | number n => exact order.length_encode n
  | bytes data => rw [wire, ByteOrder.counted, List.length_append, order.length_encode, size]
  | text content => rw [wire, ByteOrder.counted, List.length_append, order.length_encode, size]

theorem reads_get (order : ByteOrder) {datum : Datum} (short : datum.Short) :
    datum.kind.get.Reads order (datum.wire order) datum := by
  cases datum with
  | number n => exact (Buffer.reads_getU32 order n).map Datum.number
  | bytes data => exact (Buffer.reads_getBytes order short).map Datum.bytes
  | text content => exact (Buffer.reads_getString order short).map Datum.text

-- A datum at the front of the unread bytes is what is read there.
theorem get_front {datum : Datum} (short : datum.Short) {buffer : Buffer} {order : ByteOrder} {tail : Bytes}
    (same : buffer.order = order) (front : buffer.unread = datum.wire order ++ tail) :
    (datum.kind.get buffer).1 = .ok datum ∧ (datum.kind.get buffer).2.unread = tail := by
  subst same
  obtain ⟨answer, left⟩ := reads_get buffer.order short buffer buffer.consumed tail (front ▸ rfl)
  exact ⟨answer, congrArg Buffer.unread left⟩

theorem put_tape (datum : Datum) (buffer : Buffer) : (datum.put buffer).tape = datum.putOn buffer.tape := by
  cases datum with
  | number n => exact buffer.tape_append _
  | bytes data => exact buffer.tape_putBytes data
  | text content => exact buffer.tape_putBytes _

theorem Kind.read_follows (kind : Kind) : kind.read.Follows kind.get := by
  cases kind with
  | number => exact Tape.getU32_follows.bind fun n => .pure (Datum.number n)
  | bytes => exact Tape.getBytes_follows.bind fun data => .pure (Datum.bytes data)
  | text => exact Tape.getString_follows.bind fun content => .pure (Datum.text content)

end Datum

namespace ByteOrder

theorem encode_front (order : ByteOrder) {unread : Bytes} (enough : 4 ≤ unread.length) :
    ∃ n tail, unread = order.encode n ++ tail := by
  refine ⟨order.decode (unread.take 4), unread.drop 4, ?_⟩
  rw [order.encode_decode (List.length_take_of_le enough), List.take_append_drop]

-- What the front of some bytes can be, to someone who expects a length and that many bytes.
theorem counted_front (order : ByteOrder) (unread : Bytes) : unread.length < 4 ∨
    (∃ (n : UInt32) (tail : Bytes), unread = order.encode n ++ tail ∧ tail.length < n.toNat) ∨
    ∃ data tail, data.length < 2 ^ 32 ∧ unread = order.counted data ++ tail := by
  rcases Nat.lt_or_ge unread.length 4 with few | enough
  · exact .inl few
  · obtain ⟨n, rest, rfl⟩ := order.encode_front enough
    rcases Nat.lt_or_ge rest.length n.toNat with fewer | there
    · exact .inr (.inl ⟨n, rest, rfl, fewer⟩)
    · have length : (rest.take n.toNat).length = n.toNat := List.length_take_of_le there
      refine .inr (.inr ⟨rest.take n.toNat, rest.drop n.toNat, ?_, ?_⟩)
      · rw [length]
        exact n.toNat_lt
      · rw [counted, length, UInt32.ofNat_toNat, List.append_assoc, List.take_append_drop]

end ByteOrder

namespace Buffer

variable (order : ByteOrder) (consumed : Bytes)

theorem getU32_short {unread : Bytes} (few : unread.length < 4) :
    getU32 ⟨order, consumed, unread⟩ = (.error (.underrun 4 unread.length), ⟨order, consumed, unread⟩) := by
  rw [getU32, take_short few]

theorem getBytes_short {unread : Bytes} (few : unread.length < 4) :
    getBytes ⟨order, consumed, unread⟩ = (.error (.underrun 4 unread.length), ⟨order, consumed, unread⟩) :=
  Reader.bind_failed (getU32_short order consumed few) _

theorem getBytes_cut (n : UInt32) {tail : Bytes} (few : tail.length < n.toNat) :
    getBytes ⟨order, consumed, order.encode n ++ tail⟩ = (.error (.underrun n.toNat tail.length),
      ⟨order, (order.encode n).reverse ++ consumed, tail⟩) :=
  (Reader.bind_answered ((reads_getU32 order n).exact consumed tail) _).trans (take_short few order _)

theorem getString_failed {buffer after : Buffer} {e : HostError} (failed : getBytes buffer = (.error e, after)) :
    getString buffer = (.error e, after) := Reader.bind_failed failed _

theorem getString_malformed {data : Bytes} (short : data.length < 2 ^ 32) (bad : Utf8.text? data = none)
    (tail : Bytes) : getString ⟨order, consumed, order.counted data ++ tail⟩ =
      (.error .invalidName, ⟨order, (order.counted data).reverse ++ consumed, tail⟩) := by
  refine (Reader.bind_answered ((reads_getBytes order short).exact consumed tail) _).trans ?_
  rw [bad]
  rfl

-- The unread bytes are those behind the cursor.
theorem unread_exact (buffer : Buffer) : buffer.unread = buffer.bytes.drop buffer.cursor := by
  rw [bytes, cursor, ← List.length_reverse, List.drop_left]

-- From one buffer to another that holds the same bytes and has read on by some.
structure Advanced (before after : Buffer) (count : Nat) : Prop where
  order : after.order = before.order
  bytes : after.bytes = before.bytes
  cursor : after.cursor = before.cursor + count

theorem advanced_still (buffer : Buffer) : buffer.Advanced buffer 0 := ⟨rfl, rfl, rfl⟩

theorem advanced_over (wire tail : Bytes) :
    Advanced ⟨order, consumed, wire ++ tail⟩ ⟨order, wire.reverse ++ consumed, tail⟩ wire.length := by
  refine ⟨rfl, ?_, ?_⟩
  · simp [Buffer.bytes]
  · simp [Buffer.cursor, Nat.add_comm]

end Buffer

-- What a read makes of unread bytes: its outcome, and how many bytes it consumes.
inductive Takes (order : ByteOrder) : Bytes → Datum.Kind → Except HostError Datum → Nat → Prop where
  | answered (datum : Datum) (tail : Bytes) (short : datum.Short) :
      Takes order (datum.wire order ++ tail) datum.kind (.ok datum) datum.size
  | underrun {unread : Bytes} (kind : Datum.Kind) (few : unread.length < 4) :
      Takes order unread kind (.error (.underrun 4 unread.length)) 0
  -- The length is consumed, the bytes that it announces are not there.
  | cut (kind : Datum.Kind) (counted : kind ≠ .number) (n : UInt32) {tail : Bytes} (few : tail.length < n.toNat) :
      Takes order (order.encode n ++ tail) kind (.error (.underrun n.toNat tail.length)) 4
  | malformed (data tail : Bytes) (short : data.length < 2 ^ 32) (bad : Utf8.text? data = none) :
      Takes order (order.counted data ++ tail) .text (.error .invalidName) (4 + data.length)

-- What an underrun tells is what is left when the read stops.
theorem Takes.underrun_left {order : ByteOrder} {before after : Buffer} {kind : Datum.Kind}
    {outcome : Except HostError Datum} {count : Nat}
    (takes : Takes order (before.bytes.drop before.cursor) kind outcome count)
    (advanced : before.Advanced after count) {needed left : Nat} (failed : outcome = .error (.underrun needed left)) :
    left < needed ∧ left = after.remaining ∧ (count = 0 ∨ count = 4 ∧ kind ≠ .number) := by
  have early := before.cursor_remaining
  have late := after.cursor_remaining
  rw [advanced.bytes, advanced.cursor] at late
  have unread : (before.bytes.drop before.cursor).length = before.remaining := by
    rw [← before.unread_exact]
    rfl
  generalize before.bytes.drop before.cursor = front at takes unread
  cases takes with
  | answered datum tail short => cases failed
  | underrun kind few =>
    cases failed
    exact ⟨few, by omega, .inl rfl⟩
  | cut kind counted n few =>
    cases failed
    rw [List.length_append, order.length_encode] at unread
    exact ⟨few, by omega, .inr ⟨rfl, counted⟩⟩
  | malformed data tail short bad => cases failed

namespace Datum

variable (order : ByteOrder) (consumed : Bytes)

-- A read and the bytes that it consumes.
def Kind.Takes (kind : Kind) (buffer : Buffer) : Prop := ∃ count,
  RecordBridge.Takes buffer.order buffer.unread kind (kind.get buffer).1 count ∧
    buffer.Advanced (kind.get buffer).2 count

theorem takes_datum (datum : Datum) (short : datum.Short) (tail : Bytes) :
    datum.kind.Takes ⟨order, consumed, datum.wire order ++ tail⟩ := by
  rw [Kind.Takes, (reads_get order short).exact consumed tail]
  refine ⟨datum.size, .answered datum tail short, ?_⟩
  rw [← datum.length_wire order]
  exact Buffer.advanced_over order consumed _ tail

theorem takes_short (kind : Kind) {unread : Bytes} (few : unread.length < 4) :
    kind.Takes ⟨order, consumed, unread⟩ := by
  have failed : kind.get ⟨order, consumed, unread⟩ =
      (.error (.underrun 4 unread.length), ⟨order, consumed, unread⟩) := by
    cases kind with
    | number => exact Reader.bind_failed (Buffer.getU32_short order consumed few) _
    | bytes => exact Reader.bind_failed (Buffer.getBytes_short order consumed few) _
    | text =>
      exact Reader.bind_failed (Buffer.getString_failed (Buffer.getBytes_short order consumed few)) _
  rw [Kind.Takes, failed]
  exact ⟨0, .underrun kind few, Buffer.advanced_still _⟩

theorem takes_cut (kind : Kind) (counted : kind ≠ .number) (n : UInt32) {tail : Bytes}
    (few : tail.length < n.toNat) : kind.Takes ⟨order, consumed, order.encode n ++ tail⟩ := by
  have failed : kind.get ⟨order, consumed, order.encode n ++ tail⟩ = (.error (.underrun n.toNat tail.length),
      ⟨order, (order.encode n).reverse ++ consumed, tail⟩) := by
    cases kind with
    | number => exact absurd rfl counted
    | bytes => exact Reader.bind_failed (Buffer.getBytes_cut order consumed n few) _
    | text =>
      exact Reader.bind_failed (Buffer.getString_failed (Buffer.getBytes_cut order consumed n few)) _
  rw [Kind.Takes, failed]
  refine ⟨4, .cut kind counted n few, ?_⟩
  rw [← order.length_encode n]
  exact Buffer.advanced_over order consumed _ tail

theorem takes_malformed {data : Bytes} (short : data.length < 2 ^ 32) (bad : Utf8.text? data = none)
    (tail : Bytes) : Kind.text.Takes ⟨order, consumed, order.counted data ++ tail⟩ := by
  have failed : Kind.text.get ⟨order, consumed, order.counted data ++ tail⟩ = (.error .invalidName,
      ⟨order, (order.counted data).reverse ++ consumed, tail⟩) :=
    Reader.bind_failed (Buffer.getString_malformed order consumed short bad tail) _
  rw [Kind.Takes, failed]
  refine ⟨4 + data.length, .malformed data tail short bad, ?_⟩
  have length : (order.counted data).length = 4 + data.length := (bytes data).length_wire order
  rw [← length]
  exact Buffer.advanced_over order consumed _ tail

theorem Kind.get_takes (kind : Kind) (buffer : Buffer) : kind.Takes buffer := by
  obtain ⟨order, consumed, unread⟩ := buffer
  obtain few | ⟨n, tail, rfl, few⟩ | ⟨data, tail, short, rfl⟩ := order.counted_front unread
  · exact takes_short order consumed kind few
  -- A number is read off four bytes, whether they announce too much or not.
  · cases kind with
    | number => exact takes_datum order consumed (.number n) trivial tail
    | bytes => exact takes_cut order consumed .bytes nofun n few
    | text => exact takes_cut order consumed .text nofun n few
  · cases kind with
    | number =>
      rw [ByteOrder.counted, List.append_assoc]
      exact takes_datum order consumed (.number _) trivial (data ++ tail)
    | bytes => exact takes_datum order consumed (.bytes data) short tail
    | text =>
      cases read : Utf8.text? data with
      | some content =>
        obtain rfl := Utf8.text?_exact.mp read
        exact takes_datum order consumed (.text content) short tail
      | none => exact takes_malformed order consumed short read tail

end Datum

-- One use of a buffer.
inductive Access where
  | put (datum : Datum)
  | get (kind : Datum.Kind)

namespace Access

-- What is read, if anything is, and the buffer afterwards.
def perform (buffer : Buffer) : Access → List (Except HostError Datum) × Buffer
  | .put datum => ([], datum.put buffer)
  | .get kind => ([(kind.get buffer).1], (kind.get buffer).2)

def performAll (buffer : Buffer) : List Access → List (Except HostError Datum) × Buffer
  | [] => ([], buffer)
  | access :: rest =>
    let done := access.perform buffer
    let later := performAll done.2 rest
    (done.1 ++ later.1, later.2)

-- The same use of a tape, which has no outcome where that would leave the bytes.
def performOn (tape : Tape) : Access → Option (List (Except HostError Datum) × Tape)
  | .put datum => some ([], datum.putOn tape)
  | .get kind => (kind.read tape).map fun read => ([read.1], read.2)

def performAllOn (tape : Tape) : List Access → Option (List (Except HostError Datum) × Tape)
  | [] => some ([], tape)
  | access :: rest => do
    let done ← access.performOn tape
    let later ← performAllOn done.2 rest
    some (done.1 ++ later.1, later.2)

def written (uses : List Access) : List Datum :=
  uses.filterMap fun access => match access with
    | .put datum => some datum
    | .get _ => none

def asked (uses : List Access) : List Datum.Kind :=
  uses.filterMap fun access => match access with
    | .put _ => none
    | .get kind => some kind

theorem performAll_append (buffer : Buffer) (uses more : List Access) : performAll buffer (uses ++ more) =
    ((performAll buffer uses).1 ++ (performAll (performAll buffer uses).2 more).1,
      (performAll (performAll buffer uses).2 more).2) := by
  induction uses generalizing buffer with
  | nil => rfl
  | cons access rest ih =>
    rw [List.cons_append, performAll, ih]
    exact Prod.ext (List.append_assoc _ _ _).symm rfl

theorem performAll_concat (buffer : Buffer) (uses : List Access) (access : Access) :
    performAll buffer (uses ++ [access]) =
      ((performAll buffer uses).1 ++ (access.perform (performAll buffer uses).2).1,
        (access.perform (performAll buffer uses).2).2) := by
  rw [performAll_append, performAll, performAll, List.append_nil]

end Access

-- Nothing held is changed or lost, and the cursor has not gone back.
structure Buffer.Reaches (before after : Buffer) : Prop where
  order : after.order = before.order
  bytes : before.bytes <+: after.bytes
  cursor : before.cursor ≤ after.cursor

theorem Buffer.Reaches.trans {first second third : Buffer} (one : first.Reaches second)
    (two : second.Reaches third) : first.Reaches third :=
  ⟨two.order.trans one.order, one.bytes.trans two.bytes, Nat.le_trans one.cursor two.cursor⟩

theorem Datum.put_appends (datum : Datum) (buffer : Buffer) : (datum.put buffer).order = buffer.order ∧
    (datum.put buffer).bytes = buffer.bytes ++ datum.wire buffer.order ∧
    (datum.put buffer).cursor = buffer.cursor := by
  rw [datum.put_exact]
  exact ⟨rfl, buffer.bytes_append _, rfl⟩

namespace Access

theorem perform_reaches (access : Access) (buffer : Buffer) : buffer.Reaches (access.perform buffer).2 := by
  cases access with
  | put datum =>
    obtain ⟨order, bytes, cursor⟩ := datum.put_appends buffer
    exact ⟨order, ⟨_, bytes.symm⟩, Nat.le_of_eq cursor.symm⟩
  | get kind =>
    obtain ⟨count, -, order, bytes, cursor⟩ := kind.get_takes buffer
    exact ⟨order, ⟨[], (List.append_nil _).trans bytes.symm⟩, cursor ▸ Nat.le_add_right _ _⟩

theorem performAll_reaches (buffer : Buffer) (uses : List Access) :
    buffer.Reaches (performAll buffer uses).2 := by
  induction uses generalizing buffer with
  | nil => exact ⟨rfl, List.prefix_refl _, Nat.le_refl _⟩
  | cons access rest ih => exact (access.perform_reaches buffer).trans (ih _)

theorem performOn_tape (access : Access) (buffer : Buffer) :
    access.performOn buffer.tape = some ((access.perform buffer).1, (access.perform buffer).2.tape) := by
  cases access with
  | put datum => exact congrArg (fun after => some ([], after)) (datum.put_tape buffer).symm
  | get kind =>
    rw [performOn, kind.read_follows buffer]
    rfl

-- No use of a tape takes its place out of the bytes, nor is any without an outcome while it is within them.
theorem performOn_within (access : Access) {tape : Tape} (within : tape.Within) :
    ∃ answers after, access.performOn tape = some (answers, after) ∧ after.Within := by
  obtain ⟨buffer, rfl⟩ := Tape.within_iff.mp within
  exact ⟨_, _, access.performOn_tape buffer, Buffer.tape_within _⟩

theorem performAllOn_tape (buffer : Buffer) (uses : List Access) :
    performAllOn buffer.tape uses = some ((performAll buffer uses).1, (performAll buffer uses).2.tape) := by
  induction uses generalizing buffer with
  | nil => rfl
  | cons access rest ih =>
    rw [performAllOn, access.performOn_tape buffer]
    change (performAllOn (access.perform buffer).2.tape rest).bind _ = _
    rw [ih]
    rfl

-- Every read asks for the kind of the datum with the same number, which has been written before.
inductive InStep : List Access → Prop where
  | start : InStep []
  | put {uses : List Access} (before : InStep uses) (datum : Datum) : InStep (uses ++ [.put datum])
  | get {uses : List Access} (before : InStep uses) (datum : Datum)
      (turn : (written uses)[(asked uses).length]? = some datum) (short : datum.Short) :
      InStep (uses ++ [.get datum.kind])

-- What was written and is not read yet.
def pending (uses : List Access) : List Datum := (written uses).drop (asked uses).length

theorem InStep.served {uses : List Access} (inStep : InStep uses) (order : ByteOrder) :
    (performAll (.empty order) uses).1 = ((written uses).take (asked uses).length).map .ok ∧
      (asked uses).length ≤ (written uses).length ∧
      (performAll (.empty order) uses).2.unread = (pending uses).flatMap (Datum.wire order) := by
  induction inStep with
  | start => exact ⟨rfl, Nat.le_refl _, rfl⟩
  | @put uses before datum ih =>
    obtain ⟨answers, behind, unread⟩ := ih
    have same := (performAll_reaches (.empty order) uses).order
    have longer : written (uses ++ [.put datum]) = written uses ++ [datum] := by simp [written]
    have level : asked (uses ++ [.put datum]) = asked uses := by simp [asked]
    rw [performAll_concat, pending, longer, level]
    refine ⟨?_, ?_, ?_⟩
    · rw [List.take_append_of_le_length behind, ← answers]
      exact List.append_nil _
    · rw [List.length_append]
      exact Nat.le_add_right_of_le behind
    · rw [List.drop_append_of_le_length behind, List.flatMap_append, List.flatMap_singleton]
      change (datum.put _).unread = _
      rw [datum.put_exact, same]
      exact congrArg (· ++ datum.wire order) unread
  | @get uses before datum turn short ih =>
    obtain ⟨answers, behind, unread⟩ := ih
    have same : _ = order := (performAll_reaches (.empty order) uses).order
    have level : written (uses ++ [.get datum.kind]) = written uses := by simp [written]
    have longer : (asked (uses ++ [.get datum.kind])).length = (asked uses).length + 1 := by simp [asked]
    obtain ⟨within, stands⟩ := List.getElem?_eq_some_iff.mp turn
    have front : pending uses = datum :: (written uses).drop ((asked uses).length + 1) := by
      rw [pending, List.drop_eq_getElem_cons within, stands]
    rw [front, List.flatMap_cons] at unread
    rw [performAll_concat, pending, level, longer]
    obtain ⟨answer, left⟩ := Datum.get_front short same unread
    refine ⟨?_, within, left⟩
    rw [List.take_add_one, turn, answers, List.map_append]
    exact congrArg (_ ++ [·]) answer

end Access

open Access in
theorem buffer_queues (order : ByteOrder) (bytes : Bytes) (uses : List Access) :
    let answers := (performAll (.ofBytes order bytes) uses).1
    let buffer := (performAll (.ofBytes order bytes) uses).2
    (buffer.order = order ∧ buffer.cursor ≤ buffer.bytes.length ∧
      buffer.remaining = buffer.bytes.length - buffer.cursor ∧
      performAllOn (.ofBytes order bytes) uses = some (answers, ⟨order, buffer.bytes, buffer.cursor⟩)) ∧
    (∀ more, performAll (.ofBytes order bytes) (uses ++ more) =
        (answers ++ (performAll buffer more).1, (performAll buffer more).2) ∧
      buffer.Reaches (performAll buffer more).2) ∧
    (∀ datum : Datum, (datum.put buffer).bytes = buffer.bytes ++ datum.wire order ∧
      (datum.put buffer).cursor = buffer.cursor) ∧
    (∀ kind : Datum.Kind, let read := kind.get buffer
      ∃ count, Takes order (buffer.bytes.drop buffer.cursor) kind read.1 count ∧ buffer.Advanced read.2 count ∧
        ∀ needed left, read.1 = .error (.underrun needed left) →
          left < needed ∧ left = read.2.remaining ∧ (count = 0 ∨ count = 4 ∧ kind ≠ .number)) ∧
    (InStep uses →
      (performAll (.empty order) uses).1 = ((written uses).take (asked uses).length).map .ok ∧
      (performAll (.empty order) uses).2.remaining = ((pending uses).map Datum.size).sum) := by
  intro answers buffer
  have reached := performAll_reaches (.ofBytes order bytes) uses
  have same : buffer.order = order := reached.order
  have within := buffer.cursor_remaining
  have follows := performAllOn_tape (.ofBytes order bytes) uses
  refine ⟨⟨same, by omega, by omega, ?_⟩, ?_, ?_, ?_, ?_⟩
  · have stands : buffer.tape = ⟨order, buffer.bytes, buffer.cursor⟩ := by rw [Buffer.tape, same]
    rw [← stands]
    exact follows
  · intro more
    exact ⟨performAll_append _ uses more, performAll_reaches buffer more⟩
  · intro datum
    rw [← same]
    exact (datum.put_appends buffer).2
  · intro kind read
    obtain ⟨count, takes, advanced⟩ := kind.get_takes buffer
    rw [same, buffer.unread_exact] at takes
    refine ⟨count, takes, advanced, fun needed left failed => ?_⟩
    exact takes.underrun_left advanced failed
  · intro inStep
    obtain ⟨answered, -, unread⟩ := inStep.served order
    refine ⟨answered, ?_⟩
    rw [Buffer.remaining, unread, List.length_flatMap]
    exact congrArg List.sum (List.map_congr_left fun datum _ => datum.length_wire order)

namespace Access

-- Two data are written, one is read, a third is written, and the second is read.
def interleaved : List Access :=
  [.put (.number 7), .put (.text "ab"), .get .number, .put (.bytes [1]), .get .text]

theorem interleaved_inStep : InStep interleaved :=
  .get (.put (.get (.put (.put .start (.number 7)) (.text "ab")) (.number 7) rfl trivial) (.bytes [1]))
    (.text "ab") rfl (by decide : (Utf8.encode "ab").length < 2 ^ 32)

end Access

theorem buffer_queues_interleaved : Access.InStep Access.interleaved ∧
    (Access.performAll (.empty .native) Access.interleaved).1 = [.ok (.number 7), .ok (.text "ab")] ∧
    (Access.performAll (.empty .native) Access.interleaved).2.remaining = 5 := by
  obtain ⟨-, -, -, -, served⟩ := buffer_queues .native [] Access.interleaved
  exact ⟨Access.interleaved_inStep, served Access.interleaved_inStep⟩

-- A read is only as good as those before it: four bytes behind a length, read as a number, leave the number
-- that follows out of reach.
theorem number_misread : ¬ ∀ (order : ByteOrder) (uses : List Access) (datum : Datum),
    (∀ written ∈ Access.written uses, written.Short) →
    (Access.written uses)[(Access.asked uses).length]? = some datum →
    (Access.performAll (.empty order) (uses ++ [.get datum.kind])).1[(Access.asked uses).length]? =
      some (.ok datum) := by
  intro always
  have short : ∀ written ∈ [Datum.bytes [0x61, 0x62, 0x63, 0x64], .number 9], written.Short :=
    List.forall_mem_cons.mpr ⟨(by decide : 4 < 2 ^ 32), List.forall_mem_singleton.mpr trivial⟩
  have read := always .network [.put (.bytes [0x61, 0x62, 0x63, 0x64]), .put (.number 9), .get .number]
    (.number 9) short rfl
  have misread : (some (.ok (.number 0x61626364)) : Option (Except HostError Datum)) = some (.ok (.number 9)) :=
    read
  cases misread

end RecordBridge
