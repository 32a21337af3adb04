import RecordBridge.Proofs.Record.Reading

namespace RecordBridge

variable {κ σ α β : Type}

namespace ByteOrder

theorem arrange_arrange (order : ByteOrder) (bytes : Bytes) : order.arrange (order.arrange bytes) = bytes := by
  cases order with
  | native => exact List.reverse_reverse bytes
  | network => rfl

theorem length_arrange (order : ByteOrder) (bytes : Bytes) : (order.arrange bytes).length = bytes.length := by
  cases order with
  | native => exact List.length_reverse
  | network => rfl

theorem ofNat_byte {n : Nat} {b : UInt8} (same : n % 256 = b.toNat) : UInt8.ofNat n = b := by
  apply UInt8.toNat_inj.mp
  rw [UInt8.toNat_ofNat', same]

-- Four bytes are the only form of their number.
theorem encode_decode (order : ByteOrder) {bytes : Bytes} (four : bytes.length = 4) :
    order.encode (order.decode bytes) = bytes := by
  have arranged := order.arrange_arrange bytes
  have same := order.length_arrange bytes
  unfold encode decode
  generalize order.arrange bytes = digits at arranged same ⊢
  rw [four] at same
  match digits, same with
  | [a, b, c, d], _ =>
    have first := a.toNat_lt
    have second := b.toNat_lt
    have third := c.toNat_lt
    have fourth := d.toNat_lt
    simp only [List.foldl_cons, List.foldl_nil, UInt32.toNat_ofNat']
    rw [← arranged]
    congr 2
    · exact ofNat_byte (by omega)
    congr 1
    · exact ofNat_byte (by omega)
    congr 1
    · exact ofNat_byte (by omega)
    congr 1
    · exact ofNat_byte (by omega)

end ByteOrder

namespace Reader

section Accepts

variable [Buffered σ] {order : ByteOrder}

def Accepts (step : Reader σ α) (order : ByteOrder) (form : Bytes → α → Prop) : Prop :=
  ∀ (state : σ) (consumed unread : Bytes), Buffered.buffer state = ⟨order, consumed, unread⟩ →
    ∀ a, (step state).1 = .ok a → ∃ wire tail, form wire a ∧ unread = wire ++ tail ∧
      Buffered.buffer (step state).2 = ⟨order, wire.reverse ++ consumed, tail⟩

theorem Accepts.bind {first : Reader σ α} {next : α → Reader σ β} {form : Bytes → α → Prop}
    {later : α → Bytes → β → Prop} {whole : Bytes → β → Prop} (one : first.Accepts order form)
    (two : ∀ a, (next a).Accepts order (later a))
    (both : ∀ a b front back, form front a → later a back b → whole (front ++ back) b) :
    (first >>= next).Accepts order whole := by
  intro state consumed unread same b answered
  change (Reader.bind first next state).1 = .ok b at answered
  change ∃ wire tail, whole wire b ∧ unread = wire ++ tail ∧
    Buffered.buffer (Reader.bind first next state).2 = ⟨order, wire.reverse ++ consumed, tail⟩
  have head := one state consumed unread same
  unfold Reader.bind at answered ⊢
  rcases ran : first state with ⟨e | a, middle⟩
  · simp only [ran] at answered
    cases answered
  · simp only [ran] at answered head ⊢
    obtain ⟨front, rest, taken, split, after⟩ := head a rfl
    obtain ⟨back, tail, more, cut, done⟩ := two a middle _ rest after b answered
    refine ⟨front ++ back, tail, both a b front back taken more, ?_, ?_⟩
    · rw [split, cut, List.append_assoc]
    · rw [done, List.reverse_append, List.append_assoc]

theorem accepts_pure (a : α) :
    (Pure.pure a : Reader σ α).Accepts order fun wire answer => wire = [] ∧ answer = a := by
  intro state consumed unread same answer answered
  cases answered
  exact ⟨[], unread, ⟨rfl, rfl⟩, rfl, same⟩

-- A step that gives no answer takes nothing for one.
theorem accepts_fail (e : HostError) (form : Bytes → α → Prop) :
    (Reader.fail e : Reader σ α).Accepts order form := by
  intro state consumed unread same answer answered
  cases answered

theorem Accepts.map {step : Reader σ α} {form : Bytes → α → Prop} {whole : Bytes → β → Prop}
    (one : step.Accepts order form) (change : α → β)
    (both : ∀ a wire, form wire a → whole wire (change a)) :
    (step >>= fun a => Pure.pure (change a)).Accepts order whole := by
  refine one.bind (fun a => accepts_pure (change a)) ?_
  rintro a b front back taken ⟨rfl, rfl⟩
  rw [List.append_nil]
  exact both a front taken

theorem Accepts.onBuffer {step : Reader Buffer α} {form : Bytes → α → Prop}
    (accepts : step.Accepts order form) :
    (Decoding.onBuffer step : Reader (Decoding κ) α).Accepts order form :=
  fun state consumed unread same => accepts state.buffer consumed unread same

end Accepts

end Reader

namespace Buffer

open Reader

variable (order : ByteOrder)

theorem accepts_take (count : Nat) :
    (take count).Accepts order fun wire data => wire = data ∧ data.length = count := by
  rintro state consumed unread rfl data answered
  rcases Nat.lt_or_ge unread.length count with short | there
  · rw [take_short short] at answered
    cases answered
  · rw [take_enough there] at answered ⊢
    cases answered
    exact ⟨_, _, ⟨rfl, List.length_take_of_le there⟩, (List.take_append_drop count unread).symm, rfl⟩

theorem accepts_getU32 : getU32.Accepts order fun wire n => wire = order.encode n := by
  rintro state consumed unread rfl n answered
  have taken := accepts_take order 4 ⟨order, consumed, unread⟩ consumed unread rfl
  change ∃ wire tail, _ ∧ _ ∧ (getU32 ⟨order, consumed, unread⟩).2 = _
  unfold getU32 at answered ⊢
  rcases ran : take 4 ⟨order, consumed, unread⟩ with ⟨e | data, rest⟩
  · rw [ran] at answered
    cases answered
  · simp only [ran] at answered taken ⊢
    obtain ⟨wire, tail, ⟨rfl, four⟩, split, after⟩ := taken data rfl
    cases answered
    exact ⟨wire, tail, (order.encode_decode four).symm, split, after⟩

theorem accepts_getBytes : getBytes.Accepts order fun wire data =>
    data.length < 2 ^ 32 ∧ wire = order.counted data := by
  refine (accepts_getU32 order).bind (fun length => accepts_take order length.toNat) ?_
  rintro length data front back rfl ⟨rfl, same⟩
  have counted : UInt32.ofNat back.length = length := by rw [same, UInt32.ofNat_toNat]
  refine ⟨?_, ?_⟩
  · rw [same]
    exact length.toNat_lt
  · rw [ByteOrder.counted, counted]

theorem accepts_getString : getString.Accepts order fun wire text =>
    (Utf8.encode text).length < 2 ^ 32 ∧ wire = order.counted (Utf8.encode text) := by
  let decoded : Bytes → Bytes → String → Prop := fun data wire text => wire = [] ∧ Utf8.encode text = data
  refine @Accepts.bind _ _ _ _ order _ _ _ decoded _ (accepts_getBytes order) ?_ ?_
  · intro data
    cases read : Utf8.text? data with
    | none => exact accepts_fail _ _
    | some text =>
      intro state consumed unread same answer answered
      cases answered
      exact ⟨[], unread, ⟨rfl, Utf8.text?_exact.mp read⟩, rfl, same⟩
  · rintro data text front back ⟨short, rfl⟩ ⟨rfl, rfl⟩
    exact ⟨short, List.append_nil _⟩

end Buffer
end RecordBridge
