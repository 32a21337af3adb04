import RecordBridge.Text.Utf8

namespace RecordBridge.Utf8

theorem toNat_byte {n : Nat} (small : n < 256) : (UInt8.ofNat n).toNat = n := by
  simp [Nat.mod_eq_of_lt small]

-- What the first byte says, with the range of the second one as conditions on the first.
theorem lead_two {b : UInt8} (low : 0xC2 ≤ b.toNat) (high : b.toNat ≤ 0xDF) :
    lead? b = some ⟨[b], 1, 0x80, 0xBF, b.toNat - 0xC0⟩ := by
  simp [lead?, low, high]

theorem lead_three {b : UInt8} (low : 0xE0 ≤ b.toNat) (high : b.toNat ≤ 0xEF) :
    lead? b = some ⟨[b], 2, if b.toNat = 0xE0 then 0xA0 else 0x80,
      if b.toNat = 0xED then 0x9F else 0xBF, b.toNat - 0xE0⟩ := by
  have notTwo : ¬ (0xC2 ≤ b.toNat ∧ b.toNat ≤ 0xDF) := by omega
  unfold lead?
  rw [if_neg notTwo]
  by_cases least : b.toNat = 0xE0
  · simp [least]
  · by_cases surrogate : b.toNat = 0xED
    · simp [surrogate]
    · have range : 0xE1 ≤ b.toNat ∧ b.toNat ≤ 0xEF := by omega
      simp [least, surrogate, range]

theorem lead_four {b : UInt8} (low : 0xF0 ≤ b.toNat) (high : b.toNat ≤ 0xF4) :
    lead? b = some ⟨[b], 3, if b.toNat = 0xF0 then 0x90 else 0x80,
      if b.toNat = 0xF4 then 0x8F else 0xBF, b.toNat - 0xF0⟩ := by
  have notTwo : ¬ (0xC2 ≤ b.toNat ∧ b.toNat ≤ 0xDF) := by omega
  have notThree : ¬ (0xE1 ≤ b.toNat ∧ b.toNat ≤ 0xEF) := by omega
  have notLeast : b.toNat ≠ 0xE0 := by omega
  have notSurrogate : b.toNat ≠ 0xED := by omega
  unfold lead?
  rw [if_neg notTwo, if_neg notLeast, if_neg notSurrogate, if_neg notThree]
  by_cases least : b.toNat = 0xF0
  · simp [least]
  · by_cases greatest : b.toNat = 0xF4
    · simp [greatest]
    · have range : 0xF1 ≤ b.toNat ∧ b.toNat ≤ 0xF3 := by omega
      simp [least, greatest, range]

-- Scanning goes on inside the sequence that a first byte opens, and closes it with its last byte.
theorem scan_lead {b : UInt8} {sequence : Open} (high : 0x80 ≤ b.toNat)
    (found : lead? b = some sequence) (rest : Bytes) :
    scan (b :: rest) = scanFrom (.inside sequence) rest := by
  simp [scan, scanFrom, step, start, found, Nat.not_lt.mpr high]

theorem scan_more {part : Bytes} {owed low high bits : Nat} {b : UInt8} (above : low ≤ b.toNat)
    (below : b.toNat ≤ high) (rest : Bytes) :
    scanFrom (.inside ⟨part, owed + 2, low, high, bits⟩) (b :: rest) =
      scanFrom (.inside ⟨part ++ [b], owed + 1, 0x80, 0xBF, bits * 64 + (b.toNat - 0x80)⟩) rest := by
  have owing : ¬ owed + 2 ≤ 1 := by omega
  rw [scanFrom, step, if_pos ⟨above, below⟩, if_neg owing]
  rfl

theorem scan_last {part : Bytes} {low high bits : Nat} {b : UInt8} (above : low ≤ b.toNat)
    (below : b.toNat ≤ high) (rest : Bytes) :
    scanFrom (.inside ⟨part, 1, low, high, bits⟩) (b :: rest) =
      .char (Char.ofNat (bits * 64 + (b.toNat - 0x80))) :: scan rest := by
  rw [scanFrom, step, if_pos ⟨above, below⟩, if_pos (Nat.le_refl 1)]
  rfl

theorem scan_ascii {b : UInt8} (ascii : b.toNat < 0x80) (rest : Bytes) :
    scan (b :: rest) = .char (Char.ofNat b.toNat) :: scan rest := by
  simp [scan, scanFrom, step, start, ascii]

theorem scalar_range (c : Char) : c.toNat < 0xD800 ∨ 0xDFFF < c.toNat ∧ c.toNat < 0x110000 := c.valid

theorem scan_encodeChar (c : Char) (rest : Bytes) :
    scan (encodeChar c ++ rest) = .char c :: scan rest := by
  have valid := scalar_range c
  have back : Char.ofNat c.toNat = c := Char.ofNat_toNat c
  simp only [encodeChar]
  generalize c.toNat = n at valid back
  have trail : (UInt8.ofNat (0x80 + n % 64)).toNat = 0x80 + n % 64 := toNat_byte (by omega)
  have middle : (UInt8.ofNat (0x80 + n / 64 % 64)).toNat = 0x80 + n / 64 % 64 := toNat_byte (by omega)
  split
  · have one : (UInt8.ofNat n).toNat = n := toNat_byte (by omega)
    rw [List.singleton_append, scan_ascii (by omega), one, back]
  split
  · have lead : (UInt8.ofNat (0xC0 + n / 64)).toNat = 0xC0 + n / 64 := toNat_byte (by omega)
    have same : (0xC0 + n / 64 - 0xC0) * 64 + (0x80 + n % 64 - 0x80) = n := by omega
    simp only [List.cons_append, List.nil_append]
    rw [scan_lead (by omega) (lead_two (by omega) (by omega)), scan_last (by omega) (by omega),
      lead, trail, same, back]
  split
  · have lead : (UInt8.ofNat (0xE0 + n / 4096)).toNat = 0xE0 + n / 4096 := toNat_byte (by omega)
    have same : ((0xE0 + n / 4096 - 0xE0) * 64 + (0x80 + n / 64 % 64 - 0x80)) * 64 +
        (0x80 + n % 64 - 0x80) = n := by omega
    simp only [List.cons_append, List.nil_append]
    rw [scan_lead (by omega) (lead_three (by omega) (by omega)),
      scan_more (by split <;> omega) (by split <;> omega), scan_last (by omega) (by omega),
      lead, middle, trail, same, back]
  · have lead : (UInt8.ofNat (0xF0 + n / 262144)).toNat = 0xF0 + n / 262144 := toNat_byte (by omega)
    have second : (UInt8.ofNat (0x80 + n / 4096 % 64)).toNat = 0x80 + n / 4096 % 64 :=
      toNat_byte (by omega)
    have same : (((0xF0 + n / 262144 - 0xF0) * 64 + (0x80 + n / 4096 % 64 - 0x80)) * 64 +
        (0x80 + n / 64 % 64 - 0x80)) * 64 + (0x80 + n % 64 - 0x80) = n := by omega
    simp only [List.cons_append, List.nil_append]
    rw [scan_lead (by omega) (lead_four (by omega) (by omega)),
      scan_more (by split <;> omega) (by split <;> omega), scan_more (by omega) (by omega),
      scan_last (by omega) (by omega), lead, second, middle, trail, same, back]

theorem scan_encodeChars (cs : List Char) : scan (encodeChars cs) = cs.map .char := by
  induction cs with
  | nil => rfl
  | cons c rest ih =>
    have head := scan_encodeChar c (encodeChars rest)
    simp only [encodeChars] at head ih
    simp only [encodeChars, List.flatMap_cons, head, ih, List.map_cons]

theorem charsFrom_map (offset : Nat) (cs : List Char) : charsFrom offset (cs.map .char) = .ok cs := by
  induction cs generalizing offset with
  | nil => rfl
  | cons c rest ih => simp [charsFrom, ih, Except.map]

theorem chars_encodeChars (cs : List Char) : chars (encodeChars cs) = .ok cs := by
  rw [chars, scan_encodeChars, charsFrom_map]

theorem text?_encode (text : String) : text? (encode text) = some text := by
  simp [text?, encode, chars_encodeChars, Except.toOption]

-- The bytes that a piece was made of.
def Piece.bytes : Piece → Bytes
  | .char c => encodeChar c
  | .illFormed _ part => part

-- The bytes that were read and are in no piece yet.
def State.part : State → Bytes
  | .between => []
  | .inside sequence => sequence.part

-- Whatever bytes of the right ranges come next, they close the open character as its own encoding.
def Open.Closes : Nat → Open → Prop
  | 0, sequence => ∀ b : UInt8, sequence.low ≤ b.toNat → b.toNat ≤ sequence.high →
      encodeChar (Char.ofNat (sequence.bitsWith b)) = sequence.part ++ [b]
  | more + 1, sequence => ∀ b : UInt8, sequence.low ≤ b.toNat → b.toNat ≤ sequence.high →
      Closes more ⟨sequence.part ++ [b], sequence.owed - 1, 0x80, 0xBF, sequence.bitsWith b⟩

def State.Sound : State → Prop
  | .between => True
  | .inside sequence => sequence.Closes (sequence.owed - 1)

theorem byte_exact {n : Nat} {b : UInt8} (same : n = b.toNat) : UInt8.ofNat n = b := by
  rw [same, UInt8.ofNat_toNat]

theorem toNat_scalar {n : Nat} (valid : n < 0xD800 ∨ 0xDFFF < n ∧ n < 0x110000) :
    (Char.ofNat n).toNat = n := by
  have checked : n.isValidChar := valid
  rw [Char.ofNat, dif_pos checked]
  rfl

theorem encode_one {b : UInt8} (ascii : b.toNat < 0x80) : encodeChar (Char.ofNat b.toNat) = [b] := by
  rw [encodeChar, toNat_scalar (by omega)]
  simp only [ascii, if_true, UInt8.ofNat_toNat]

theorem closes_two {b : UInt8} (low : 0xC2 ≤ b.toNat) (high : b.toNat ≤ 0xDF) :
    Open.Closes 0 ⟨[b], 1, 0x80, 0xBF, b.toNat - 0xC0⟩ := by
  intro c above below
  dsimp only [Open.bitsWith] at above below ⊢
  generalize code : (b.toNat - 0xC0) * 64 + (c.toNat - 0x80) = n
  have first : UInt8.ofNat (0xC0 + n / 64) = b := byte_exact (by omega)
  have second : UInt8.ofNat (0x80 + n % 64) = c := byte_exact (by omega)
  rw [encodeChar, toNat_scalar (by omega), if_neg (by omega), if_pos (by omega), first, second]
  rfl

theorem closes_three {b : UInt8} (low : 0xE0 ≤ b.toNat) (high : b.toNat ≤ 0xEF) :
    Open.Closes 1 ⟨[b], 2, if b.toNat = 0xE0 then 0xA0 else 0x80,
      if b.toNat = 0xED then 0x9F else 0xBF, b.toNat - 0xE0⟩ := by
  intro c above below d least most
  dsimp only [Open.bitsWith] at above below least most ⊢
  have range : 0x80 ≤ c.toNat ∧ c.toNat ≤ 0xBF ∧ (b.toNat = 0xE0 → 0xA0 ≤ c.toNat) ∧
      (b.toNat = 0xED → c.toNat ≤ 0x9F) := by
    split at above <;> split at below <;> omega
  clear above below
  generalize code : ((b.toNat - 0xE0) * 64 + (c.toNat - 0x80)) * 64 + (d.toNat - 0x80) = n
  have first : UInt8.ofNat (0xE0 + n / 4096) = b := byte_exact (by omega)
  have second : UInt8.ofNat (0x80 + n / 64 % 64) = c := byte_exact (by omega)
  have third : UInt8.ofNat (0x80 + n % 64) = d := byte_exact (by omega)
  rw [encodeChar, toNat_scalar (by omega), if_neg (by omega), if_neg (by omega), if_pos (by omega), first, second, third]
  rfl

theorem closes_four {b : UInt8} (low : 0xF0 ≤ b.toNat) (high : b.toNat ≤ 0xF4) :
    Open.Closes 2 ⟨[b], 3, if b.toNat = 0xF0 then 0x90 else 0x80,
      if b.toNat = 0xF4 then 0x8F else 0xBF, b.toNat - 0xF0⟩ := by
  intro c above below d least most e atLeast atMost
  dsimp only [Open.bitsWith] at above below least most atLeast atMost ⊢
  have range : 0x80 ≤ c.toNat ∧ c.toNat ≤ 0xBF ∧ (b.toNat = 0xF0 → 0x90 ≤ c.toNat) ∧
      (b.toNat = 0xF4 → c.toNat ≤ 0x8F) := by
    split at above <;> split at below <;> omega
  clear above below
  generalize code : (((b.toNat - 0xF0) * 64 + (c.toNat - 0x80)) * 64 + (d.toNat - 0x80)) * 64 +
    (e.toNat - 0x80) = n
  have first : UInt8.ofNat (0xF0 + n / 262144) = b := byte_exact (by omega)
  have second : UInt8.ofNat (0x80 + n / 4096 % 64) = c := byte_exact (by omega)
  have third : UInt8.ofNat (0x80 + n / 64 % 64) = d := byte_exact (by omega)
  have fourth : UInt8.ofNat (0x80 + n % 64) = e := byte_exact (by omega)
  rw [encodeChar, toNat_scalar (by omega), if_neg (by omega), if_neg (by omega), if_neg (by omega), first, second, third, fourth]
  rfl

-- A byte that opens a character leaves a sound state, and one that opens none is a piece of its own.
theorem start_sound (b : UInt8) : (start b).2.Sound ∧
    (start b).1.flatMap Piece.bytes ++ (start b).2.part = [b] := by
  unfold start
  split
  · rename_i ascii
    exact ⟨trivial, by simp [Piece.bytes, State.part, encode_one ascii]⟩
  · by_cases two : 0xC2 ≤ b.toNat ∧ b.toNat ≤ 0xDF
    · rw [lead_two two.1 two.2]
      exact ⟨closes_two two.1 two.2, rfl⟩
    by_cases three : 0xE0 ≤ b.toNat ∧ b.toNat ≤ 0xEF
    · rw [lead_three three.1 three.2]
      exact ⟨closes_three three.1 three.2, rfl⟩
    by_cases four : 0xF0 ≤ b.toNat ∧ b.toNat ≤ 0xF4
    · rw [lead_four four.1 four.2]
      exact ⟨closes_four four.1 four.2, rfl⟩
    · have nothing : lead? b = none := by
        unfold lead?
        simp only
        repeat rw [if_neg (by omega)]
      rw [nothing]
      exact ⟨trivial, rfl⟩

theorem step_sound {state : State} (sound : state.Sound) (b : UInt8) : (step state b).2.Sound ∧
    (step state b).1.flatMap Piece.bytes ++ (step state b).2.part = state.part ++ [b] := by
  cases state with
  | between => exact start_sound b
  | inside sequence =>
    have started := start_sound b
    rw [step]
    by_cases range : sequence.low ≤ b.toNat ∧ b.toNat ≤ sequence.high
    · rw [if_pos range]
      by_cases last : sequence.owed ≤ 1
      · have nothing : sequence.owed - 1 = 0 := by omega
        rw [State.Sound, nothing] at sound
        rw [if_pos last]
        refine ⟨trivial, ?_⟩
        simpa [Piece.bytes, State.part] using sound b range.1 range.2
      · obtain ⟨later, owing⟩ : ∃ later, sequence.owed - 1 = later + 1 := ⟨sequence.owed - 2, by omega⟩
        rw [State.Sound, owing] at sound
        rw [if_neg last]
        have closes := sound b range.1 range.2
        rw [owing] at closes ⊢
        exact ⟨closes, rfl⟩
    · rw [if_neg range]
      refine ⟨started.1, ?_⟩
      rw [List.flatMap_cons, List.append_assoc, started.2]
      rfl

-- Scanning loses no byte.
theorem scanFrom_bytes (bytes : Bytes) {state : State} (sound : state.Sound) :
    (scanFrom state bytes).flatMap Piece.bytes = state.part ++ bytes := by
  induction bytes generalizing state with
  | nil => cases state <;> simp [scanFrom, finish, State.part, Piece.bytes]
  | cons b rest ih =>
    obtain ⟨next, kept⟩ := step_sound sound b
    rw [scanFrom, List.flatMap_append, ih next, ← List.append_assoc, kept, List.append_assoc]
    rfl

theorem pieces_of_charsFrom {offset : Nat} {pieces : List Piece} {cs : List Char}
    (read : charsFrom offset pieces = .ok cs) : pieces = cs.map .char := by
  induction pieces generalizing offset cs with
  | nil =>
    cases read
    rfl
  | cons piece rest ih =>
    cases piece with
    | char c =>
      cases later : charsFrom (offset + (encodeChar c).length) rest with
      | error malformed => simp [charsFrom, later, Except.map] at read
      | ok others =>
        simp only [charsFrom, later, Except.map, Except.ok.injEq] at read
        rw [← read, ih later, List.map_cons]
    | illFormed fault part => simp [charsFrom] at read

theorem encode_chars {bytes : Bytes} {cs : List Char} (read : chars bytes = .ok cs) :
    encodeChars cs = bytes := by
  have kept : (scanFrom .between bytes).flatMap Piece.bytes = bytes := scanFrom_bytes bytes trivial
  have pieces : scanFrom .between bytes = cs.map .char := pieces_of_charsFrom read
  rw [pieces, List.flatMap_map] at kept
  exact kept

-- Text is read from its encoding and from nothing else.
theorem text?_exact {bytes : Bytes} {text : String} : text? bytes = some text ↔ encode text = bytes := by
  constructor
  · intro read
    unfold text? at read
    cases decoded : chars bytes with
    | error malformed => simp [decoded, Except.toOption] at read
    | ok cs =>
      simp only [decoded, Except.toOption, Option.map_some, Option.some.injEq] at read
      rw [← read, encode, String.toList_ofList]
      exact encode_chars decoded
  · rintro rfl
    exact text?_encode text

end RecordBridge.Utf8
