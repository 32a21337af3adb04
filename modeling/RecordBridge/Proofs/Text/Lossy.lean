import RecordBridge.Proofs.Text.Utf8

namespace RecordBridge.Utf8

-- The bytes of a character are those that the library gives it.
theorem encodeChar_library (c : Char) : encodeChar c = String.utf8EncodeChar c := by
  have valid := scalar_range c
  have library : String.utf8EncodeChar c =
      if c.toNat ≤ 0x7F then [UInt8.ofNat c.toNat]
      else if c.toNat ≤ 0x7FF then [UInt8.ofNat (c.toNat / 64 % 32 + 0xC0), UInt8.ofNat (c.toNat % 64 + 0x80)]
      else if c.toNat ≤ 0xFFFF then
        [UInt8.ofNat (c.toNat / 4096 % 16 + 0xE0), UInt8.ofNat (c.toNat / 64 % 64 + 0x80),
          UInt8.ofNat (c.toNat % 64 + 0x80)]
      else
        [UInt8.ofNat (c.toNat / 262144 % 8 + 0xF0), UInt8.ofNat (c.toNat / 4096 % 64 + 0x80),
          UInt8.ofNat (c.toNat / 64 % 64 + 0x80), UInt8.ofNat (c.toNat % 64 + 0x80)] := rfl
  rw [library, encodeChar]
  generalize c.toNat = n at valid ⊢
  have trail : ∀ m, 0x80 + m = m + 0x80 := Nat.add_comm 0x80
  have first : n < 0x80 ↔ n ≤ 0x7F := Nat.lt_succ_iff
  have second : n < 0x800 ↔ n ≤ 0x7FF := Nat.lt_succ_iff
  have third : n < 0x10000 ↔ n ≤ 0xFFFF := Nat.lt_succ_iff
  simp only [first, second, third, trail]
  split
  · rfl
  split
  · have lead : 0xC0 + n / 64 = n / 64 % 32 + 0xC0 := by omega
    rw [lead]
  split
  · have lead : 0xE0 + n / 4096 = n / 4096 % 16 + 0xE0 := by omega
    rw [lead]
  · have lead : 0xF0 + n / 262144 = n / 262144 % 8 + 0xF0 := by omega
    rw [lead]

theorem encodeChars_library (cs : List Char) : (encodeChars cs).toByteArray = cs.utf8Encode := by
  have same : encodeChar = String.utf8EncodeChar := funext encodeChar_library
  rw [encodeChars, same]
  rfl

theorem text?_library (bytes : Bytes) : text? bytes = String.fromUTF8? bytes.toByteArray := by
  unfold String.fromUTF8?
  split
  · rename_i valid
    obtain ⟨cs, same⟩ : ∃ cs : List Char, bytes.toByteArray = cs.utf8Encode := by
      cases valid with
      | intro cs same => exact ⟨cs, same⟩
    have encoded : encode (String.ofList cs) = bytes := by
      rw [encode, String.toList_ofList]
      exact List.toByteArray_inj.mp ((encodeChars_library cs).trans same.symm)
    have text : String.ofList cs = String.fromUTF8 bytes.toByteArray valid :=
      String.toByteArray_inj.mp (String.toByteArray_ofList.trans same.symm)
    rw [text?_exact.mpr encoded, text]
  · rename_i invalid
    refine Option.eq_none_iff_forall_ne_some.mpr fun text read => invalid ?_
    rw [← text?_exact.mp read, encode, encodeChars_library]
    exact .intro _ rfl

theorem text?_valid {bytes : Bytes} : bytes.toByteArray.IsValidUTF8 ↔ ∃ text, text? bytes = some text := by
  rw [text?_library, ← Option.isSome_iff_exists, String.fromUTF8?]
  split
  · rename_i valid
    exact ⟨fun _ => rfl, fun _ => valid⟩
  · rename_i invalid
    exact ⟨fun valid => absurd valid invalid, nofun⟩

-- Bytes that some character begins with.
def Begins (part : Bytes) : Prop := ∃ c : Char, part <+: encodeChar c

theorem Begins.shorter {part longer : Bytes} (begins : Begins longer) (shorter : part <+: longer) : Begins part := by
  obtain ⟨c, beginning⟩ := begins
  exact ⟨c, shorter.trans beginning⟩

-- A maximal part of what is not UTF-8: no character stands here, and the part is the longest beginning
-- of one, or a single byte that begins none.
structure Unfit (part rest : Bytes) : Prop where
  unreadable : ∀ c : Char, ¬ encodeChar c <+: part ++ rest
  begun : part ≠ [] ∧ (part.length = 1 ∨ Begins part)
  longest : ∀ longer : Bytes, longer <+: part ++ rest → part.length < longer.length → ¬ Begins longer

-- Reading with every maximal part that is not UTF-8 replaced.
inductive Mended : Bytes → List Char → Prop where
  | nil : Mended [] []
  | kept (c : Char) {rest : Bytes} {cs : List Char} (others : Mended rest cs) :
      Mended (encodeChar c ++ rest) (c :: cs)
  | replaced {part rest : Bytes} {cs : List Char} (unfit : Unfit part rest) (others : Mended rest cs) :
      Mended (part ++ rest) (replacement :: cs)

-- Inside a character: the bytes so far have emitted nothing, and the next one can go on with it exactly
-- if it is in the range.
structure Open.Within (sequence : Open) : Prop where
  sound : sequence.Closes (sequence.owed - 1)
  range : sequence.low ≤ sequence.high ∧ sequence.high < 256
  entered : ∀ rest, scan (sequence.part ++ rest) = scanFrom (.inside sequence) rest

theorem encodeChar_nonempty (c : Char) : encodeChar c ≠ [] := by
  rw [encodeChar_library]
  exact String.utf8EncodeChar_ne_nil

-- A character that begins with these bytes is read as one from them and what is missing.
theorem Begins.scan {part : Bytes} (begins : Begins part) : ∃ c tail, Utf8.scan (part ++ tail) = [.char c] := by
  obtain ⟨c, tail, whole⟩ := begins
  have read := scan_encodeChar c []
  rw [List.append_nil, ← whole] at read
  exact ⟨c, tail, read⟩

theorem lead_range {b : UInt8} {sequence : Open} (found : lead? b = some sequence) :
    sequence.low ≤ sequence.high ∧ sequence.high < 256 := by
  unfold lead? at found
  dsimp only at found
  repeat' split at found
  all_goals cases found
  all_goals exact ⟨by simp, by simp⟩

theorem closes_begins (more : Nat) {sequence : Open} (closes : sequence.Closes more)
    (range : sequence.low ≤ sequence.high ∧ sequence.high < 256) : Begins sequence.part := by
  induction more generalizing sequence with
  | zero =>
    have least : (UInt8.ofNat sequence.low).toNat = sequence.low := toNat_byte (by omega)
    have whole := closes (UInt8.ofNat sequence.low) (by omega) (by omega)
    exact ⟨_, _, whole.symm⟩
  | succ more ih =>
    have least : (UInt8.ofNat sequence.low).toNat = sequence.low := toNat_byte (by omega)
    have next := closes (UInt8.ofNat sequence.low) (by omega) (by omega)
    exact (ih next ⟨by simp, by simp⟩).shorter ⟨_, rfl⟩

namespace Open.Within

theorem of_lead {b : UInt8} {sequence : Open} (high : 0x80 ≤ b.toNat) (found : lead? b = some sequence) :
    sequence.Within ∧ sequence.part = [b] := by
  have opened : start b = ([], .inside sequence) := by
    simp [start, found, Nat.not_lt.mpr high]
  obtain ⟨sound, part⟩ := start_sound b
  rw [opened] at sound part
  have same : sequence.part = [b] := part
  exact ⟨⟨sound, lead_range found, fun rest => by rw [same]; exact scan_lead high found rest⟩, same⟩

variable {sequence : Open} (within : sequence.Within)

include within

theorem more {b : UInt8} (range : sequence.low ≤ b.toNat ∧ b.toNat ≤ sequence.high)
    (owing : ¬ sequence.owed ≤ 1) :
    Within ⟨sequence.part ++ [b], sequence.owed - 1, 0x80, 0xBF, sequence.bitsWith b⟩ where
  sound := by
    have goes : (step (.inside sequence) b).2 =
        .inside ⟨sequence.part ++ [b], sequence.owed - 1, 0x80, 0xBF, sequence.bitsWith b⟩ := by
      rw [step, if_pos range, if_neg owing]
    have sound : (State.inside sequence).Sound := within.sound
    have next := (step_sound sound b).1
    rw [goes] at next
    exact next
  range := ⟨by simp, by simp⟩
  entered rest := by
    rw [List.append_assoc, within.entered, List.singleton_append, scanFrom, step, if_pos range, if_neg owing]
    rfl

theorem begins : Begins sequence.part := closes_begins _ within.sound within.range

theorem part_nonempty : sequence.part ≠ [] := by
  intro none
  have nothing := within.entered []
  rw [none] at nothing
  cases nothing

-- The bytes so far hold no whole character.
theorem unfinished (c : Char) : ¬ encodeChar c <+: sequence.part := by
  rintro ⟨tail, whole⟩
  have read := within.entered []
  rw [← whole, List.append_nil, scan_encodeChar] at read
  cases read

omit within in
theorem leaves {b : UInt8} (outside : ¬ (sequence.low ≤ b.toNat ∧ b.toNat ≤ sequence.high)) (rest : Bytes) :
    scanFrom (.inside sequence) (b :: rest) =
      .illFormed .invalidContinuation sequence.part :: scan (b :: rest) := by
  rw [scanFrom, step, if_neg outside]
  rfl

theorem ends_before {b : UInt8} (outside : ¬ (sequence.low ≤ b.toNat ∧ b.toNat ≤ sequence.high)) :
    ¬ Begins (sequence.part ++ [b]) := by
  intro begins
  obtain ⟨c, tail, read⟩ := begins.scan
  rw [List.append_assoc, within.entered, List.singleton_append, leaves outside] at read
  cases read

theorem unfit_end : Unfit sequence.part [] where
  unreadable c whole := by
    rw [List.append_nil] at whole
    exact within.unfinished c whole
  begun := ⟨within.part_nonempty, .inr within.begins⟩
  longest longer whole more := by
    have short := whole.length_le
    rw [List.append_nil] at short
    omega

theorem unfit_before {b : UInt8} (outside : ¬ (sequence.low ≤ b.toNat ∧ b.toNat ≤ sequence.high))
    (rest : Bytes) : Unfit sequence.part (b :: rest) := by
  have beyond : ∀ {longer : Bytes}, longer <+: sequence.part ++ b :: rest →
      sequence.part.length < longer.length → ¬ Begins longer := by
    intro longer whole more begins
    have next : sequence.part ++ [b] <+: sequence.part ++ b :: rest := ⟨rest, by simp⟩
    have length : (sequence.part ++ [b]).length ≤ longer.length := by
      rw [List.length_append, List.length_singleton]
      omega
    exact within.ends_before outside (begins.shorter (List.prefix_of_prefix_length_le next whole length))
  refine ⟨fun c whole => ?_, ⟨within.part_nonempty, .inr within.begins⟩, fun longer => beyond⟩
  rcases Nat.lt_or_ge sequence.part.length (encodeChar c).length with more | fewer
  · exact beyond whole more ⟨c, List.prefix_rfl⟩
  · exact within.unfinished c (List.prefix_of_prefix_length_le whole ⟨_, rfl⟩ fewer)

end Open.Within

theorem scan_invalid {b : UInt8} (high : 0x80 ≤ b.toNat) (nothing : lead? b = none) (rest : Bytes) :
    scan (b :: rest) = .illFormed .invalidStart [b] :: scan rest := by
  simp [scan, scanFrom, step, start, nothing, Nat.not_lt.mpr high]

theorem unfit_start {b : UInt8} (high : 0x80 ≤ b.toNat) (nothing : lead? b = none) (rest : Bytes) :
    Unfit [b] rest := by
  have none : ¬ Begins [b] := by
    intro begins
    obtain ⟨c, tail, read⟩ := begins.scan
    rw [List.singleton_append, scan_invalid high nothing] at read
    cases read
  have beyond : ∀ {longer : Bytes}, longer <+: [b] ++ rest → longer ≠ [] → ¬ Begins longer := by
    intro longer whole some begins
    have first : [b] <+: longer :=
      List.prefix_of_prefix_length_le ⟨rest, rfl⟩ whole (List.length_pos_iff.mpr some)
    exact none (begins.shorter first)
  refine ⟨fun c whole => beyond whole (encodeChar_nonempty c) ⟨c, List.prefix_rfl⟩, ⟨by simp, .inl rfl⟩, ?_⟩
  intro longer whole more
  refine beyond whole ?_
  rintro rfl
  cases more

-- What is emitted inside a character mends its bytes too.
theorem mended_scan (bytes : Bytes) : Mended bytes ((scan bytes).map Piece.lossyChar) ∧
    ∀ sequence : Open, sequence.Within →
      Mended (sequence.part ++ bytes) ((scanFrom (.inside sequence) bytes).map Piece.lossyChar) := by
  induction bytes with
  | nil => exact ⟨.nil, fun sequence within => .replaced within.unfit_end .nil⟩
  | cons b rest ih =>
    obtain ⟨between, inside⟩ := ih
    have whole : Mended (b :: rest) ((scan (b :: rest)).map Piece.lossyChar) := by
      by_cases ascii : b.toNat < 0x80
      · have kept := Mended.kept (Char.ofNat b.toNat) between
        rw [encode_one ascii] at kept
        rw [scan_ascii ascii]
        exact kept
      have high : 0x80 ≤ b.toNat := Nat.not_lt.mp ascii
      cases found : lead? b with
      | none =>
        rw [scan_invalid high found]
        exact .replaced (unfit_start high found rest) between
      | some sequence =>
        obtain ⟨within, part⟩ := Open.Within.of_lead high found
        have opened := inside sequence within
        rw [part] at opened
        rw [scan_lead high found]
        exact opened
    refine ⟨whole, fun sequence within => ?_⟩
    by_cases range : sequence.low ≤ b.toNat ∧ b.toNat ≤ sequence.high
    · by_cases last : sequence.owed ≤ 1
      · have nothing : sequence.owed - 1 = 0 := by omega
        have sound := within.sound
        rw [nothing] at sound
        have kept := Mended.kept (Char.ofNat (sequence.bitsWith b)) between
        rw [sound b range.1 range.2, List.append_assoc] at kept
        rw [scanFrom, step, if_pos range, if_pos last]
        exact kept
      · have opened := inside _ (within.more range last)
        rw [List.append_assoc] at opened
        rw [scanFrom, step, if_pos range, if_neg last]
        exact opened
    · rw [Open.Within.leaves range]
      exact .replaced (within.unfit_before range rest) whole

theorem mended_lossy (bytes : Bytes) : Mended bytes (lossyChars bytes) := (mended_scan bytes).1

-- No other part of the same bytes is longer.
theorem Unfit.most {part rest other others : Bytes} (unfit : Unfit part rest) (fit : Unfit other others)
    (whole : part ++ rest = other ++ others) : other.length ≤ part.length := by
  have some : 0 < part.length := List.length_pos_iff.mpr unfit.begun.1
  obtain ⟨-, single | begins⟩ := fit.begun
  · omega
  · refine Nat.not_lt.mp fun longer => unfit.longest other ?_ longer begins
    rw [whole]
    exact List.prefix_append other others

theorem Unfit.same {part rest other others : Bytes} (unfit : Unfit part rest) (fit : Unfit other others)
    (whole : part ++ rest = other ++ others) : rest = others := by
  have most := unfit.most fit whole
  have least := fit.most unfit whole.symm
  exact (List.append_inj whole (by omega)).2

theorem Mended.same {bytes : Bytes} {cs others : List Char} (first : Mended bytes cs)
    (second : Mended bytes others) : cs = others := by
  induction first generalizing others with
  | nil =>
    generalize whole : ([] : Bytes) = bytes at second
    cases second with
    | nil => rfl
    | kept c =>
      have nothing := (List.append_eq_nil_iff.mp whole.symm).1
      exact absurd nothing (encodeChar_nonempty c)
    | replaced unfit =>
      have nothing := (List.append_eq_nil_iff.mp whole.symm).1
      exact absurd nothing unfit.begun.1
  | @kept c rest cs _ ih =>
    generalize whole : encodeChar c ++ rest = bytes at second
    cases second with
    | nil => exact absurd (List.append_eq_nil_iff.mp whole).1 (encodeChar_nonempty c)
    | @kept d others _ behind =>
      have read := scan_encodeChar c rest
      rw [whole, scan_encodeChar] at read
      have char : d = c := Piece.char.inj (List.cons.inj read).1
      rw [char] at whole ⊢
      rw [ih (List.append_cancel_left whole ▸ behind)]
    | replaced unfit => exact absurd ⟨rest, whole⟩ (unfit.unreadable c)
  | @replaced part rest cs unfit _ ih =>
    generalize whole : part ++ rest = bytes at second
    cases second with
    | nil => exact absurd (List.append_eq_nil_iff.mp whole).1 unfit.begun.1
    | @kept d others _ behind => exact absurd ⟨others, whole.symm⟩ (unfit.unreadable d)
    | @replaced other others _ fit behind =>
      rw [ih (unfit.same fit whole ▸ behind)]

-- Lossy reading keeps the characters and puts one replacement for every maximal part that is not UTF-8,
-- and nothing else does.
theorem mended_exact {bytes : Bytes} {cs : List Char} : Mended bytes cs ↔ cs = lossyChars bytes := by
  constructor
  · exact fun mended => mended.same (mended_lossy bytes)
  · rintro rfl
    exact mended_lossy bytes

theorem lossy_encode (text : String) : lossy (encode text) = text := by
  have chars : (text.toList.map Piece.char).map Piece.lossyChar = text.toList := by
    rw [List.map_map]
    exact List.map_id _
  rw [lossy, lossyChars, encode, scan_encodeChars, chars, String.ofList_toList]

theorem malformed_of_charsFrom {pieces : List Piece} {offset : Nat} {malformed : Malformed}
    (stopped : charsFrom offset pieces = .error malformed) : ∃ fault part, .illFormed fault part ∈ pieces := by
  induction pieces generalizing offset with
  | nil => cases stopped
  | cons piece rest ih =>
    cases piece with
    | illFormed fault part => exact ⟨fault, part, List.mem_cons_self⟩
    | char c =>
      cases later : charsFrom (offset + (encodeChar c).length) rest with
      | ok others => simp [charsFrom, later, Except.map] at stopped
      | error found =>
        simp only [charsFrom, later, Except.map, Except.error.injEq] at stopped
        obtain ⟨fault, part, behind⟩ := ih (later.trans (congrArg Except.error stopped))
        exact ⟨fault, part, List.mem_cons_of_mem _ behind⟩

theorem lossy_replaces {bytes : Bytes} {malformed : Malformed} (stopped : chars bytes = .error malformed) :
    replacement ∈ (lossy bytes).toList := by
  obtain ⟨fault, part, found⟩ := malformed_of_charsFrom stopped
  rw [lossy, String.toList_ofList]
  exact List.mem_map.mpr ⟨_, found, rfl⟩

end RecordBridge.Utf8
