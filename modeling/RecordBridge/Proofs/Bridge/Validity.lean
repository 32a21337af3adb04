import RecordBridge.Proofs.Bridge.Attributes
import RecordBridge.Proofs.Record.Reading
import RecordBridge.Proofs.Text.Lossy

namespace RecordBridge

open Guest (Object Raised Text)

-- A decoder of the interpreter: it undoes the encoding of texts and refuses what is no encoding.
structure Guest.Strict (decode : Bytes → Except Raised Object) : Prop where
  decodes : ∀ {text : Text} {data : Bytes}, text.encode = .ok data → decode data = .ok (.str text)
  refuses : ∀ {data : Bytes}, (∀ text : Text, text.encode ≠ .ok data) →
    ∃ raised, decode data = .error raised ∧ raised.exceptionClass = .builtin "UnicodeDecodeError"

-- The length and the bytes are consumed whether they are a text or not.
theorem Buffer.getString_counted (order : ByteOrder) {b : Bytes} (short : b.length < 2 ^ 32)
    (consumed tail : Bytes) :
    getString ⟨order, consumed, order.counted b ++ tail⟩ =
      ((Utf8.text? b).elim (.error .invalidName) .ok, ⟨order, (order.counted b).reverse ++ consumed, tail⟩) := by
  have bytes := (reads_getBytes order short).exact consumed tail
  change Reader.bind getBytes _ _ = _
  unfold Reader.bind
  rw [bytes]
  dsimp only
  cases Utf8.text? b with
  | none => rfl
  | some text => rfl

theorem Utf8.none_unencoded {b : Bytes} (refused : text? b = none) (text : Text) : text.encode ≠ .ok b := by
  intro encoded
  obtain ⟨content, bytes, -⟩ := Text.encode_exact.mp encoded
  rw [text?_exact.mpr bytes] at refused
  cases refused

theorem Utf8.malformed_of_none {b : Bytes} (refused : text? b = none) : ∃ malformed, chars b = .error malformed := by
  cases read : chars b with
  | error malformed => exact ⟨malformed, rfl⟩
  | ok cs =>
    rw [text?, read] at refused
    cases refused

namespace RString

-- The conversion in its two steps: the interpreter's own decoder sees only what strict reading refused.
def toObjectBy (decode : Bytes → Except Raised Object) (text : RString) : Except Raised Object :=
  match text.text? with
  | some content => .ok (.ofString content)
  | none => decode text.bytes

theorem toObject_read {text : RString} {content : String} (read : text.text? = some content) :
    text.toObject = .ok (.ofString content) := by
  have encoded := Utf8.text?_exact.mp read
  have chars := Utf8.chars_encodeChars content.toList
  rw [← Utf8.encode, encoded] at chars
  rw [toObject, chars]
  rfl

theorem toObject_refused {text : RString} (refused : text.text? = none) :
    ∃ raised, text.toObject = .error raised ∧ raised.exceptionClass = .builtin "UnicodeDecodeError" := by
  obtain ⟨malformed, stopped⟩ := Utf8.malformed_of_none refused
  rw [toObject, stopped]
  exact ⟨_, rfl, rfl⟩

theorem display_read {text : RString} {content : String} (read : text.text? = some content) :
    text.display = content := by
  rw [display, ← Utf8.text?_exact.mp read, Utf8.lossy_encode]

-- The conversion is a decoder of its own, and a strict one.
theorem toObject_strict : Guest.Strict fun data => toObject ⟨data⟩ where
  decodes encoded := by
    obtain ⟨content, bytes, rfl⟩ := Text.encode_exact.mp encoded
    exact toObject_read (Utf8.text?_exact.mpr bytes)
  refuses {data} unencoded := by
    refine toObject_refused (Option.eq_none_iff_forall_ne_some.mpr fun content read => ?_)
    exact unencoded (.ofString content) (Text.encode_exact.mpr ⟨content, Utf8.text?_exact.mp read, rfl⟩)

-- Every way of reading gives this text.
structure Reads (text : RString) (decode : Bytes → Except Raised Object) (back : Except HostError String)
    (content : String) : Prop where
  strictly : text.text? = some content
  back : back = .ok content
  handed : text.toObject = .ok (.ofString content)
  handedBy : text.toObjectBy decode = .ok (.ofString content)
  shown : text.display = content

-- No way of reading gives a text but the lossy one, and that one does not give these bytes again.
structure Refused (text : RString) (decode : Bytes → Except Raised Object) (back : Except HostError String) :
    Prop where
  strictly : text.text? = none
  back : back = .error .invalidName
  handed : ∃ raised, text.toObject = .error raised ∧ raised.exceptionClass = .builtin "UnicodeDecodeError"
  handedBy : text.toObjectBy decode = decode text.bytes ∧
    ∃ raised, decode text.bytes = .error raised ∧ raised.exceptionClass = .builtin "UnicodeDecodeError"
  marked : Utf8.replacement ∈ text.display.toList
  shown : Utf8.encode text.display ≠ text.bytes
  sound : (ofText text.display).text? = some text.display

variable {text : RString} {decode : Bytes → Except Raised Object} {back : Except HostError String}

theorem reads_of_text {content : String} (read : text.text? = some content)
    (same : back = text.text?.elim (.error .invalidName) .ok) : text.Reads decode back content where
  strictly := read
  back := by rw [same, read]; rfl
  handed := toObject_read read
  handedBy := by rw [toObjectBy, read]
  shown := display_read read

theorem refused_of_none (strict : Guest.Strict decode) (refused : text.text? = none)
    (same : back = text.text?.elim (.error .invalidName) .ok) : text.Refused decode back where
  strictly := refused
  back := by rw [same, refused]; rfl
  handed := toObject_refused refused
  handedBy := ⟨by rw [toObjectBy, refused], strict.refuses (Utf8.none_unencoded refused)⟩
  marked := by
    obtain ⟨malformed, stopped⟩ := Utf8.malformed_of_none refused
    exact Utf8.lossy_replaces stopped
  shown kept := by
    have read := Utf8.text?_exact.mpr kept
    rw [text?] at refused
    rw [refused] at read
    cases read
  sound := Utf8.text?_encode text.display

end RString

-- What is read back, converted and shown depends on one thing only: whether the bytes are UTF-8.
theorem validity_agreed {b : Bytes} (short : b.length < 2 ^ 32) {decode : Bytes → Except Raised Object}
    (strict : Guest.Strict decode) (order : ByteOrder) (consumed tail : Bytes) :
    let text : RString := ⟨b⟩
    let back := ((Buffer.putBytes ⟨order, consumed, []⟩ b).append tail).getString
    ((∃ content, text.text? = some content) ↔ b.toByteArray.IsValidUTF8) ∧
      ((∃ content, back.1 = .ok content) ↔ b.toByteArray.IsValidUTF8) ∧
      ((∃ o, text.toObject = .ok o) ↔ b.toByteArray.IsValidUTF8) ∧
      ((∃ o, text.toObjectBy decode = .ok o) ↔ b.toByteArray.IsValidUTF8) ∧
      (Utf8.encode text.display = b ↔ b.toByteArray.IsValidUTF8) ∧
      (b.toByteArray.IsValidUTF8 → ∃ content, text.Reads decode back.1 content) ∧
      (¬ b.toByteArray.IsValidUTF8 → text.Refused decode back.1) ∧
      back.2 = ⟨order, (order.counted b).reverse ++ consumed, tail⟩ ∧
      (∀ cs, Utf8.Mended b cs ↔ cs = text.display.toList) ∧
      ∀ old : RString, (old.assign text.display).display = text.display := by
  intro text back
  have written : back = (text.text?.elim (.error .invalidName) .ok,
      ⟨order, (order.counted b).reverse ++ consumed, tail⟩) := by
    have put : (Buffer.putBytes ⟨order, consumed, []⟩ b).append tail =
        ⟨order, consumed, order.counted b ++ tail⟩ := by
      rw [Buffer.putBytes_exact]
      rfl
    change Buffer.getString ((Buffer.putBytes ⟨order, consumed, []⟩ b).append tail) = _
    rw [put]
    exact Buffer.getString_counted order short consumed tail
  have outcome := congrArg Prod.fst written
  have mended : ∀ cs, Utf8.Mended b cs ↔ cs = text.display.toList := by
    intro cs
    rw [RString.display, Utf8.lossy, String.toList_ofList]
    exact Utf8.mended_exact
  have stable : ∀ old : RString, (old.assign text.display).display = text.display :=
    fun old => Utf8.lossy_encode text.display
  cases read : text.text? with
  | some content =>
    have valid : b.toByteArray.IsValidUTF8 := Utf8.text?_valid.mpr ⟨content, read⟩
    have all : text.Reads decode back.1 content := RString.reads_of_text read outcome
    refine ⟨iff_of_true ⟨content, rfl⟩ valid, iff_of_true ⟨_, all.back⟩ valid, iff_of_true ⟨_, all.handed⟩ valid,
      iff_of_true ⟨_, all.handedBy⟩ valid, iff_of_true ?_ valid, fun _ => ⟨content, all⟩, absurd valid,
      congrArg Prod.snd written, mended, stable⟩
    rw [all.shown]
    exact Utf8.text?_exact.mp read
  | none =>
    have invalid : ¬ b.toByteArray.IsValidUTF8 := by
      intro valid
      obtain ⟨content, found⟩ := Utf8.text?_valid.mp valid
      cases read.symm.trans found
    have none := RString.refused_of_none strict read outcome
    obtain ⟨raised, unhanded, -⟩ := none.handed
    obtain ⟨fallback, other, unconverted, -⟩ := none.handedBy
    refine ⟨iff_of_false ?_ invalid, iff_of_false ?_ invalid, iff_of_false ?_ invalid, iff_of_false ?_ invalid,
      iff_of_false none.shown invalid, fun valid => absurd valid invalid, fun _ => none,
      congrArg Prod.snd written, mended, stable⟩
    · rintro ⟨content, found⟩
      cases found
    · rintro ⟨content, found⟩
      cases none.back.symm.trans found
    · rintro ⟨o, found⟩
      cases unhanded.symm.trans found
    · rintro ⟨o, found⟩
      rw [fallback, unconverted] at found
      cases found

-- A surrogate as three bytes, none of which begins a character, and a letter behind it.
def Utf8.ofSurrogate : Bytes := [0xED, 0xA0, 0x80, 0x41]

theorem refused_of_surrogate : Utf8.ofSurrogate.length < 2 ^ 32 ∧
    Guest.Strict (fun data => RString.toObject ⟨data⟩) ∧
    (RString.mk Utf8.ofSurrogate).display.toList =
      [Utf8.replacement, Utf8.replacement, Utf8.replacement, 'A'] ∧
    (RString.mk Utf8.ofSurrogate).Refused (fun data => RString.toObject ⟨data⟩)
      ((Buffer.putBytes ⟨.network, [], []⟩ Utf8.ofSurrogate).append [7]).getString.1 ∧
    ((Buffer.putBytes ⟨.network, [], []⟩ Utf8.ofSurrogate).append [7]).getString.2 =
      ⟨.network, [0x41, 0x80, 0xA0, 0xED, 4, 0, 0, 0], [7]⟩ := by
  have short : Utf8.ofSurrogate.length < 2 ^ 32 := by decide
  obtain ⟨strictly, -, -, -, -, -, refused, left, -⟩ :=
    validity_agreed short RString.toObject_strict .network [] [7]
  have unread : ¬ ∃ content, (RString.mk Utf8.ofSurrogate).text? = some content := by
    rintro ⟨content, read⟩
    cases read
  exact ⟨short, RString.toObject_strict, by decide, refused (unread ∘ strictly.mpr), left⟩

end RecordBridge
