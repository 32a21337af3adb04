import RecordBridge.Bridge.Attribute
import RecordBridge.Proofs.Guest.Answers
import RecordBridge.Proofs.Text.Utf8

namespace RecordBridge

open Guest (Object Raised Text)

namespace Guest.Text

theorem ofChar_val (c : Char) : (ofChar c).val = c.toNat := by
  have valid := Utf8.scalar_range c
  exact Nat.mod_eq_of_lt (by omega)

-- A character is no surrogate.
theorem ofChar_scalar (c : Char) : isSurrogate (ofChar c) = false := by
  have valid := Utf8.scalar_range c
  rw [isSurrogate, ofChar_val, Bool.and_eq_false_iff, decide_eq_false_iff_not, decide_eq_false_iff_not]
  omega

theorem charsFrom_ofChars (cs : List Char) (offset : Nat) : charsFrom offset (ofChars cs) = .ok cs := by
  induction cs generalizing offset with
  | nil => rfl
  | cons c rest ih =>
    have scalar : ¬ isSurrogate (ofChar c) = true := by rw [ofChar_scalar]; exact Bool.false_ne_true
    have others : charsFrom (offset + 1) (rest.map ofChar) = .ok rest := ih (offset + 1)
    rw [ofChars, List.map_cons, charsFrom, if_neg scalar, others, ofChar_val, Char.ofNat_toNat]
    rfl

theorem encode_ofChars (cs : List Char) : (ofChars cs).encode = .ok (Utf8.encodeChars cs) := by
  rw [encode, chars, charsFrom_ofChars]
  rfl

theorem charsFrom_scalars {text : Text} (scalars : ∀ point ∈ text, isSurrogate point = false) (offset : Nat) :
    charsFrom offset text = .ok (text.map fun point => Char.ofNat point.val) := by
  induction text generalizing offset with
  | nil => rfl
  | cons point rest ih =>
    obtain ⟨scalar, others⟩ := List.forall_mem_cons.mp scalars
    rw [charsFrom, if_neg (Bool.eq_false_iff.mp scalar), ih others]
    rfl

-- What has a UTF-8 form has no surrogate in it.
theorem scalars_of_charsFrom {text : Text} {offset : Nat} {cs : List Char}
    (read : charsFrom offset text = .ok cs) : ∀ point ∈ text, isSurrogate point = false := by
  induction text generalizing offset cs with
  | nil => exact List.forall_mem_nil _
  | cons point rest ih =>
    rw [charsFrom] at read
    split at read
    · cases read
    · rename_i scalar
      refine List.forall_mem_cons.mpr ⟨Bool.eq_false_iff.mpr scalar, ?_⟩
      cases tail : charsFrom (offset + 1) rest with
      | ok others => exact ih tail
      | error surrogates =>
        rw [tail] at read
        cases read

-- A text that has a UTF-8 form consists of the characters it was read as.
theorem ofChars_of_charsFrom {text : Text} {offset : Nat} {cs : List Char}
    (read : charsFrom offset text = .ok cs) : text = ofChars cs := by
  have scalars := scalars_of_charsFrom read
  have chars := Except.ok.inj (read.symm.trans (charsFrom_scalars scalars offset))
  have point : ∀ p ∈ text, ofChar (Char.ofNat p.val) = p := by
    intro p found
    have below := p.isLt
    have scalar := scalars p found
    rw [isSurrogate, Bool.and_eq_false_iff, decide_eq_false_iff_not, decide_eq_false_iff_not] at scalar
    apply Fin.ext
    rw [ofChar_val, Utf8.toNat_scalar (by omega)]
  rw [chars, ofChars, List.map_map]
  exact (List.map_id _).symm.trans (List.map_congr_left fun p found => (point p found).symm)

-- The texts with a UTF-8 form are those of characters.
theorem encode_exact {text : Text} {data : Bytes} :
    text.encode = .ok data ↔ ∃ content : String, Utf8.encode content = data ∧ text = ofString content := by
  constructor
  · intro encoded
    cases read : text.chars with
    | error surrogates =>
      rw [encode, read] at encoded
      cases encoded
    | ok cs =>
      rw [encode, read] at encoded
      refine ⟨String.ofList cs, ?_, ?_⟩
      · rw [Utf8.encode, String.toList_ofList]
        exact Except.ok.inj encoded
      · rw [ofString, String.toList_ofList]
        exact ofChars_of_charsFrom read
  · rintro ⟨content, rfl, rfl⟩
    exact encode_ofChars content.toList

end Guest.Text

namespace Value

-- The argument for an attribute: the same content, as bytes or as text.
def Holds (value : Value) (argument : Object) : Prop :=
  match value with
  | .blob content => argument = .bytes content.data
  | .rstring content => ∃ text : Text, argument = .str text ∧ text.encode = .ok content.bytes

-- Meant to be text, and not the UTF-8 form of any.
def Undecodable : Value → Prop
  | .blob _ => False
  | .rstring content => ∀ text : Text, text.encode ≠ .ok content.bytes

theorem toObject_decided (value : Value) :
    (∃ argument, value.toObject = .ok argument ∧ value.Holds argument ∧ ¬ value.Undecodable) ∨
      ∃ raised, value.toObject = .error raised ∧ raised.Ordinary ∧ value.Undecodable := by
  cases value with
  | blob content => exact .inl ⟨_, rfl, rfl, id⟩
  | rstring content =>
    rw [toObject, RString.toObject]
    cases decoded : Utf8.chars content.bytes with
    | ok cs =>
      have whole : (Text.ofChars cs).encode = .ok content.bytes := by
        rw [Text.encode_ofChars, Utf8.encode_chars decoded]
      exact .inl ⟨_, rfl, ⟨_, rfl, whole⟩, fun undecodable => undecodable _ whole⟩
    | error malformed =>
      refine .inr ⟨_, rfl, Raised.builtin_ordinary (by decide) _ _ _, fun text whole => ?_⟩
      -- A text with these bytes would have been read from them.
      cases read : text.chars with
      | error surrogates =>
        rw [Text.encode, read] at whole
        cases whole
      | ok cs =>
        rw [Text.encode, read] at whole
        have bytes : Utf8.encodeChars cs = content.bytes := Except.ok.inj whole
        rw [← bytes, Utf8.chars_encodeChars] at decoded
        cases decoded

theorem assign_ordinary {destination : Value} {o : Object} {raised : Raised}
    (refused : (destination.assignObject o).1 = .error raised) :
    raised.Ordinary ∧ (destination.assignObject o).2 = destination := by
  cases destination with
  | blob content =>
    simp only [assignObject, Blob.assignObject] at refused ⊢
    cases found : o.data? with
    | some data =>
      rw [found] at refused
      cases refused
    | none =>
      rw [found] at refused
      cases refused
      exact ⟨Raised.builtin_ordinary (by decide) _ _ _, rfl⟩
  | rstring content =>
    simp only [assignObject, RString.assignObject] at refused ⊢
    cases found : o.text? with
    | none =>
      rw [found] at refused
      cases refused
      exact ⟨Raised.builtin_ordinary (by decide) _ _ _, rfl⟩
    | some text =>
      simp only [found] at refused ⊢
      cases read : text.chars with
      | ok cs =>
        rw [read] at refused
        cases refused
      | error surrogates =>
        rw [read] at refused
        cases refused
        exact ⟨Raised.builtin_ordinary (by decide) _ _ _, rfl⟩

end Value
end RecordBridge
