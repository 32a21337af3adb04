import RecordBridge.Proofs.Bridge.Validity

namespace RecordBridge

open Guest (Object Raised Text)

namespace Guest.Object

-- The object itself, or an instance of a class that extends its class.
inductive Extends (base : Object) : Object → Prop where
  | itself : Extends base base
  | derived (className : String) {o : Object} (further : Extends base o) : Extends base (.derived className o)
  | own (c : Guest.OwnClass) {o : Object} (further : Extends base o) : Extends base (.own c o)

theorem data?_exact {o : Object} {data : Bytes} : o.data? = some data ↔ Extends (.bytes data) o := by
  constructor
  · intro found
    fun_induction data? o with
    | case1 content =>
      cases found
      exact .itself
    | case2 className base ih => exact .derived className (ih found)
    | case3 c base ih => exact .own c (ih found)
    | case4 => cases found
  · intro extended
    induction extended with
    | itself => rfl
    | derived className _ ih => exact ih
    | own c _ ih => exact ih

theorem text?_exact {o : Object} {text : Text} : o.text? = some text ↔ Extends (.str text) o := by
  constructor
  · intro found
    fun_induction text? o with
    | case1 content =>
      cases found
      exact .itself
    | case2 className base ih => exact .derived className (ih found)
    | case3 c base ih => exact .own c (ih found)
    | case4 => cases found
  · intro extended
    induction extended with
    | itself => rfl
    | derived className _ ih => exact ih
    | own c _ ih => exact ih

end Guest.Object

namespace Value

-- Bytes stand for themselves, and a text has to be one.
def Readable : Value → Prop
  | .blob _ => True
  | .rstring content => content.bytes.toByteArray.IsValidUTF8

-- Of the very class that values of this kind are converted to, with a UTF-8 form if that is text.
def Native (value : Value) (o : Object) : Prop :=
  match value with
  | .blob _ => ∃ data, o = .bytes data
  | .rstring _ => ∃ text : Text, o = .str text ∧ ∀ point ∈ text, Text.isSurrogate point = false

-- No instance of that class, extensions included, or a text with a surrogate in it.
def Foreign (value : Value) (o : Object) : Prop :=
  match value with
  | .blob _ => ∀ data, ¬ Object.Extends (.bytes data) o
  | .rstring _ => ∀ text, Object.Extends (.str text) o → ∃ point ∈ text, Text.isSurrogate point = true

end Value

-- Conversion of attributes that are values of one kind, or of either.
structure Faithful {α : Type} [Attribute α] (value : α → Value) : Prop where
  -- Out and in again: whatever the destination held, it is the source afterwards.
  outward : ∀ source destination : α, (value source).tag = (value destination).tag → (value source).Readable →
    ∃ o, Attribute.toObject source = .ok o ∧ (value source).Native o ∧
      Attribute.assign destination o = (.ok (), source)
  unreadable : ∀ source : α, ¬ (value source).Readable → ∃ raised, Attribute.toObject source = .error raised
  -- In and out again: the object that comes back is equal to the one that went in.
  inward : ∀ (destination : α) (o : Object), (value destination).Native o →
    ∃ filled, Attribute.assign destination o = (.ok (), filled) ∧
      (value filled).tag = (value destination).tag ∧ Attribute.toObject filled = .ok o
  extended : ∀ (destination : α) (base o : Object), (value destination).Native base → base.Extends o →
    Attribute.assign destination o = Attribute.assign destination base
  refused : ∀ (destination : α) (o : Object), (value destination).Foreign o →
    ∃ raised, Attribute.assign destination o = (.error raised, destination)
  -- There is no object beyond these.
  decided : ∀ (destination : α) (o : Object),
    (∃ base, (value destination).Native base ∧ base.Extends o) ∨ (value destination).Foreign o

namespace Blob

theorem assign_extension {data : Bytes} {o : Object} (extended : Object.Extends (.bytes data) o)
    (destination : Blob) : destination.assignObject o = (.ok (), ⟨data⟩) := by
  rw [assignObject, Object.data?_exact.mpr extended]
  rfl

theorem assign_foreign {destination : Blob} {o : Object} (foreign : (Value.blob destination).Foreign o) :
    ∃ raised, destination.assignObject o = (.error raised, destination) := by
  rw [assignObject]
  cases found : o.data? with
  | none => exact ⟨_, rfl⟩
  | some data => exact absurd (Object.data?_exact.mp found) (foreign data)

theorem native_or_foreign (destination : Blob) (o : Object) :
    (∃ base, (Value.blob destination).Native base ∧ base.Extends o) ∨ (Value.blob destination).Foreign o := by
  cases found : o.data? with
  | some data => exact .inl ⟨_, ⟨data, rfl⟩, Object.data?_exact.mp found⟩
  | none =>
    refine .inr fun data extended => ?_
    cases found.symm.trans (Object.data?_exact.mpr extended)

theorem faithful : Faithful Value.blob where
  outward source destination _ _ := ⟨_, rfl, ⟨_, rfl⟩, assign_extension .itself destination⟩
  unreadable source unread := absurd trivial unread
  inward := by
    rintro destination o ⟨data, rfl⟩
    exact ⟨⟨data⟩, assign_extension .itself destination, rfl, rfl⟩
  extended := by
    rintro destination base o ⟨data, rfl⟩ extended
    exact (assign_extension extended destination).trans (assign_extension .itself destination).symm
  refused _ _ := assign_foreign
  decided := native_or_foreign

end Blob

namespace RString

-- Objects of the text class without surrogates are the texts that characters make.
theorem native_exact {destination : RString} {o : Object} :
    (Value.rstring destination).Native o ↔ ∃ content : String, o = .ofString content := by
  constructor
  · rintro ⟨text, rfl, scalars⟩
    refine ⟨String.ofList (text.map fun point => Char.ofNat point.val), ?_⟩
    have read := Text.charsFrom_scalars scalars 0
    rw [Object.ofString, Text.ofString, String.toList_ofList]
    exact congrArg Object.str (Text.ofChars_of_charsFrom read)
  · rintro ⟨content, rfl⟩
    exact ⟨_, rfl, Text.scalars_of_charsFrom (Text.charsFrom_ofChars content.toList 0)⟩

theorem assign_extension {content : String} {o : Object} (extended : Object.Extends (.ofString content) o)
    (destination : RString) : destination.assignObject o = (.ok (), .ofText content) := by
  have found : o.text? = some (.ofString content) := Object.text?_exact.mpr extended
  have read : (Text.ofString content).chars = .ok content.toList := Text.charsFrom_ofChars content.toList 0
  simp only [assignObject, found, read, assign, String.ofList_toList]

theorem assign_foreign {destination : RString} {o : Object} (foreign : (Value.rstring destination).Foreign o) :
    ∃ raised, destination.assignObject o = (.error raised, destination) := by
  rw [assignObject]
  cases found : o.text? with
  | none => exact ⟨_, rfl⟩
  | some text =>
    dsimp only
    cases read : text.chars with
    | error surrogates => exact ⟨_, rfl⟩
    | ok cs =>
      obtain ⟨point, member, surrogate⟩ := foreign text (Object.text?_exact.mp found)
      cases surrogate.symm.trans (Text.scalars_of_charsFrom read point member)

theorem native_or_foreign (destination : RString) (o : Object) :
    (∃ base, (Value.rstring destination).Native base ∧ base.Extends o) ∨ (Value.rstring destination).Foreign o := by
  cases found : o.text? with
  | none =>
    refine .inr fun text extended => ?_
    cases found.symm.trans (Object.text?_exact.mpr extended)
  | some text =>
    by_cases scalars : ∀ point ∈ text, Text.isSurrogate point = false
    · exact .inl ⟨_, ⟨text, rfl, scalars⟩, Object.text?_exact.mp found⟩
    · refine .inr fun other extended => ?_
      have same : text = other := Option.some.inj (found.symm.trans (Object.text?_exact.mpr extended))
      subst same
      simpa using scalars

theorem faithful : Faithful Value.rstring where
  outward source destination _ readable := by
    obtain ⟨content, read⟩ := Utf8.text?_valid.mp readable
    have kept : ofText content = source := congrArg RString.mk (Utf8.text?_exact.mp read)
    rw [← kept]
    exact ⟨_, toObject_read (Utf8.text?_encode content), native_exact.mpr ⟨content, rfl⟩,
      assign_extension .itself destination⟩
  unreadable source unread := by
    have none : source.text? = none := by
      refine Option.eq_none_iff_forall_ne_some.mpr fun content read => unread ?_
      exact Utf8.text?_valid.mpr ⟨content, read⟩
    obtain ⟨raised, refused, -⟩ := toObject_refused none
    exact ⟨raised, refused⟩
  inward destination o native := by
    obtain ⟨content, rfl⟩ := native_exact.mp native
    exact ⟨_, assign_extension .itself destination, rfl, toObject_read (Utf8.text?_encode content)⟩
  extended destination base o native extended := by
    obtain ⟨content, rfl⟩ := native_exact.mp native
    exact (assign_extension extended destination).trans (assign_extension .itself destination).symm
  refused _ _ := assign_foreign
  decided := native_or_foreign

end RString

namespace Value

theorem faithful : Faithful (id : Value → Value) where
  outward source destination same readable := by
    cases source with
    | blob given =>
      cases destination with
      | rstring old => cases same
      | blob old =>
        obtain ⟨o, made, native, filled⟩ := Blob.faithful.outward given old same readable
        exact ⟨o, made, native, congrArg (Prod.map id blob) filled⟩
    | rstring given =>
      cases destination with
      | blob old => cases same
      | rstring old =>
        obtain ⟨o, made, native, filled⟩ := RString.faithful.outward given old same readable
        exact ⟨o, made, native, congrArg (Prod.map id rstring) filled⟩
  unreadable source unread := by
    cases source with
    | blob given => exact Blob.faithful.unreadable given unread
    | rstring given => exact RString.faithful.unreadable given unread
  inward destination o native := by
    cases destination with
    | blob old =>
      obtain ⟨filled, done, tag, back⟩ := Blob.faithful.inward old o native
      exact ⟨.blob filled, congrArg (Prod.map id blob) done, tag, back⟩
    | rstring old =>
      obtain ⟨filled, done, tag, back⟩ := RString.faithful.inward old o native
      exact ⟨.rstring filled, congrArg (Prod.map id rstring) done, tag, back⟩
  extended destination base o native extended := by
    cases destination with
    | blob old => exact congrArg (Prod.map id blob) (Blob.faithful.extended old base o native extended)
    | rstring old => exact congrArg (Prod.map id rstring) (RString.faithful.extended old base o native extended)
  refused destination o foreign := by
    cases destination with
    | blob old =>
      obtain ⟨raised, done⟩ := Blob.faithful.refused old o foreign
      exact ⟨raised, congrArg (Prod.map id blob) done⟩
    | rstring old =>
      obtain ⟨raised, done⟩ := RString.faithful.refused old o foreign
      exact ⟨raised, congrArg (Prod.map id rstring) done⟩
  decided destination o := by
    cases destination with
    | blob old => exact Blob.faithful.decided old o
    | rstring old => exact RString.faithful.decided old o

theorem assign_kind (destination : Value) (o : Object) : (destination.assignObject o).2.tag = destination.tag := by
  cases destination with
  | blob old => rfl
  | rstring old => rfl

end Value

-- Conversion is faithful for both kinds, and a value converts as what is in it.
theorem conversion_faithful :
    Faithful Value.blob ∧ Faithful Value.rstring ∧ Faithful (id : Value → Value) ∧
      (∀ (content : Blob) (o : Object), Attribute.toObject (Value.blob content) = Attribute.toObject content ∧
        Attribute.assign (Value.blob content) o = Prod.map id Value.blob (Attribute.assign content o)) ∧
      (∀ (content : RString) (o : Object), Attribute.toObject (Value.rstring content) = Attribute.toObject content ∧
        Attribute.assign (Value.rstring content) o = Prod.map id Value.rstring (Attribute.assign content o)) ∧
      ∀ (destination : Value) (o : Object), (Attribute.assign destination o).2.tag = destination.tag :=
  ⟨Blob.faithful, RString.faithful, Value.faithful, fun _ _ => ⟨rfl, rfl⟩, fun _ _ => ⟨rfl, rfl⟩, Value.assign_kind⟩

-- A text with a zero byte and a character of four bytes, put over bytes that are no text.
def RString.ofPlanes : RString := ⟨[0x61, 0x00, 0xF0, 0x9F, 0x98, 0x80]⟩

theorem faithful_of_planes :
    (Value.rstring .ofPlanes).Readable ∧
      (∃ o, RString.ofPlanes.toObject = .ok o ∧ RString.assignObject ⟨[0xFF]⟩ o = (.ok (), .ofPlanes)) ∧
      (Value.rstring ⟨[0xFF]⟩).Native (.ofString "a\x00😀") ∧
      (∃ filled, RString.assignObject ⟨[0xFF]⟩ (.ofString "a\x00😀") = (.ok (), filled) ∧
        filled.toObject = .ok (.ofString "a\x00😀")) ∧
      (Value.rstring ⟨[0xFF]⟩).Foreign (.str [Text.ofCode 0x61, Text.ofCode 0xD800]) ∧
      ∃ raised, RString.assignObject ⟨[0xFF]⟩ (.str [Text.ofCode 0x61, Text.ofCode 0xD800]) =
        (.error raised, ⟨[0xFF]⟩) := by
  obtain ⟨-, faithful, -⟩ := conversion_faithful
  have readable : (Value.rstring .ofPlanes).Readable := Utf8.text?_valid.mpr ⟨"a\x00😀", rfl⟩
  have native : (Value.rstring ⟨[0xFF]⟩).Native (.ofString "a\x00😀") := RString.native_exact.mpr ⟨_, rfl⟩
  have foreign : (Value.rstring ⟨[0xFF]⟩).Foreign (.str [Text.ofCode 0x61, Text.ofCode 0xD800]) := by
    intro text extended
    cases extended
    exact ⟨Text.ofCode 0xD800, List.mem_cons_of_mem _ List.mem_cons_self, rfl⟩
  obtain ⟨o, made, -, kept⟩ := faithful.outward .ofPlanes ⟨[0xFF]⟩ rfl readable
  obtain ⟨filled, done, -, back⟩ := faithful.inward ⟨[0xFF]⟩ _ native
  exact ⟨readable, ⟨o, made, kept⟩, native, ⟨filled, done, back⟩, foreign, faithful.refused ⟨[0xFF]⟩ _ foreign⟩

-- The class of the object is not the class of bytes, and still its content is taken.
theorem extension_taken : (Object.derived "BytesSub" (.bytes [0x61, 0x62])).className ≠ (Object.bytes []).className ∧
    (∀ data, Object.derived "BytesSub" (.bytes [0x61, 0x62]) ≠ .bytes data) ∧
    Blob.assignObject ⟨[0]⟩ (.derived "BytesSub" (.bytes [0x61, 0x62])) = (.ok (), ⟨[0x61, 0x62]⟩) :=
  ⟨by decide, nofun, rfl⟩

end RecordBridge
