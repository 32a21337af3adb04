import RecordBridge.Proofs.Bridge.Adapters

namespace RecordBridge

open Guest (Object Text)

namespace Value

-- What a destination of this kind holds once it has been filled from a result.
def Takes (destination : Value) (v : Object) (content : Bytes) : Prop :=
  match destination with
  | .blob _ => v.data? = some content
  | .rstring _ => ∃ text, v.text? = some text ∧ (∀ point ∈ text, Text.isSurrogate point = false) ∧
      content = Utf8.encodeChars (text.map fun point => Char.ofNat point.val)

theorem assign_taken {destination : Value} {v : Object} {content : Bytes}
    (taken : destination.Takes v content) :
    (destination.assignObject v).1 = .ok () ∧ (destination.assignObject v).2.tag = destination.tag ∧
      (destination.assignObject v).2.bytes = content := by
  cases destination with
  | blob old =>
    have found : v.data? = some content := taken
    rw [assignObject, Blob.assignObject, found]
    exact ⟨rfl, rfl, rfl⟩
  | rstring old =>
    obtain ⟨text, found, scalars, rfl⟩ := taken
    have read : text.chars = .ok (text.map fun point => Char.ofNat point.val) :=
      Text.charsFrom_scalars scalars 0
    simp only [assignObject, RString.assignObject, found, read]
    refine ⟨trivial, rfl, ?_⟩
    exact congrArg Utf8.encodeChars (String.toList_ofList)

theorem taken_of_assign {destination : Value} {v : Object} (done : (destination.assignObject v).1 = .ok ()) :
    ∃ content, destination.Takes v content := by
  cases destination with
  | blob old =>
    simp only [assignObject, Blob.assignObject] at done
    cases found : v.data? with
    | some data => exact ⟨data, found⟩
    | none =>
      rw [found] at done
      cases done
  | rstring old =>
    simp only [assignObject, RString.assignObject] at done
    cases found : v.text? with
    | none =>
      rw [found] at done
      cases done
    | some text =>
      simp only [found] at done
      cases read : text.chars with
      | ok cs => exact ⟨_, text, found, Text.scalars_of_charsFrom read, rfl⟩
      | error surrogates =>
        rw [read] at done
        cases done

theorem takes_something {destination : Value} {content : Bytes} : ¬ destination.Takes .none content := by
  cases destination with
  | blob old => exact nofun
  | rstring old =>
    rintro ⟨text, found, -⟩
    cases found

end Value

theorem Guest.Object.isNone_exact {v : Object} : v.isNone = true ↔ v = .none := by
  cases v <;> simp [Object.isNone]

namespace Adapter

open Bridge

variable {α β : Type} [Attribute α] [Attribute β]

theorem callWith_exact {callable : Callable} {value : α} {world : World} {v : Object} :
    (callWith callable value world).1 = .returned v ↔ Returns callable value world v := by
  constructor
  · intro ended
    cases made : Attribute.toObject value with
    | error raised => exact absurd ended ((callWith_refused made world).stops v)
    | ok argument =>
      cases called : (callable.call [argument] world.interpreter).1 with
      | error raised => exact absurd ended ((callWith_raised made called).stops v)
      | ok result =>
        rw [callWith_returned made called] at ended
        cases ended
        exact ⟨argument, made, called⟩
  · rintro ⟨argument, made, returns⟩
    rw [callWith_returned made returns]

-- How a transformation goes with a destination, seen as a value: it is filled exactly when the
-- callable gives something that it takes, and then as a whole.
structure Whole (kind : β → Value) (callable : Callable) (value : α) (destination : β) (world : World) :
    Prop where
  kept : (transform callable value destination world).outcome ≠ .returned true →
    (transform callable value destination world).destination = destination
  fills : (transform callable value destination world).outcome = .returned true ↔
    world.running = true ∧ ∃ v content, Returns callable value world v ∧ (kind destination).Takes v content
  filled : ∀ {v content}, world.running = true → Returns callable value world v →
    (kind destination).Takes v content →
    (kind (transform callable value destination world).destination).tag = (kind destination).tag ∧
      (kind (transform callable value destination world).destination).bytes = content
  skips : (transform callable value destination world).outcome = .returned false ↔
    world.running = true ∧ Returns callable value world .none

variable {callable : Callable} {value : α} {world : World}

theorem returns_same {v other : Object} (one : Returns callable value world v)
    (two : Returns callable value world other) : other = v := by
  have same := (callWith_exact.mpr one).symm.trans (callWith_exact.mpr two)
  cases same
  rfl

-- The same for one result that has been returned.
structure Follows (v : Object) (destination : Value) (done : Transformed Value) : Prop where
  fills : done.outcome = .returned true ↔ ∃ content, destination.Takes v content
  skips : done.outcome = .returned false ↔ v = .none
  kept : done.outcome ≠ .returned true → done.destination = destination
  filled : ∀ content, destination.Takes v content →
    done.destination.tag = destination.tag ∧ done.destination.bytes = content

theorem transform_follows {destination : Value} (running : world.running = true) {v : Object}
    (returned : Returns callable value world v) :
    Follows v destination (transform callable value destination world) := by
  obtain ⟨outcome, target⟩ : (transform callable value destination world).outcome = _ ∧
      (transform callable value destination world).destination = _ := by
    obtain ⟨argument, made, returns⟩ := returned
    have called := @callWith_returned α _ callable value argument made (world.settle Ledger.enter) v returns
    rw [transform, if_pos running, called]
    exact ⟨(gives_fill callable v destination _).1, fill_destination callable v destination⟩
  by_cases none : v.isNone = true
  · rw [if_pos none] at outcome target
    obtain rfl := Object.isNone_exact.mp none
    refine ⟨?_, iff_of_true outcome rfl, fun _ => target, fun content taken => ?_⟩
    · rw [outcome]
      refine iff_of_false (by simp) ?_
      rintro ⟨content, taken⟩
      exact Value.takes_something taken
    · exact absurd taken Value.takes_something
  · rw [if_neg none] at outcome target
    have something : v ≠ .none := fun same => none (Object.isNone_exact.mpr same)
    cases assigned : (Attribute.assign destination v).1 with
    | ok done =>
      rw [assigned] at outcome
      refine ⟨iff_of_true outcome (Value.taken_of_assign assigned), ?_, fun other => absurd outcome other, ?_⟩
      · rw [outcome]
        exact iff_of_false (by simp) something
      · intro content taken
        rw [target]
        exact (Value.assign_taken taken).2
    | error raised =>
      rw [assigned] at outcome
      have refused : ∀ content, ¬ destination.Takes v content := by
        intro content taken
        have done : (Attribute.assign destination v).1 = .ok () := (Value.assign_taken taken).1
        rw [assigned] at done
        cases done
      refine ⟨?_, ?_, fun _ => target.trans (Value.assign_ordinary assigned).2, ?_⟩
      · rw [outcome]
        refine iff_of_false (by simp) ?_
        rintro ⟨content, taken⟩
        exact refused content taken
      · rw [outcome]
        exact iff_of_false (by simp) something
      · exact fun content taken => absurd taken (refused content)

theorem whole_of_returned {destination : Value} (running : world.running = true) {v : Object}
    (returned : Returns callable value world v) : Whole id callable value destination world := by
  obtain ⟨fills, skips, kept, filled⟩ :=
    @transform_follows α _ callable value world destination running v returned
  have only : ∀ {other}, Returns callable value world other → other = v := returns_same returned
  refine ⟨kept, ?_, ?_, ?_⟩
  · rw [fills]
    constructor
    · rintro ⟨content, taken⟩
      exact ⟨running, v, content, returned, taken⟩
    · rintro ⟨-, other, content, given, taken⟩
      exact ⟨content, only given ▸ taken⟩
  · intro other content _ given taken
    exact filled content (only given ▸ taken)
  · rw [skips]
    constructor
    · rintro rfl
      exact ⟨running, returned⟩
    · exact fun given => (only given.2).symm

theorem transform_fruitless {destination : Value}
    (fruitless : ¬ (world.running = true ∧ ∃ v, Returns callable value world v)) :
    (transform callable value destination world).destination = destination ∧
      ∀ truth, (transform callable value destination world).outcome ≠ .returned truth := by
  by_cases running : world.running = true
  · rw [transform, if_pos running]
    rcases called : callWith callable value (world.settle Ledger.enter) with ⟨v | error | _ | status, after⟩
    · have returned : Returns callable value (world.settle Ledger.enter) v :=
        callWith_exact.mp (congrArg (·.1) called)
      exact absurd ⟨running, v, returned⟩ fruitless
    · exact ⟨rfl, by simp [fillFrom]⟩
    · exact ⟨rfl, by simp [fillFrom]⟩
    · exact ⟨rfl, by simp [fillFrom]⟩
  · rw [transform, if_neg running]
    exact ⟨rfl, by simp⟩

theorem transform_value (callable : Callable) (value : α) (destination : Value) (world : World) :
    Whole id callable value destination world := by
  by_cases fruitful : world.running = true ∧ ∃ v, Returns callable value world v
  · obtain ⟨running, v, returned⟩ := fruitful
    exact whole_of_returned running returned
  · obtain ⟨kept, ended⟩ := @transform_fruitless α _ callable value world destination fruitful
    refine ⟨fun _ => kept, iff_of_false (ended true) ?_, ?_, iff_of_false (ended false) ?_⟩
    · rintro ⟨running, v, content, returned, -⟩
      exact fruitful ⟨running, v, returned⟩
    · exact fun running returned _ => absurd ⟨running, _, returned⟩ fruitful
    · rintro ⟨running, returned⟩
      exact fruitful ⟨running, _, returned⟩

-- A destination of a definite kind fares as the value of that kind does.
theorem whole_kind (kind : β → Value) (apart : ∀ {one other : β}, kind one = kind other → one = other)
    (alike : ∀ destination o, Attribute.assign (kind destination) o =
      ((Attribute.assign destination o).1, kind (Attribute.assign destination o).2))
    (callable : Callable) (value : α) (destination : β) (world : World) :
    Whole kind callable value destination world := by
  have same := transform_kind kind alike callable value destination world
  obtain ⟨kept, fills, filled, skips⟩ := transform_value callable value (kind destination) world
  rw [same] at kept fills skips
  refine ⟨fun other => apart (kept other), fills, fun running returned taken => ?_, skips⟩
  have whole := filled running returned taken
  rw [same] at whole
  exact whole

end Adapter

open Adapter

theorem transform_whole {α : Type} [Attribute α] (callable : Callable) (value : α) (world : World) :
    (∀ destination : Value, Whole id callable value destination world) ∧
    (∀ destination : Blob, Whole Value.blob callable value destination world) ∧
    ∀ destination : RString, Whole Value.rstring callable value destination world := by
  refine ⟨fun destination => transform_value callable value destination world, ?_, ?_⟩
  · intro destination
    exact whole_kind Value.blob Value.blob.inj (fun _ _ => rfl) callable value destination world
  · intro destination
    exact whole_kind Value.rstring Value.rstring.inj (fun _ _ => rfl) callable value destination world

-- A character of two bytes, and the same behind a surrogate that stands alone.
theorem transform_of_texts :
    (transform (.noting (.str [0xE9])) (Value.blob ⟨[1]⟩) (RString.mk [7, 7, 7]) .started).outcome =
      .returned true ∧
    (transform (.noting (.str [0xE9])) (Value.blob ⟨[1]⟩) (RString.mk [7, 7, 7]) .started).destination.bytes =
      [0xC3, 0xA9] ∧
    (transform (.noting (.str [0xD800, 0xE9])) (Value.blob ⟨[1]⟩) (RString.mk [7, 7, 7]) .started).destination =
      ⟨[7, 7, 7]⟩ := by
  have plain : (Value.rstring ⟨[7, 7, 7]⟩).Takes (.str [0xE9]) [0xC3, 0xA9] :=
    ⟨[0xE9], rfl, List.forall_mem_singleton.mpr rfl, rfl⟩
  have given : Returns (.noting (.str [0xE9])) (Value.blob ⟨[1]⟩) .started (.str [0xE9]) := ⟨_, rfl, rfl⟩
  obtain ⟨-, -, texts⟩ := transform_whole (.noting (.str [0xE9])) (Value.blob ⟨[1]⟩) .started
  obtain ⟨-, -, lone⟩ := transform_whole (.noting (.str [0xD800, 0xE9])) (Value.blob ⟨[1]⟩) .started
  have whole := texts ⟨[7, 7, 7]⟩
  refine ⟨whole.fills.mpr ⟨rfl, _, _, given, plain⟩, (whole.filled rfl given plain).2, ?_⟩
  refine (lone ⟨[7, 7, 7]⟩).kept fun filled => ?_
  obtain ⟨-, v, content, returned, text, found, scalars, -⟩ := (lone ⟨[7, 7, 7]⟩).fills.mp filled
  obtain rfl : v = .str [0xD800, 0xE9] := returns_same ⟨_, rfl, rfl⟩ returned
  cases found
  exact absurd (scalars 0xD800 List.mem_cons_self) (by decide)

end RecordBridge
