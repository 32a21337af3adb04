import RecordBridge.Command.Lines

namespace RecordBridge

namespace Pieces

variable {α : Type}

theorem extend_append (a : α) {pieces : List (List α)} (present : pieces ≠ []) (more : List (List α)) :
    extend a (pieces ++ more) = extend a pieces ++ more := by
  cases pieces with
  | nil => exact absurd rfl present
  | cons first others => rfl

variable [DecidableEq α]

theorem split_append (separator : α) (first second : List α) :
    split separator (first ++ separator :: second) = split separator first ++ split separator second := by
  induction first with
  | nil =>
    change (if separator = separator then [] :: split separator second else _) = _
    exact if_pos rfl
  | cons a rest ih =>
    by_cases same : a = separator
    · rw [List.cons_append, split, if_pos same, ih, split, if_pos same, List.cons_append]
    · rw [List.cons_append, split, if_neg same, ih, extend_append a (split_ne_nil separator rest), split,
        if_neg same]

theorem split_single (separator : α) {items : List α} (without : separator ∉ items) :
    split separator items = [items] := by
  induction items with
  | nil => rfl
  | cons a rest ih =>
    rw [List.mem_cons, not_or] at without
    rw [split, if_neg (Ne.symm without.1), ih without.2, extend]

end Pieces

namespace Command.Lines

-- What does not end within a line.
def Whole (input : Bytes) : Prop := input = [] ∨ input.getLast? = some lineFeed

theorem dropFinal_append (pieces : List Bytes) {others : List Bytes} (present : others ≠ []) :
    dropFinal (pieces ++ others) = pieces ++ dropFinal others := by
  have last : (pieces ++ others).getLast? = others.getLast? := by
    rw [List.getLast?_append, List.getLast?_eq_some_getLast present, Option.some_or]
  rw [dropFinal, dropFinal, last, List.dropLast_append_of_ne_nil present]
  split <;> rfl

theorem ofBytes_nil : ofBytes [] = [] := rfl

theorem ofBytes_terminated (line rest : Bytes) : ofBytes (line ++ lineFeed :: rest) =
    (Pieces.split lineFeed line).map strip ++ ofBytes rest := by
  rw [ofBytes, Pieces.split_append, dropFinal_append _ (Pieces.split_ne_nil lineFeed rest), List.map_append,
    ofBytes]

theorem ofBytes_append {first : Bytes} (whole : Whole first) (second : Bytes) :
    ofBytes (first ++ second) = ofBytes first ++ ofBytes second := by
  obtain rfl | last := whole
  · rfl
  · obtain ⟨before, rfl⟩ := List.getLast?_eq_some_iff.mp last
    rw [List.append_assoc, List.singleton_append, ofBytes_terminated, ofBytes_terminated, ofBytes_nil,
      List.append_nil]

theorem ofBytes_unterminated {line : Bytes} (without : lineFeed ∉ line) :
    ofBytes line = if line = [] then [] else [strip line] := by
  rw [ofBytes, Pieces.split_single lineFeed without]
  by_cases empty : line = []
  · subst empty
    rfl
  · have other : ([line] : List Bytes).getLast? ≠ some [] := fun last => empty (Option.some.inj last)
    rw [dropFinal, if_neg other, if_neg empty]
    rfl

theorem ofBytes_cut {lines : List Bytes} (without : ∀ line ∈ lines, lineFeed ∉ line) {final : Bytes}
    (unfinished : lineFeed ∉ final) : ofBytes ((lines.map (· ++ [lineFeed])).flatten ++ final) =
      lines.map strip ++ if final = [] then [] else [strip final] := by
  induction lines with
  | nil => exact ofBytes_unterminated unfinished
  | cons line rest ih =>
    rw [List.forall_mem_cons] at without
    rw [List.map_cons, List.flatten_cons, List.append_assoc, List.append_assoc, List.singleton_append,
      ofBytes_terminated, Pieces.split_single lineFeed without.1, ih without.2]
    rfl

-- Every input can be cut like that.
theorem cut (input : Bytes) : ∃ (lines : List Bytes) (final : Bytes),
    input = (lines.map (· ++ [lineFeed])).flatten ++ final ∧
      (∀ line ∈ lines, lineFeed ∉ line) ∧ lineFeed ∉ final := by
  induction input with
  | nil => exact ⟨[], [], rfl, List.forall_mem_nil _, List.not_mem_nil⟩
  | cons b rest ih =>
    obtain ⟨lines, final, rfl, without, unfinished⟩ := ih
    by_cases feed : b = lineFeed
    · subst feed
      exact ⟨[] :: lines, final, rfl, List.forall_mem_cons.mpr ⟨List.not_mem_nil, without⟩, unfinished⟩
    · have other : ∀ {line : Bytes}, lineFeed ∉ line → lineFeed ∉ b :: line := by
        intro line absent present
        obtain same | later := List.mem_cons.mp present
        · exact feed same.symm
        · exact absent later
      cases lines with
      | nil => exact ⟨[], b :: final, rfl, List.forall_mem_nil _, other unfinished⟩
      | cons line others =>
        rw [List.forall_mem_cons] at without
        refine ⟨(b :: line) :: others, final, rfl, ?_, unfinished⟩
        exact List.forall_mem_cons.mpr ⟨other without.1, without.2⟩

end Command.Lines
end RecordBridge
