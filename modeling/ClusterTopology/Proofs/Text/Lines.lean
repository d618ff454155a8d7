import ClusterTopology.Text.Lines

/-!
The lines of a text, and texts and lists that are joined.

A text that is put together line by line has these lines (`linesOf_append`), and texts that are
joined by line feeds keep theirs (`linesOf_intercalate`). What is in joined lists is in one of
them or in the separator, and each of them stands in the whole (`mem_intercalate`,
`infix_intercalate`).
-/

namespace ClusterTopology

/-! ### Lines -/

/-- What is between two separators holds none. -/
theorem notMem_of_mem_splitOn {α : Type} [DecidableEq α] {separator : α} {text piece : List α}
    (member : piece ∈ text.splitOn separator) : separator ∉ piece := by
  induction text generalizing piece with
  | nil =>
      rw [List.mem_singleton.mp member]
      exact List.not_mem_nil
  | cons c rest ih =>
      rw [List.splitOn_cons_eq_if_modifyHead] at member
      split at member
      · rcases List.mem_cons.mp member with rfl | member
        · exact List.not_mem_nil
        · exact ih member
      · rename_i other
        obtain ⟨first, more, pieces⟩ :=
          List.exists_cons_of_ne_nil (List.splitOn_ne_nil separator rest)
        rw [pieces, List.modifyHead_cons] at member
        rw [pieces] at ih
        rcases List.mem_cons.mp member with rfl | member
        · intro inside
          rcases List.mem_cons.mp inside with rfl | inside
          · simp at other
          · exact ih List.mem_cons_self inside
        · exact ih (List.mem_cons_of_mem _ member)

/-- The lines of a text: what stands before, between and after its line feeds. -/
def linesOf (text : String) : List (List Char) := text.toList.splitOn '\n'

theorem newline_notMem_of_mem_linesOf {text : String} {line : List Char}
    (member : line ∈ linesOf text) : '\n' ∉ line :=
  notMem_of_mem_splitOn member

theorem linesOf_append (line rest : String) :
    linesOf (line ++ "\n" ++ rest) = linesOf line ++ linesOf rest := by
  have whole : (line ++ "\n" ++ rest).toList = line.toList ++ '\n' :: rest.toList := by
    simp
  rw [linesOf, whole, List.splitOn_append_cons_self]
  rfl

theorem linesOf_of_notMem {line : String} (single : '\n' ∉ line.toList) :
    linesOf line = [line.toList] :=
  List.splitOn_eq_singleton single

/-- Texts that are joined by line feeds keep their lines. -/
theorem linesOf_intercalate {texts : List String} (some : texts ≠ []) :
    linesOf ("\n".intercalate texts) = texts.flatMap linesOf := by
  induction texts with
  | nil => exact absurd rfl some
  | cons text rest ih =>
      by_cases last : rest = []
      · subst last
        simp
      · rw [String.intercalate_cons_of_ne_nil last, linesOf_append, ih last, List.flatMap_cons]

/-- The pieces of a text are the lists between its separators. -/
theorem Text.pieces_eq_splitOn (separator : Char) (text : List Char) :
    Text.pieces (· == separator) text = text.splitOn separator := by
  induction text with
  | nil => rfl
  | cons c rest ih =>
      rw [Text.pieces, List.splitOn_cons_eq_if_modifyHead, ih]
      obtain ⟨first, more, pieces⟩ :=
        List.exists_cons_of_ne_nil (List.splitOn_ne_nil separator rest)
      rw [pieces, List.modifyHead_cons]

/-! ### Joined lists -/

section Joined

variable {α : Type} {separator list : List α} {lists : List (List α)}

theorem mem_intercalate {x : α} (inside : x ∈ separator.intercalate lists) :
    x ∈ separator ∨ ∃ list ∈ lists, x ∈ list := by
  induction lists with
  | nil => cases inside
  | cons first rest ih =>
      by_cases last : rest = []
      · subst last
        rw [List.intercalate_singleton] at inside
        exact Or.inr ⟨first, List.mem_cons_self, inside⟩
      · rw [List.intercalate_cons_of_ne_nil last, List.mem_append, List.mem_append] at inside
        rcases inside with (own | between) | later
        · exact Or.inr ⟨first, List.mem_cons_self, own⟩
        · exact Or.inl between
        · rcases ih later with between | ⟨list, member, inside⟩
          · exact Or.inl between
          · exact Or.inr ⟨list, List.mem_cons_of_mem _ member, inside⟩

theorem infix_intercalate (separator : List α) (member : list ∈ lists) :
    list <:+: separator.intercalate lists := by
  induction lists with
  | nil => cases member
  | cons first rest ih =>
      by_cases last : rest = []
      · subst last
        have whole : separator.intercalate [first] = list := by
          rw [List.intercalate_singleton, List.mem_singleton.mp member]
        exact ⟨[], [], by rw [whole, List.nil_append, List.append_nil]⟩
      · rw [List.intercalate_cons_of_ne_nil last]
        rcases List.mem_cons.mp member with rfl | member
        · rw [List.append_assoc]
          exact (List.prefix_append list _).isInfix
        · exact (ih member).trans (List.suffix_append _ _).isInfix

end Joined

end ClusterTopology
