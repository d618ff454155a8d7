/-!
Cutting text at separator characters and into lines. A line ends at a line
feed; one carriage return just before the line feed belongs to the line end.
What follows the last line feed is a line only if it is not empty, and keeps a
carriage return at its end.
-/

namespace ClusterTopology.Text

/-- The pieces between the characters that satisfy `separates`, which are left
out. There is always one piece more than separators. -/
def pieces (separates : Char → Bool) : List Char → List (List Char)
  | [] => [[]]
  | c :: rest =>
    if separates c then [] :: pieces separates rest
    else match pieces separates rest with
      | [] => [[c]]
      | piece :: more => (c :: piece) :: more

/-- The text before and after the first character that satisfies `separates`;
nothing if there is none. -/
def cutFirst? (separates : Char → Bool) : List Char → Option (List Char × List Char)
  | [] => none
  | c :: rest =>
    if separates c then some ([], rest)
    else (cutFirst? separates rest).map fun (before, after) => (c :: before, after)

/-- The lines of a text. -/
def lines : List Char → List (List Char)
  | [] => []
  | '\n' :: rest => [] :: lines rest
  | '\r' :: '\n' :: rest => [] :: lines rest
  | c :: rest =>
    match lines rest with
    | [] => [[c]]
    | line :: more => (c :: line) :: more

/-- The two parts hold no separator before the cut and lose nothing but the
separator itself. -/
theorem cutFirst?_eq_some_iff {separates : Char → Bool} {text before after : List Char} :
    cutFirst? separates text = some (before, after) ↔
      (∀ c ∈ before, separates c = false) ∧
        ∃ cut, separates cut = true ∧ text = before ++ cut :: after := by
  induction text generalizing before with
  | nil => simp [cutFirst?]
  | cons c rest ih =>
    by_cases here : separates c = true
    · constructor
      · intro found
        simp [cutFirst?, here] at found
        obtain ⟨rfl, rfl⟩ := found
        exact ⟨by simp, c, here, rfl⟩
      · rintro ⟨clean, cut, separated, whole⟩
        cases before with
        | nil => simp_all [cutFirst?]
        | cons b more =>
          simp at whole
          have := clean b (by simp)
          simp_all
    · constructor
      · intro found
        simp only [cutFirst?, here, Bool.false_eq_true, if_false, Option.map_eq_some_iff] at found
        obtain ⟨⟨inner, tail⟩, cutRest, same⟩ := found
        simp only [Prod.mk.injEq] at same
        obtain ⟨rfl, rfl⟩ := same
        obtain ⟨clean, cut, separated, whole⟩ := ih.mp cutRest
        refine ⟨?_, cut, separated, by simp [whole]⟩
        intro d member
        rcases List.mem_cons.mp member with rfl | member
        · simpa using here
        · exact clean d member
      · rintro ⟨clean, cut, separated, whole⟩
        cases before with
        | nil => simp at whole; simp_all
        | cons b more =>
          simp only [List.cons_append, List.cons.injEq] at whole
          obtain ⟨rfl, rfl⟩ := whole
          have cutRest := ih.mpr ⟨fun d member => clean d (by simp [member]), cut, separated, rfl⟩
          simp [cutFirst?, here, cutRest]

/-- A text is cut at the first of its marks. -/
theorem cutFirst?_mark_eq_some_iff {mark : Char} {text before after : List Char} :
    cutFirst? (· == mark) text = some (before, after) ↔
      text = before ++ mark :: after ∧ mark ∉ before := by
  rw [cutFirst?_eq_some_iff]
  constructor
  · rintro ⟨clean, cut, separates, rfl⟩
    obtain rfl := beq_iff_eq.mp separates
    exact ⟨rfl, fun inside => Bool.false_ne_true ((clean _ inside).symm.trans separates)⟩
  · rintro ⟨rfl, clean⟩
    refine ⟨fun c member => beq_false_of_ne ?_, mark, beq_self_eq_true mark, rfl⟩
    rintro rfl
    exact clean member

end ClusterTopology.Text
