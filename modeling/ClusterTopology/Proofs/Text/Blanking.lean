import ClusterTopology.Text.Lines

/-!
Blanking lines out of a text.

`blankOut` takes the characters out of the lines that are chosen by their numbers and leaves
every line end, so that all other lines keep their numbers. `blanked_lines` says so of the
lines that come of it.
-/

namespace ClusterTopology.Text

/-- Leave nothing but the line end of every line whose number is chosen. The text begins in
the line of that number. -/
def blank (chosen : Nat → Bool) : (number : Nat) → List Char → List Char
  | _, [] => []
  | number, '\n' :: rest => '\n' :: blank chosen (number + 1) rest
  | number, '\r' :: '\n' :: rest => '\r' :: '\n' :: blank chosen (number + 1) rest
  | number, c :: rest =>
    if chosen number then blank chosen number rest else c :: blank chosen number rest

/-- `blank` on strings. Lines are numbered from one. -/
def blankOut (chosen : Nat → Bool) (text : String) : String :=
  String.ofList (blank chosen 1 text.toList)

/-- Lines some of which are blanked, the first of which has that number. -/
inductive Blanked (chosen : Nat → Bool) : Nat → List (List Char) → List (List Char) → Prop where
  | nil (number : Nat) : Blanked chosen number [] []
  | kept {number : Nat} {lines others : List (List Char)} (line : List Char) :
      chosen number = false → Blanked chosen (number + 1) lines others →
      Blanked chosen number (line :: lines) (line :: others)
  | emptied {number : Nat} {lines others : List (List Char)} (line : List Char) :
      chosen number = true → Blanked chosen (number + 1) lines others →
      Blanked chosen number (line :: lines) ([] :: others)
  /-- A last line without a line end is none when it is empty. -/
  | dropped {number : Nat} (line : List Char) :
      chosen number = true → Blanked chosen number [line] []

section Cons

variable {chosen : Nat → Bool} {number : Nat} {c : Char} {rest : List Char}

/-- The character is the first of a line end. -/
def EndsLine (c : Char) (rest : List Char) : Prop :=
  c = '\n' ∨ (c = '\r' ∧ rest.head? = some '\n')

/-- Both recursions take such a character as part of a line. -/
theorem not_endsLine_iff : ¬ EndsLine c rest ↔
    (c = '\n' → False) ∧ ∀ more, c = '\r' → rest = '\n' :: more → False := by
  constructor
  · intro inside
    refine ⟨fun feed => inside (Or.inl feed), fun more ret feed => ?_⟩
    exact inside (Or.inr ⟨ret, by rw [feed, List.head?_cons]⟩)
  · rintro ⟨noFeed, noReturn⟩ (feed | ⟨ret, feed⟩)
    · exact noFeed feed
    · obtain ⟨more, followed⟩ := List.head?_eq_some_iff.mp feed
      exact noReturn more ret followed

theorem lines_cons (inside : ¬ EndsLine c rest) :
    lines (c :: rest) = match lines rest with
      | [] => [[c]]
      | line :: more => (c :: line) :: more :=
  lines.eq_4 c rest (not_endsLine_iff.mp inside).1 (not_endsLine_iff.mp inside).2

theorem blank_cons (inside : ¬ EndsLine c rest) :
    blank chosen number (c :: rest) =
      if chosen number then blank chosen number rest else c :: blank chosen number rest :=
  blank.eq_4 chosen number c rest (not_endsLine_iff.mp inside).1 (not_endsLine_iff.mp inside).2

theorem lines_eq_nil_iff {text : List Char} : lines text = [] ↔ text = [] := by
  constructor
  · intro none
    fun_cases lines text <;> simp_all [lines]
  · rintro rfl
    rfl

/-- A line that is not chosen goes on as it did. -/
theorem head?_blank (spared : chosen number = false) (text : List Char) :
    (blank chosen number text).head? = text.head? := by
  fun_cases blank chosen number text <;> simp_all

/-- What stood in a line that is blanked does not matter. -/
theorem Blanked.of_chosen (taken : chosen number = true) {line other : List Char}
    {rest blanked : List (List Char)}
    (was : Blanked chosen number (line :: rest) blanked) :
    Blanked chosen number (other :: rest) blanked := by
  cases was with
  | kept _ spared _ => rw [taken] at spared; cases spared
  | emptied _ _ later => exact .emptied other taken later
  | dropped _ _ => exact .dropped other taken

end Cons

/-- Blanking a text blanks its lines. -/
theorem blanked_lines (chosen : Nat → Bool) (number : Nat) (text : List Char) :
    Blanked chosen number (lines text) (lines (blank chosen number text)) := by
  fun_induction lines text generalizing number with
  | case1 => exact .nil number
  | case2 rest ih =>
      cases taken : chosen number with
      | true => exact .emptied [] taken (ih (number + 1))
      | false => exact .kept [] taken (ih (number + 1))
  | case3 rest ih =>
      cases taken : chosen number with
      | true => exact .emptied [] taken (ih (number + 1))
      | false => exact .kept [] taken (ih (number + 1))
  | case4 c rest feed ret none ih =>
      obtain rfl := lines_eq_nil_iff.mp none
      have inside : ¬ EndsLine c [] := not_endsLine_iff.mpr ⟨feed, ret⟩
      rw [blank_cons inside]
      cases taken : chosen number with
      | true => exact .dropped [c] taken
      | false =>
          rw [if_neg Bool.false_ne_true, blank, lines_cons inside]
          exact .kept [c] taken (.nil (number + 1))
  | case5 c rest feed ret line more first ih =>
      have inside : ¬ EndsLine c rest := not_endsLine_iff.mpr ⟨feed, ret⟩
      have later := ih number
      rw [first] at later
      rw [blank_cons inside]
      cases taken : chosen number with
      | true => exact later.of_chosen taken
      | false =>
          have stays : ¬ EndsLine c (blank chosen number rest) := by
            rw [EndsLine, head?_blank taken]
            exact inside
          rw [if_neg Bool.false_ne_true, lines_cons stays]
          -- The rest of this line is kept, since the line is not chosen.
          generalize lines (blank chosen number rest) = others at later ⊢
          cases later with
          | kept _ _ after => exact .kept (c :: line) taken after
          | emptied _ gone _ => rw [taken] at gone; cases gone
          | dropped _ gone => rw [taken] at gone; cases gone

end ClusterTopology.Text
