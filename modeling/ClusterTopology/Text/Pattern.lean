/-!
Patterns of text, and looking for them. `Pattern.Takes` says what a pattern takes at a place.
A search tries the places of a text from the first one on, and at each place the ways to match
in a fixed order, a run of characters being as long as it can be at first. The first way that
there is counts, and what is wanted of it are the texts of its groups (`Pattern.find?`).
`find?_eq_some_iff` says which texts these are where the pattern leaves no choice.
-/

namespace ClusterTopology.Text

/-- A place in a text: how many characters stand before it, and those after it. -/
@[ext]
structure Place where
  passed : Nat
  rest : List Char

/-- What stands between two places of a text. -/
structure Stretch where
  start : Place
  stop : Place

def Stretch.text (stretch : Stretch) : List Char :=
  stretch.start.rest.take (stretch.stop.passed - stretch.start.passed)

/-- A form that text may have. -/
inductive Pattern where
  /-- No character, at the start of the text only. -/
  | atStart
  /-- No character, at the end of the text only. -/
  | atEnd
  /-- One character of a class. -/
  | one (accepts : Char → Bool)
  /-- Characters of a class, of which there are to be that many or more. -/
  | run (least : Nat) (accepts : Char → Bool)
  /-- One pattern and then another. -/
  | andThen (first second : Pattern)
  /-- A pattern whose text is wanted. -/
  | group (inner : Pattern)

namespace Pattern

/-- At a place with that many characters before it and `rest` after what is taken, a pattern
takes `taken`; `groups` are the texts of its groups, in the order in which they begin. -/
inductive Takes :
    Pattern → (passed : Nat) → (taken rest : List Char) → (groups : List (List Char)) → Prop where
  | atStart {passed : Nat} {rest : List Char} : passed = 0 → Takes .atStart passed [] rest []
  | atEnd {passed : Nat} : Takes .atEnd passed [] [] []
  | one {accepts : Char → Bool} {passed : Nat} {c : Char} {rest : List Char} :
      accepts c = true → Takes (.one accepts) passed [c] rest []
  | run {least : Nat} {accepts : Char → Bool} {passed : Nat} {taken rest : List Char} :
      (∀ c ∈ taken, accepts c = true) → least ≤ taken.length →
      Takes (.run least accepts) passed taken rest []
  | andThen {first second : Pattern} {passed : Nat} {taken more rest : List Char}
      {groups others : List (List Char)} : Takes first passed taken (more ++ rest) groups →
      Takes second (passed + taken.length) more rest others →
      Takes (.andThen first second) passed (taken ++ more) rest (groups ++ others)
  | group {inner : Pattern} {passed : Nat} {taken rest : List Char}
      {groups : List (List Char)} : Takes inner passed taken rest groups →
      Takes (.group inner) passed taken rest (taken :: groups)

/-- One way in which a pattern matches from a place: its groups and where it stops. -/
structure Way where
  groups : List Stretch
  stop : Place

/-- The places at which a run of characters can stop, the farthest first, and after them those
already passed. -/
def runStops (accepts : Char → Bool) :
    (least passed : Nat) → (nearer : List Place) → List Char → List Place
  | least, passed, nearer, [] => if least = 0 then ⟨passed, []⟩ :: nearer else nearer
  | least, passed, nearer, c :: rest =>
    let stops := if least = 0 then ⟨passed, c :: rest⟩ :: nearer else nearer
    if accepts c then runStops accepts (least - 1) (passed + 1) stops rest else stops

/-- The ways in which a pattern matches from a place, in the order in which they are tried. -/
def ways : Pattern → Place → List Way
  | .atStart, place => if place.passed = 0 then [⟨[], place⟩] else []
  | .atEnd, place => if place.rest.isEmpty then [⟨[], place⟩] else []
  | .one accepts, ⟨passed, text⟩ =>
    match text with
    | [] => []
    | c :: rest => if accepts c then [⟨[], ⟨passed + 1, rest⟩⟩] else []
  | .run least accepts, place =>
    (runStops accepts least place.passed [] place.rest).map fun stop => ⟨[], stop⟩
  | .andThen first second, place =>
    (first.ways place).flatMap fun way =>
      (second.ways way.stop).map fun more => ⟨way.groups ++ more.groups, more.stop⟩
  | .group inner, place =>
    (inner.ways place).map fun way => ⟨⟨place, way.stop⟩ :: way.groups, way.stop⟩

/-- The first way from the first place that there is one from. -/
def findFrom (pattern : Pattern) (passed : Nat) : List Char → Option Way
  | [] => (pattern.ways ⟨passed, []⟩).head?
  | c :: rest =>
    match (pattern.ways ⟨passed, c :: rest⟩).head? with
    | some way => some way
    | none => findFrom pattern (passed + 1) rest

/-- Look for a pattern in a text. The texts of its groups are found. -/
def find? (pattern : Pattern) (text : List Char) : Option (List (List Char)) :=
  (pattern.findFrom 0 text).map fun way => way.groups.map Stretch.text

/-- With that many characters before a text, the pattern takes some of the text, and the texts
of its groups are these. -/
def Occurs (pattern : Pattern) (passed : Nat) (text : List Char) (groups : List (List Char)) :
    Prop :=
  ∃ before taken rest, text = before ++ (taken ++ rest) ∧
    pattern.Takes (passed + before.length) taken rest groups

/-! ### What is found -/

/-- A run of that many characters or more can lead from one place to the other. -/
def Leads (accepts : Char → Bool) (least : Nat) (place stop : Place) : Prop :=
  ∃ taken, place.rest = taken ++ stop.rest ∧ stop.passed = place.passed + taken.length ∧
    (∀ c ∈ taken, accepts c = true) ∧ least ≤ taken.length

section Leads

variable {accepts : Char → Bool} {least passed : Nat} {c : Char} {rest : List Char} {stop : Place}

theorem leads_nil_iff :
    Leads accepts least ⟨passed, []⟩ stop ↔ least = 0 ∧ stop = ⟨passed, []⟩ := by
  constructor
  · rintro ⟨taken, whole, reached, -, enough⟩
    obtain ⟨rfl, left⟩ := List.append_eq_nil_iff.mp whole.symm
    exact ⟨Nat.le_zero.mp enough, Place.ext reached left⟩
  · rintro ⟨rfl, rfl⟩
    exact ⟨[], rfl, rfl, nofun, Nat.le_refl 0⟩

/-- A run stops where it is, or it takes the next character. -/
theorem leads_cons_iff :
    Leads accepts least ⟨passed, c :: rest⟩ stop ↔
      (least = 0 ∧ stop = ⟨passed, c :: rest⟩) ∨
        (accepts c = true ∧ Leads accepts (least - 1) ⟨passed + 1, rest⟩ stop) := by
  constructor
  · rintro ⟨taken, whole, reached, clean, enough⟩
    cases taken with
    | nil => exact Or.inl ⟨Nat.le_zero.mp enough, Place.ext reached whole.symm⟩
    | cons d more =>
        obtain ⟨rfl, left⟩ := List.cons.inj whole
        rw [List.forall_mem_cons] at clean
        rw [List.length_cons] at reached enough
        refine Or.inr ⟨clean.1, more, left, ?_, clean.2, by omega⟩
        rw [reached, Nat.add_right_comm, Nat.add_assoc]
  · rintro (⟨rfl, rfl⟩ | ⟨accepted, taken, left, reached, clean, enough⟩)
    · exact ⟨[], rfl, rfl, nofun, Nat.le_refl 0⟩
    · refine ⟨c :: taken, congrArg (c :: ·) left, ?_, ?_, ?_⟩
      · rw [reached, List.length_cons, Nat.add_right_comm, Nat.add_assoc]
      · exact List.forall_mem_cons.mpr ⟨accepted, clean⟩
      · rw [List.length_cons]
        omega

theorem mem_runStops_iff {nearer : List Place} {text : List Char} :
    stop ∈ runStops accepts least passed nearer text ↔
      stop ∈ nearer ∨ Leads accepts least ⟨passed, text⟩ stop := by
  have here : ∀ {least passed : Nat} {nearer : List Place} {text : List Char},
      (stop ∈ if least = 0 then ⟨passed, text⟩ :: nearer else nearer) ↔
        stop ∈ nearer ∨ (least = 0 ∧ stop = ⟨passed, text⟩) := by
    intro least passed nearer text
    split
    · rename_i enough
      simp only [List.mem_cons, enough, true_and, or_comm]
    · rename_i more
      simp only [more, false_and, or_false]
  induction text generalizing least passed nearer with
  | nil => rw [runStops, here, leads_nil_iff]
  | cons c rest ih =>
      rw [runStops, leads_cons_iff]
      split
      · rename_i accepted
        refine ih.trans ?_
        rw [here, or_assoc]
        simp only [accepted, true_and]
      · rename_i refused
        rw [here]
        simp only [refused, Bool.false_eq_true, false_and, or_false]

end Leads

section Ways

variable {pattern : Pattern} {place : Place} {way : Way}

/-- A way takes what stands before the place where it stops. -/
theorem takes_of_mem_ways (member : way ∈ pattern.ways place) :
    ∃ taken, place.rest = taken ++ way.stop.rest ∧
      way.stop.passed = place.passed + taken.length ∧
      pattern.Takes place.passed taken way.stop.rest (way.groups.map Stretch.text) := by
  induction pattern generalizing place way with
  | atStart =>
      rw [ways] at member
      split at member
      · rename_i first
        obtain rfl := List.mem_singleton.mp member
        exact ⟨[], rfl, rfl, .atStart first⟩
      · cases member
  | atEnd =>
      rw [ways] at member
      split at member
      · rename_i last
        obtain rfl := List.mem_singleton.mp member
        dsimp only
        rw [List.isEmpty_iff.mp last]
        exact ⟨[], rfl, rfl, .atEnd⟩
      · cases member
  | one accepts =>
      obtain ⟨passed, text⟩ := place
      cases text with
      | nil => cases member
      | cons c rest =>
          rw [ways] at member
          split at member
          · rename_i accepted
            obtain rfl := List.mem_singleton.mp member
            exact ⟨[c], rfl, rfl, .one accepted⟩
          · cases member
  | run least accepts =>
      obtain ⟨stop, reached, rfl⟩ := List.mem_map.mp member
      rcases mem_runStops_iff.mp reached with none | ⟨taken, whole, passed, clean, enough⟩
      · cases none
      · exact ⟨taken, whole, passed, .run clean enough⟩
  | andThen first second ihFirst ihSecond =>
      obtain ⟨way, begun, member⟩ := List.mem_flatMap.mp member
      obtain ⟨last, ended, rfl⟩ := List.mem_map.mp member
      obtain ⟨taken, whole, passed, takes⟩ := ihFirst begun
      obtain ⟨more, left, further, takesMore⟩ := ihSecond ended
      refine ⟨taken ++ more, ?_, ?_, ?_⟩
      · rw [whole, left, List.append_assoc]
      · rw [further, passed, List.length_append, Nat.add_assoc]
      · rw [left] at takes
        rw [passed] at takesMore
        rw [List.map_append]
        exact .andThen takes takesMore
  | group inner ih =>
      obtain ⟨way, inside, rfl⟩ := List.mem_map.mp member
      obtain ⟨taken, whole, passed, takes⟩ := ih inside
      have same : (Stretch.mk place way.stop).text = taken := by
        rw [Stretch.text, whole, passed, Nat.add_sub_cancel_left, List.take_left]
      refine ⟨taken, whole, passed, ?_⟩
      rw [List.map_cons, same]
      exact .group takes

/-- What a pattern takes is taken by one of its ways. -/
theorem exists_mem_ways {passed : Nat} {taken rest : List Char} {groups : List (List Char)}
    (takes : pattern.Takes passed taken rest groups) :
    ∃ way ∈ pattern.ways ⟨passed, taken ++ rest⟩,
      way.stop = ⟨passed + taken.length, rest⟩ ∧ way.groups.map Stretch.text = groups := by
  induction takes with
  | atStart first =>
      refine ⟨⟨[], _⟩, ?_, rfl, rfl⟩
      rw [ways, if_pos first]
      exact List.mem_cons_self
  | atEnd => exact ⟨⟨[], _⟩, List.mem_cons_self, rfl, rfl⟩
  | one accepted =>
      refine ⟨⟨[], _⟩, ?_, rfl, rfl⟩
      rw [List.singleton_append, ways, if_pos accepted]
      exact List.mem_cons_self
  | run clean enough =>
      refine ⟨⟨[], _⟩, List.mem_map.mpr ⟨_, ?_, rfl⟩, rfl, rfl⟩
      exact mem_runStops_iff.mpr (Or.inr ⟨_, rfl, rfl, clean, enough⟩)
  | @andThen first second passed taken more rest groups others _ _ ihFirst ihSecond =>
      obtain ⟨way, begun, stop, texts⟩ := ihFirst
      obtain ⟨last, ended, stopLast, textsLast⟩ := ihSecond
      refine ⟨⟨way.groups ++ last.groups, last.stop⟩, ?_, ?_, ?_⟩
      · rw [List.append_assoc]
        refine List.mem_flatMap.mpr ⟨way, begun, List.mem_map.mpr ⟨last, ?_, rfl⟩⟩
        rw [stop]
        exact ended
      · rw [stopLast, List.length_append, Nat.add_assoc]
      · rw [List.map_append, texts, textsLast]
  | @group inner passed taken rest groups _ ih =>
      obtain ⟨way, inside, stop, texts⟩ := ih
      refine ⟨_, List.mem_map.mpr ⟨way, inside, rfl⟩, stop, ?_⟩
      rw [List.map_cons, texts, Stretch.text, stop, Nat.add_sub_cancel_left, List.take_left]

theorem takes_of_head? {passed : Nat} {text : List Char}
    (first : (pattern.ways ⟨passed, text⟩).head? = some way) :
    ∃ taken rest, text = taken ++ rest ∧
      pattern.Takes passed taken rest (way.groups.map Stretch.text) := by
  obtain ⟨taken, whole, -, takes⟩ := takes_of_mem_ways (List.mem_of_mem_head? first)
  exact ⟨taken, way.stop.rest, whole, takes⟩

theorem not_takes_of_head? {passed : Nat} {taken rest : List Char} {groups : List (List Char)}
    (none : (pattern.ways ⟨passed, taken ++ rest⟩).head? = none) :
    ¬ pattern.Takes passed taken rest groups := by
  intro takes
  obtain ⟨way, member, -⟩ := exists_mem_ways takes
  rw [List.head?_eq_none_iff.mp none] at member
  cases member

end Ways

section Search

variable {pattern : Pattern} {passed : Nat} {text : List Char} {groups : List (List Char)}

theorem occurs_nil_iff : pattern.Occurs passed [] groups ↔ pattern.Takes passed [] [] groups := by
  constructor
  · rintro ⟨before, taken, rest, whole, takes⟩
    obtain ⟨rfl, left⟩ := List.append_eq_nil_iff.mp whole.symm
    obtain ⟨rfl, rfl⟩ := List.append_eq_nil_iff.mp left
    exact takes
  · intro takes
    exact ⟨[], [], [], rfl, takes⟩

/-- A pattern takes what is next, or it takes something further on. -/
theorem occurs_cons_iff {c : Char} :
    pattern.Occurs passed (c :: text) groups ↔
      (∃ taken rest, c :: text = taken ++ rest ∧ pattern.Takes passed taken rest groups) ∨
        pattern.Occurs (passed + 1) text groups := by
  have further : ∀ before : List Char,
      passed + (c :: before).length = passed + 1 + before.length := by
    intro before
    rw [List.length_cons]
    omega
  constructor
  · rintro ⟨before, taken, rest, whole, takes⟩
    cases before with
    | nil => exact Or.inl ⟨taken, rest, whole, takes⟩
    | cons b before =>
        obtain ⟨rfl, left⟩ := List.cons.inj whole
        rw [further] at takes
        exact Or.inr ⟨before, taken, rest, left, takes⟩
  · rintro (⟨taken, rest, whole, takes⟩ | ⟨before, taken, rest, rfl, takes⟩)
    · exact ⟨[], taken, rest, whole, takes⟩
    · rw [← further] at takes
      exact ⟨c :: before, taken, rest, rfl, takes⟩

theorem occurs_of_findFrom {way : Way} (found : pattern.findFrom passed text = some way) :
    pattern.Occurs passed text (way.groups.map Stretch.text) := by
  induction text generalizing passed with
  | nil =>
      obtain ⟨taken, rest, whole, takes⟩ := takes_of_head? found
      obtain ⟨rfl, rfl⟩ := List.append_eq_nil_iff.mp whole.symm
      exact occurs_nil_iff.mpr takes
  | cons c text ih =>
      rw [findFrom] at found
      rw [occurs_cons_iff]
      cases first : (pattern.ways ⟨passed, c :: text⟩).head? with
      | some other =>
          rw [first] at found
          obtain rfl := Option.some.inj found
          exact Or.inl (takes_of_head? first)
      | none =>
          rw [first] at found
          exact Or.inr (ih found)

/-- No way is left out: a search that finds nothing leaves nothing to be found. -/
theorem not_occurs_of_findFrom (nothing : pattern.findFrom passed text = none) :
    ¬ pattern.Occurs passed text groups := by
  induction text generalizing passed with
  | nil =>
      rw [occurs_nil_iff]
      exact not_takes_of_head? nothing
  | cons c text ih =>
      rw [findFrom] at nothing
      rw [occurs_cons_iff]
      cases first : (pattern.ways ⟨passed, c :: text⟩).head? with
      | some way =>
          rw [first] at nothing
          cases nothing
      | none =>
          rw [first] at nothing
          rintro (⟨taken, rest, whole, takes⟩ | later)
          · rw [whole] at first
            exact not_takes_of_head? first takes
          · exact ih nothing later

theorem occurs_of_find? (found : pattern.find? text = some groups) :
    pattern.Occurs 0 text groups := by
  obtain ⟨way, first, rfl⟩ := Option.map_eq_some_iff.mp found
  exact occurs_of_findFrom first

/-- A search finds nothing exactly where there is nothing to be found. -/
theorem find?_eq_none_iff :
    pattern.find? text = none ↔ ∀ groups, ¬ pattern.Occurs 0 text groups := by
  rw [find?, Option.map_eq_none_iff]
  constructor
  · intro nothing groups
    exact not_occurs_of_findFrom nothing
  · intro nowhere
    cases found : pattern.findFrom 0 text with
    | none => rfl
    | some way => exact absurd (occurs_of_findFrom found) (nowhere _)

/-- Where there is only one choice of groups, a search finds it if it is there. -/
theorem find?_eq_some_iff
    (one : ∀ others, pattern.Occurs 0 text others → others = groups) :
    pattern.find? text = some groups ↔ pattern.Occurs 0 text groups := by
  refine ⟨occurs_of_find?, fun occurs => ?_⟩
  cases found : pattern.find? text with
  | some others => rw [one others (occurs_of_find? found)]
  | none => exact absurd occurs (find?_eq_none_iff.mp found groups)

end Search

end Pattern

end ClusterTopology.Text
