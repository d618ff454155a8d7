import ClusterTopology.Proofs.TemplateFile.Accepted

/-!
Reading one line.

The search for the form of a line with a record comes out at the first comma and nowhere else
(`occurs_recordForm_iff`), so a line has a tag and a record text in one way at most
(`Divided.unique`) and `cut?` finds them. `readAs` lists the four ways in which the reading of a
line can end. `parse_at_first_comma` says when it ends in each of them, and what a line may be
changed in without a difference.
-/

namespace ClusterTopology.TemplateFile

/-! ### The first comma -/

/-- The tag of a line stands before its first comma and has two characters or more, and the
text of its record stands after it and holds no line feed. -/
structure Divided (line tag record : List Char) : Prop where
  whole : line = tag ++ ',' :: record
  noComma : ',' ∉ tag
  long : 2 ≤ tag.length
  noFeed : '\n' ∉ record

section Divided

variable {line tag record : List Char}

theorem Divided.cutFirst? (divided : Divided line tag record) :
    Text.cutFirst? (· == ',') line = some (tag, record) :=
  Text.cutFirst?_mark_eq_some_iff.mpr ⟨divided.whole, divided.noComma⟩

theorem Divided.unique (divided : Divided line tag record) {other text : List Char}
    (also : Divided line other text) : other = tag ∧ text = record :=
  Prod.mk.inj (Option.some.inj (also.cutFirst?.symm.trans divided.cutFirst?))

/-- Wherever a search begins and however long the runs are that it tries, the form of a line
with a record is there only if its groups are on the two sides of the first comma. -/
theorem occurs_recordForm_iff {groups : List (List Char)} :
    recordForm.Occurs 0 line groups ↔
      ∃ tag record, groups = [tag, record] ∧ Divided line tag record := by
  constructor
  · rintro ⟨before, taken, rest, rfl, takes⟩
    cases takes with
    | andThen start takes =>
    cases start with
    | atStart first =>
    obtain rfl := List.length_eq_zero_iff.mp (Nat.eq_zero_of_add_eq_zero_left first)
    cases takes with
    | andThen tagged takes =>
    cases tagged with
    | group tagged =>
    cases tagged with
    | run noComma long =>
    cases takes with
    | andThen comma takes =>
    cases comma with
    | @one _ _ c _ comma =>
    obtain rfl := beq_iff_eq.mp comma
    cases takes with
    | andThen recorded stop =>
    cases recorded with
    | group recorded =>
    cases recorded with
    | run noFeed =>
    cases stop with
    | atEnd =>
    refine ⟨_, _, rfl, ?_, fun inside => ?_, long, fun inside => ?_⟩
    · simp
    · exact bne_iff_ne.mp (noComma _ inside) rfl
    · exact bne_iff_ne.mp (noFeed _ inside) rfl
  · rintro ⟨tag, record, rfl, rfl, noComma, long, noFeed⟩
    have tagged : ∀ c ∈ tag, (c != ',') = true := by
      rintro c inside
      exact bne_iff_ne.mpr fun same => noComma (same ▸ inside)
    have recorded : ∀ c ∈ record, (c != '\n') = true := by
      rintro c inside
      exact bne_iff_ne.mpr fun same => noFeed (same ▸ inside)
    have takes : recordForm.Takes 0 ([] ++ (tag ++ ([','] ++ (record ++ [])))) []
        ([] ++ ([tag] ++ ([] ++ ([record] ++ [])))) :=
      .andThen (.atStart rfl) (.andThen (.group (.run tagged long)) (.andThen (.one rfl)
        (.andThen (.group (.run recorded (Nat.zero_le _))) .atEnd)))
    exact ⟨[], _, [], by simp, takes⟩

/-- A line that is divided is found so, whatever its record text holds. -/
theorem find?_recordForm_iff :
    recordForm.find? line = some [tag, record] ↔ Divided line tag record := by
  constructor
  · intro found
    obtain ⟨_, _, same, divided⟩ := occurs_recordForm_iff.mp (Text.Pattern.occurs_of_find? found)
    cases same
    exact divided
  · intro divided
    have occurs := occurs_recordForm_iff.mpr ⟨tag, record, rfl, divided⟩
    refine (Text.Pattern.find?_eq_some_iff fun others also => ?_).mpr occurs
    obtain ⟨other, text, rfl, again⟩ := occurs_recordForm_iff.mp also
    obtain ⟨rfl, rfl⟩ := divided.unique again
    rfl

theorem cut?_eq_some_iff : cut? line = some (tag, record) ↔ Divided line tag record := by
  rw [← find?_recordForm_iff, cut?]
  constructor
  · intro cut
    split at cut
    · rename_i found
      cases cut
      exact found
    · cases cut
  · intro found
    rw [found]

end Divided

/-! ### How the reading ends -/

/-- A line holds a record under a tag: its record text is the one JSON text of the record, and
the tag is what stands before it without the blanks around it. -/
def Holds (raw : List Char) (tag : String) (record : Json) : Prop :=
  ∃ before after, Divided (Text.trim raw) before after ∧ Json.parse after = .ok record ∧
    tag = String.ofList (Text.trim before)

/-- The ways in which the reading of the line of that number can end. -/
inductive ReadAs (number : Nat) (raw : List Char) : Except Error Line → Prop where
  | ignored : Ignored raw → ReadAs number raw (.ok .ignored)
  | record {tag : String} {record : Json} : ¬ Ignored raw → Holds raw tag record →
      ReadAs number raw (.ok (.record tag record))
  | undivided : ¬ Ignored raw → (∀ before after, ¬ Divided (Text.trim raw) before after) →
      ReadAs number raw (.error (.malformedLine number "expected '<kind>, <json record>'"))
  | broken {before after : List Char} {error : Json.SyntaxError} : ¬ Ignored raw →
      Divided (Text.trim raw) before after → Json.parse after = .error error →
      ReadAs number raw
        (.error (.malformedLine number s!"invalid JSON record: {error.message}"))

section Reading

variable {number : Nat} {raw : List Char} {tag : String} {record : Json}

theorem readAs (number : Nat) (raw : List Char) : ReadAs number raw (Line.parse number raw) := by
  by_cases ignored : Ignored raw
  · have parsed : Line.parse number raw = .ok .ignored := if_pos ignored
    rw [parsed]
    exact .ignored ignored
  · have parsed : Line.parse number raw = _ := if_neg ignored
    rw [parsed]
    cases cut : cut? (Text.trim raw) with
    | none =>
        refine .undivided ignored fun before after divided => ?_
        rw [cut?_eq_some_iff.mpr divided] at cut
        cases cut
    | some parts =>
        obtain ⟨before, after⟩ := parts
        have divided := cut?_eq_some_iff.mp cut
        dsimp only
        cases value : Json.parse after with
        | error error => exact .broken ignored divided value
        | ok record => exact .record ignored ⟨before, after, divided, value, rfl⟩

/-- A line holds one record under one tag. -/
theorem Holds.unique (holds : Holds raw tag record) {other : String} {value : Json}
    (also : Holds raw other value) : other = tag ∧ value = record := by
  obtain ⟨before, after, divided, parsed, rfl⟩ := holds
  obtain ⟨front, back, alike, again, rfl⟩ := also
  obtain ⟨rfl, rfl⟩ := divided.unique alike
  exact ⟨rfl, Except.ok.inj (again.symm.trans parsed)⟩

theorem parse_eq_ignored_iff : Line.parse number raw = .ok .ignored ↔ Ignored raw := by
  refine ⟨fun parsed => ?_, fun ignored => if_pos ignored⟩
  have reading := readAs number raw
  rw [parsed] at reading
  cases reading
  assumption

theorem parse_eq_record_iff :
    Line.parse number raw = .ok (.record tag record) ↔ ¬ Ignored raw ∧ Holds raw tag record := by
  have reading := readAs number raw
  constructor
  · intro parsed
    rw [parsed] at reading
    cases reading with
    | record held holds => exact ⟨held, holds⟩
  · rintro ⟨held, holds⟩
    generalize Line.parse number raw = result at reading ⊢
    cases reading with
    | ignored ignored => exact absurd ignored held
    | record _ also =>
        obtain ⟨rfl, rfl⟩ := holds.unique also
        rfl
    | undivided _ undivided =>
        obtain ⟨before, after, divided, -⟩ := holds
        exact absurd divided (undivided before after)
    | broken _ divided refused =>
        obtain ⟨before, after, also, parsed, -⟩ := holds
        obtain ⟨rfl, rfl⟩ := divided.unique also
        cases refused.symm.trans parsed

theorem parse_eq_error_iff :
    (∃ reason, Line.parse number raw = .error (.malformedLine number reason)) ↔
      ¬ Ignored raw ∧ ∀ tag record, ¬ Holds raw tag record := by
  have reading := readAs number raw
  constructor
  · rintro ⟨reason, failed⟩
    refine ⟨fun ignored => ?_, fun tag record holds => ?_⟩
    · cases (parse_eq_ignored_iff.mpr ignored).symm.trans failed
    · rw [failed] at reading
      have held : ¬ Ignored raw := by cases reading <;> assumption
      cases (parse_eq_record_iff.mpr ⟨held, holds⟩).symm.trans failed
  · rintro ⟨held, nothing⟩
    generalize Line.parse number raw = result at reading ⊢
    cases reading with
    | ignored ignored => exact absurd ignored held
    | record _ holds => exact absurd holds (nothing _ _)
    | undivided => exact ⟨_, rfl⟩
    | broken => exact ⟨_, rfl⟩

/-- Of a line only what is between the blanks around it counts. -/
theorem parse_congr {other : List Char} (same : Text.trim other = Text.trim raw) :
    Line.parse number other = Line.parse number raw := by
  rw [Line.parse, Line.parse, same]

end Reading

/-- A line is ignored if it is blank or a comment. Otherwise it holds a record under a tag if
the text after its first comma is the text of the record, without a line feed, and there are
two characters or more before the comma; and if it holds none it is malformed, under its own
number. What the record text holds does not move the comma, and blanks around the line do not
change how it is read. -/
theorem parse_at_first_comma (number : Nat) (raw : List Char) :
    (Line.parse number raw = .ok .ignored ↔ Ignored raw) ∧
      (∀ tag record, Line.parse number raw = .ok (.record tag record) ↔
        ¬ Ignored raw ∧ Holds raw tag record) ∧
      ((∃ reason, Line.parse number raw = .error (.malformedLine number reason)) ↔
        ¬ Ignored raw ∧ ∀ tag record, ¬ Holds raw tag record) ∧
      (∀ tag record : List Char, ',' ∉ tag → 2 ≤ tag.length → '\n' ∉ record →
        recordForm.find? (tag ++ ',' :: record) = some [tag, record]) ∧
      ∀ front back : List Char, (∀ c ∈ front, Text.isBlank c = true) →
        (∀ c ∈ back, Text.isBlank c = true) →
        Line.parse number (front ++ raw ++ back) = Line.parse number raw := by
  refine ⟨parse_eq_ignored_iff, fun tag record => parse_eq_record_iff, parse_eq_error_iff, ?_, ?_⟩
  · intro tag record noComma long noFeed
    exact find?_recordForm_iff.mpr ⟨rfl, noComma, long, noFeed⟩
  · intro front back before after
    exact parse_congr (Text.trim_append before after raw)

/-- A quotation by itself is the text of a string. -/
theorem parse_quotation {text : List Char} {value : String}
    (body : Json.Quotation.body [] text = .ok (value, [])) :
    Json.parse ('"' :: text) = .ok (.string value) := by
  have read : (Json.value Json.greatestNesting).read ('"' :: text) = .ok (.string value, []) := by
    change (Json.Quotation.body [] text).map _ = _
    rw [body]
    rfl
  rw [Json.parse, read]
  rfl

/-- The tag is a letter and a blank, which counts, and the record text has a comma, a quotation
mark and a comment mark in it. -/
theorem parse_at_first_comma_quoted :
    let raw := "a ,\"b, \\\" #\"".toList
    let padded := ['\u3000'] ++ raw ++ ['\t']
    Line.parse 7 raw = .ok (.record "a" (.string "b, \" #")) ∧
      (¬ Ignored raw ∧ Holds raw "a" (.string "b, \" #")) ∧
      recordForm.find? raw = some ["a ".toList, "\"b, \\\" #\"".toList] ∧
      Line.parse 7 padded = Line.parse 7 raw := by
  intro raw padded
  obtain ⟨-, records, -, commas, blanks⟩ := parse_at_first_comma 7 raw
  have held : ¬ Ignored raw := not_or.mpr ⟨by decide, by decide⟩
  have divided : Divided (Text.trim raw) "a ".toList "\"b, \\\" #\"".toList :=
    ⟨rfl, by decide, by decide, by decide⟩
  have parsed : Json.parse "\"b, \\\" #\"".toList = .ok (.string "b, \" #") :=
    parse_quotation (by decide +kernel)
  have holds : Holds raw "a" (.string "b, \" #") := ⟨_, _, divided, parsed, rfl⟩
  refine ⟨(records _ _).mpr ⟨held, holds⟩, ⟨held, holds⟩, ?_, ?_⟩
  · exact commas _ _ divided.noComma divided.long divided.noFeed
  · exact blanks _ _ (List.forall_mem_singleton.mpr rfl) (List.forall_mem_singleton.mpr rfl)

end ClusterTopology.TemplateFile
