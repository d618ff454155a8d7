import ClusterTopology.Proofs.TemplateFile.Accepted
import ClusterTopology.Proofs.Text.Blanking

/-!
The account of a load.

`reason?` says why a line is rejected, whatever its number and whatever is in the store, and
`ruled` what each verdict on a line says about it. So a load rejects each line that has a
reason once, in order and by its place (`rejected_loadLines`), and every line is ignored,
accepted or rejected. Blanking lines out of a text that are not accepted takes their errors
away and leaves all else as it was (`rejections_blanked`). `load_accounts` says both of a whole
text.
-/

namespace ClusterTopology

/-- The number of the line that is at fault. -/
def Error.line? : Error → Option Nat
  | .malformedLine line _ => some line
  | _ => none

namespace TemplateFile

/-! ### Rejected lines -/

instance : DecidablePred Ignored := fun raw =>
  inferInstanceAs (Decidable (Text.trim raw = [] ∨ (Text.trim raw).head? = some commentMark))

/-- Why a line is rejected, if it is. -/
def reason? (raw : List Char) : Option String :=
  if Ignored raw then none
  else match cut? (Text.trim raw) with
    | none => some "expected '<kind>, <json record>'"
    | some (_, text) =>
      match Json.parse text with
      | .error error => some s!"invalid JSON record: {error.message}"
      | .ok record =>
        match Template.accept record with
        | .error error => some error.message
        | .ok _ => none

/-- The error for a line and its number, if the line is rejected. -/
def rejection? (line : List Char × Nat) : Option Error :=
  (reason? line.1).map (Error.malformedLine line.2)

section Line

variable {store : Store} {number : Nat} {raw : List Char}

/-- A line is rejected for its reason and by its number, whatever the store. -/
theorem judge_eq_rejected_iff {error : Error} :
    judge store number raw = .rejected error ↔ rejection? (raw, number) = some error := by
  by_cases ignored : Ignored raw
  · have parsed : Line.parse number raw = .ok .ignored := if_pos ignored
    rw [judge, parsed, rejection?, reason?, if_pos ignored]
    simp
  · have parsed : Line.parse number raw = _ := if_neg ignored
    rw [judge, parsed, rejection?, reason?, if_neg ignored]
    cases cut? (Text.trim raw) with
    | none => simp
    | some parts =>
        dsimp only
        cases Json.parse parts.2 with
        | error error => simp
        | ok record =>
            dsimp only
            cases described : Template.accept record with
            | error error => simp [Store.add, described, bind, Except.bind]
            | ok template => simp [Store.add, described, bind, Except.bind, pure, Except.pure]

/-- A line that passes has no reason to be rejected. -/
theorem reason?_eq_none (store : Store) (number : Nat)
    (passes : ∀ error, judge store number raw ≠ .rejected error) : reason? raw = none := by
  cases why : reason? raw with
  | none => rfl
  | some reason =>
      have rejected : rejection? (raw, number) = some (.malformedLine number reason) := by
        rw [rejection?, why]
        rfl
      exact absurd (judge_eq_rejected_iff.mpr rejected) (passes _)

/-- What the verdict on the line of that number says about it. -/
inductive Ruled (store : Store) (number : Nat) (raw : List Char) : Verdict → Prop where
  | ignored : Ignored raw → template? raw = none → reason? raw = none →
      Ruled store number raw .ignored
  | accepted {tag : String} {template : Template} : ¬ Ignored raw →
      template? raw = some template → reason? raw = none → Ruled store number raw
        (.accepted tag ⟨store.insert template, template.kind, store.insertNotices template⟩)
  | rejected {reason : String} : ¬ Ignored raw → template? raw = none →
      reason? raw = some reason →
      Ruled store number raw (.rejected (.malformedLine number reason))

theorem ruled (store : Store) (number : Nat) (raw : List Char) :
    Ruled store number raw (judge store number raw) := by
  have verdict := judged store number raw
  have passes : (∀ error, judge store number raw ≠ .rejected error) → reason? raw = none :=
    reason?_eq_none store number
  have rejects : ∀ error, judge store number raw = .rejected error →
      rejection? (raw, number) = some error := fun _ => judge_eq_rejected_iff.mp
  generalize judge store number raw = ruling at verdict passes rejects ⊢
  cases verdict with
  | ignored ignored =>
      refine .ignored ignored (template?_eq_none ignored) (passes ?_)
      intro error wrong
      cases wrong
  | accepted holds =>
      refine .accepted ?_ holds (passes ?_)
      · intro ignored
        rw [template?_eq_none ignored] at holds
        cases holds
      · intro error wrong
        cases wrong
  | rejected held nothing =>
      obtain ⟨reason, why, rfl⟩ := Option.map_eq_some_iff.mp (rejects _ rfl)
      exact .rejected held nothing why

/-- A line is ignored, or it is accepted, or it is rejected, and only one of these. -/
theorem ignored_or_accepted_or_rejected (raw : List Char) :
    (Ignored raw ∧ template? raw = none ∧ reason? raw = none) ∨
      (¬ Ignored raw ∧ (template? raw).isSome = true ∧ reason? raw = none) ∨
      (¬ Ignored raw ∧ template? raw = none ∧ (reason? raw).isSome = true) := by
  have verdict := ruled .empty 0 raw
  generalize judge .empty 0 raw = ruling at verdict
  cases verdict with
  | ignored ignored nothing silent => exact Or.inl ⟨ignored, nothing, silent⟩
  | accepted held holds silent =>
      exact Or.inr (Or.inl ⟨held, Option.isSome_of_eq_some holds, silent⟩)
  | rejected held nothing why =>
      exact Or.inr (Or.inr ⟨held, nothing, Option.isSome_of_eq_some why⟩)

/-- No line is left out and none is counted twice. -/
theorem length_eq_countP_add (lines : List (List Char)) :
    lines.length = lines.countP (fun raw => Ignored raw) +
      lines.countP (fun raw => (template? raw).isSome) +
      lines.countP (fun raw => (reason? raw).isSome) := by
  induction lines with
  | nil => rfl
  | cons raw lines ih =>
      simp only [List.length_cons, List.countP_cons]
      rcases ignored_or_accepted_or_rejected raw with
        ⟨ignored, nothing, noReason⟩ | ⟨held, accepted, noReason⟩ | ⟨held, nothing, rejected⟩
      · simp only [ignored, nothing, noReason, decide_true, Option.isSome_none, if_true,
          Bool.false_eq_true, if_false]
        omega
      · simp only [held, accepted, noReason, decide_false, Option.isSome_none, if_true,
          Bool.false_eq_true, if_false]
        omega
      · simp only [held, nothing, rejected, decide_false, Option.isSome_none, if_true,
          Bool.false_eq_true, if_false]
        omega

end Line

/-- The errors for the rejected ones of these lines, in order. The first line has that
number. -/
def rejections (number : Nat) (lines : List (List Char)) : List Error :=
  (lines.zipIdx number).filterMap rejection?

theorem rejections_cons (number : Nat) (raw : List Char) (lines : List (List Char)) :
    rejections number (raw :: lines) =
      (rejection? (raw, number)).toList ++ rejections (number + 1) lines := by
  rw [rejections, List.zipIdx_cons, List.filterMap_cons]
  cases rejection? (raw, number) <;> rfl

/-- An error names the place of a line that is rejected. -/
theorem mem_rejections_iff {number : Nat} {lines : List (List Char)} {error : Error} :
    error ∈ rejections number lines ↔ ∃ place raw reason, lines[place]? = some raw ∧
      reason? raw = some reason ∧ error = .malformedLine (number + place) reason := by
  rw [rejections, List.mem_filterMap]
  constructor
  · rintro ⟨⟨raw, line⟩, member, given⟩
    obtain ⟨reason, why, rfl⟩ := Option.map_eq_some_iff.mp given
    obtain ⟨reached, rawAt⟩ := List.mk_mem_zipIdx_iff_le_and_getElem?_sub.mp member
    exact ⟨line - number, raw, reason, rawAt, why, by rw [Nat.add_sub_cancel' reached]⟩
  · rintro ⟨place, raw, reason, rawAt, why, rfl⟩
    refine ⟨(raw, number + place), ?_, ?_⟩
    · refine List.mk_mem_zipIdx_iff_le_and_getElem?_sub.mpr ⟨Nat.le_add_right _ _, ?_⟩
      rwa [Nat.add_sub_cancel_left]
    · rw [rejection?, why]
      rfl

/-- The errors name lines further and further down. -/
theorem pairwise_line_rejections (number : Nat) (lines : List (List Char)) :
    ((rejections number lines).filterMap Error.line?).Pairwise (· < ·) := by
  induction lines generalizing number with
  | nil => exact .nil
  | cons raw lines ih =>
      rw [rejections_cons, List.filterMap_append, List.pairwise_append]
      refine ⟨?_, ih (number + 1), ?_⟩
      · rw [rejection?]
        cases reason? raw with
        | none => exact .nil
        | some reason => exact List.pairwise_singleton _ _
      · intro first here later there
        obtain ⟨error, member, named⟩ := List.mem_filterMap.mp there
        obtain ⟨place, below, reason, -, -, rfl⟩ := mem_rejections_iff.mp member
        obtain rfl := Option.some.inj named
        rw [rejection?] at here
        cases why : reason? raw with
        | none => rw [why] at here; cases here
        | some reason =>
            rw [why] at here
            obtain rfl : first = number := List.mem_singleton.mp here
            omega

theorem length_rejections (number : Nat) (lines : List (List Char)) :
    (rejections number lines).length = lines.countP fun raw => (reason? raw).isSome := by
  induction lines generalizing number with
  | nil => rfl
  | cons raw lines ih =>
      rw [rejections_cons, List.length_append, ih, List.countP_cons, rejection?, Nat.add_comm]
      cases reason? raw <;> rfl

/-! ### The load -/

theorem rejected_loadLines (store : Store) (number : Nat) (lines : List (List Char)) :
    (loadLines store number lines).report.rejected = rejections number lines := by
  induction lines generalizing store number with
  | nil => rfl
  | cons raw lines ih =>
      have verdict := ruled store number raw
      rw [loadLines, rejections_cons, rejection?]
      generalize judge store number raw = ruling at verdict ⊢
      cases verdict with
      | ignored _ _ silent =>
          rw [silent]
          exact ih store (number + 1)
      | accepted _ _ silent =>
          rw [silent]
          exact ih (store.insert _) (number + 1)
      | rejected _ _ why =>
          rw [why]
          exact congrArg _ (ih store (number + 1))

theorem records_loadLines (store : Store) (number : Nat) (lines : List (List Char)) :
    (loadLines store number lines).report.records =
      lines.countP fun raw => (template? raw).isSome := by
  induction lines generalizing store number with
  | nil => rfl
  | cons raw lines ih =>
      have verdict := ruled store number raw
      rw [loadLines, List.countP_cons]
      generalize judge store number raw = ruling at verdict ⊢
      cases verdict with
      | ignored _ nothing =>
          rw [nothing]
          exact ih store (number + 1)
      | accepted _ holds =>
          rw [holds]
          exact congrArg (· + 1) (ih (store.insert _) (number + 1))
      | rejected _ nothing =>
          rw [nothing]
          exact ih store (number + 1)

/-! ### The account -/

/-- How a load into a store accounts for lines. -/
structure Accounts (store : Store) (lines : List (List Char)) (load : Load) : Prop where
  /-- A line is ignored, or it is accepted, or it is rejected, and only one of these. -/
  one_of_three : ∀ raw ∈ lines,
    (Ignored raw ∧ template? raw = none ∧ reason? raw = none) ∨
      (¬ Ignored raw ∧ (template? raw).isSome = true ∧ reason? raw = none) ∨
      (¬ Ignored raw ∧ template? raw = none ∧ (reason? raw).isSome = true)
  complete : lines.length = lines.countP (fun raw => Ignored raw) + load.report.records +
    load.report.rejected.length
  records_eq : load.report.records = lines.countP fun raw => (template? raw).isSome
  length_rejected : load.report.rejected.length = lines.countP fun raw => (reason? raw).isSome
  /-- The errors are those for the rejected lines, in order, each with the place of its line
  counted from one. -/
  rejected_eq : load.report.rejected = rejections 1 lines
  increasing : (load.report.rejected.filterMap Error.line?).Pairwise (· < ·)
  /-- The templates of the accepted lines are put into the store in order. -/
  store_eq : load.store = store.insertAll (lines.filterMap template?)

theorem accounts_load (store : Store) (text : String) :
    Accounts store (Text.lines text.toList) (load store text) where
  one_of_three := fun raw _ => ignored_or_accepted_or_rejected raw
  complete := by
    rw [load, records_loadLines, rejected_loadLines, length_rejections]
    exact length_eq_countP_add _
  records_eq := records_loadLines store 1 _
  length_rejected := by
    rw [load, rejected_loadLines, length_rejections]
  rejected_eq := rejected_loadLines store 1 _
  increasing := by
    rw [load, rejected_loadLines]
    exact pairwise_line_rejections 1 _
  store_eq := store_loadLines store 1 _

/-! ### Blanked lines -/

section Blanked

variable {chosen : Nat → Bool} {number : Nat} {lines others : List (List Char)}

/-- A line without characters is ignored. -/
theorem ignored_nil : Ignored [] := Or.inl rfl

/-- The errors of the lines that are blanked are taken away. -/
theorem rejections_blanked (blanked : Text.Blanked chosen number lines others) :
    rejections number others =
      (rejections number lines).filter fun error => !error.line?.any chosen := by
  have own : ∀ number raw, (rejection? (raw, number)).toList.filter
      (fun error => !error.line?.any chosen) =
        if chosen number = true then [] else (rejection? (raw, number)).toList := by
    intro number raw
    rw [rejection?]
    cases reason? raw with
    | none => simp
    | some reason => cases taken : chosen number <;> simp [Error.line?, taken]
  induction blanked with
  | nil number => rfl
  | kept line spared _ ih =>
      rw [rejections_cons, rejections_cons, List.filter_append, own, spared, ih]
      rfl
  | emptied line taken _ ih =>
      have bare : ∀ number, rejection? ([], number) = none := by
        intro number
        rw [rejection?, reason?, if_pos ignored_nil, Option.map_none]
      rw [rejections_cons, rejections_cons, List.filter_append, own, if_pos taken, ih, bare]
      rfl
  | dropped line taken =>
      rw [rejections_cons, List.filter_append, own, if_pos taken]
      rfl

/-- If none of the lines that are blanked is accepted, the same templates are taken in. -/
theorem filterMap_template?_blanked (blanked : Text.Blanked chosen number lines others)
    (spared : ∀ line ∈ lines.zipIdx number, chosen line.2 = true → template? line.1 = none) :
    others.filterMap template? = lines.filterMap template? := by
  induction blanked with
  | nil number => rfl
  | kept line _ _ ih =>
      rw [List.zipIdx_cons, List.forall_mem_cons] at spared
      rw [List.filterMap_cons, List.filterMap_cons, ih spared.2]
  | emptied line taken _ ih =>
      rw [List.zipIdx_cons, List.forall_mem_cons] at spared
      rw [List.filterMap_cons_none (template?_eq_none ignored_nil),
        List.filterMap_cons_none (spared.1 taken), ih spared.2]
  | dropped line taken =>
      rw [List.zipIdx_cons, List.forall_mem_cons] at spared
      rw [List.filterMap_cons_none (spared.1 taken)]

end Blanked

/-- A load accounts for every line of a text. Blanking out lines that are not accepted changes
neither the store nor the number of records, and takes away the errors of these lines and no
others, which go on naming the lines that they named. -/
theorem load_accounts (store : Store) (text : String) :
    let lines := Text.lines text.toList
    let loaded := load store text
    Accounts store lines loaded ∧
      ∀ chosen : Nat → Bool,
        (∀ line ∈ lines.zipIdx 1, chosen line.2 = true → template? line.1 = none) →
        let blanked := load store (Text.blankOut chosen text)
        blanked.store = loaded.store ∧ blanked.report.records = loaded.report.records ∧
          blanked.report.rejected =
            loaded.report.rejected.filter fun error => !error.line?.any chosen := by
  intro lines loaded
  have account : Accounts store lines loaded := accounts_load store text
  refine ⟨account, ?_⟩
  intro chosen spared blanked
  have again := accounts_load store (Text.blankOut chosen text)
  have blankedLines : Text.Blanked chosen 1 lines
      (Text.lines (Text.blankOut chosen text).toList) := by
    rw [Text.blankOut, String.toList_ofList]
    exact Text.blanked_lines chosen 1 text.toList
  have templates := filterMap_template?_blanked blankedLines spared
  refine ⟨?_, ?_, ?_⟩
  · rw [again.store_eq, account.store_eq, templates]
  · have counted := congrArg List.length templates
    rw [List.length_filterMap_eq_countP, List.length_filterMap_eq_countP] at counted
    rw [again.records_eq, account.records_eq, counted]
  · rw [again.rejected_eq, account.rejected_eq]
    exact rejections_blanked blankedLines

/-- A comment, a line without a comma, a pod, and a line without a line end whose tag is too
short. -/
def mixedText : String :=
  "# pods\r\n" ++
  "pod \x7b\x7d\r\n" ++
  "pod, \x7b\"kind\": \"pod\", \"key\": \"p\", \"containers\": []\x7d\n" ++
  "p, \x7b\x7d"

theorem load_accounts_mixed :
    let wanted := "expected '<kind>, <json record>'"
    let chosen := fun number => number == 1 || number == 4
    (∀ line ∈ (Text.lines mixedText.toList).zipIdx 1,
        chosen line.2 = true → template? line.1 = none) ∧
      (load .empty mixedText).report = ⟨1, [.malformedLine 2 wanted, .malformedLine 4 wanted]⟩ ∧
      (load .empty (Text.blankOut chosen mixedText)).store = (load .empty mixedText).store ∧
      (load .empty (Text.blankOut chosen mixedText)).report.records = 1 ∧
      (load .empty (Text.blankOut chosen mixedText)).report.rejected =
        [.malformedLine 2 wanted] := by
  intro wanted chosen
  have spared : ∀ line ∈ (Text.lines mixedText.toList).zipIdx 1,
      chosen line.2 = true → template? line.1 = none := by
    decide +kernel
  have report : (load .empty mixedText).report =
      ⟨1, [.malformedLine 2 wanted, .malformedLine 4 wanted]⟩ := by
    decide +kernel
  obtain ⟨-, blanking⟩ := load_accounts .empty mixedText
  obtain ⟨same, records, rejected⟩ := blanking chosen spared
  rw [report] at records
  rw [report] at rejected
  exact ⟨spared, report, same, records, rejected⟩

end TemplateFile

end ClusterTopology
