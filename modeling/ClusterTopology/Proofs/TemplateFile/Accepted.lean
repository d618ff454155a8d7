import ClusterTopology.TemplateFile.Load
import ClusterTopology.Proofs.Template.Sequence

/-!
What a load takes in.

Every line is judged by itself: it is ignored, or it holds a template, or it is rejected,
whatever its number and whatever is in the store (`judged`). A load puts the templates that
the lines hold into the store in their order (`store_load`), and it rejects nothing exactly
when every line is ignored or holds a template (`rejected_load_eq_nil_iff`).
-/

namespace ClusterTopology.TemplateFile

/-- A line that is blank or a comment. -/
def Ignored (raw : List Char) : Prop :=
  Text.trim raw = [] ∨ (Text.trim raw).head? = some commentMark

/-- What a line holds, if it can be read at all. -/
def Line.held? (raw : List Char) : Option Line := (Line.parse 0 raw).toOption

/-- The template that a line holds, if it is accepted. -/
def template? (raw : List Char) : Option Template :=
  match Line.held? raw with
  | some (.record _ record) => (Template.accept record).toOption
  | _ => none

/-- The templates that the lines of a text hold, in order. -/
def accepted (text : String) : List Template :=
  (Text.lines text.toList).filterMap template?

section Lines

variable {raw : List Char}

/-- The number of a line shows in its error only. -/
theorem Line.toOption_parse (number : Nat) (raw : List Char) :
    (Line.parse number raw).toOption = Line.held? raw := by
  unfold Line.held? Line.parse
  dsimp only
  split
  · rfl
  · cases cut? (Text.trim raw) with
    | none => rfl
    | some parts =>
        dsimp only
        cases Json.parse parts.2 <;> rfl

theorem held?_eq_ignored_iff : Line.held? raw = some .ignored ↔ Ignored raw := by
  unfold Line.held? Line.parse Ignored
  dsimp only
  split
  · rename_i ignored
    exact ⟨fun _ => ignored, fun _ => rfl⟩
  · rename_i held
    refine ⟨fun read => ?_, fun ignored => absurd ignored held⟩
    cases cut : cut? (Text.trim raw) with
    | none =>
        rw [cut] at read
        cases read
    | some parts =>
        rw [cut] at read
        dsimp only at read
        cases value : Json.parse parts.2 <;> rw [value] at read <;> cases read

theorem template?_eq_none (ignored : Ignored raw) : template? raw = none := by
  rw [template?, held?_eq_ignored_iff.mpr ignored]

/-- How a line can be judged for a store. -/
inductive Judged (store : Store) (raw : List Char) : Verdict → Prop where
  | ignored : Ignored raw → Judged store raw .ignored
  | rejected {error : Error} : ¬ Ignored raw → template? raw = none →
      Judged store raw (.rejected error)
  | accepted {tag : String} {template : Template} : template? raw = some template →
      Judged store raw
        (.accepted tag ⟨store.insert template, template.kind, store.insertNotices template⟩)

theorem judged (store : Store) (number : Nat) (raw : List Char) :
    Judged store raw (judge store number raw) := by
  have same := Line.toOption_parse number raw
  unfold judge
  cases parsed : Line.parse number raw with
  | error error =>
      have unread : Line.held? raw = none := by rw [← same, parsed]; rfl
      refine .rejected (fun ignored => ?_) (by rw [template?, unread])
      rw [held?_eq_ignored_iff.mpr ignored] at unread
      cases unread
  | ok line =>
      have read : Line.held? raw = some line := by rw [← same, parsed]; rfl
      cases line with
      | ignored => exact .ignored (held?_eq_ignored_iff.mp read)
      | record tag record =>
          have holds : template? raw = (Template.accept record).toOption := by
            rw [template?, read]
          cases described : Template.accept record with
          | error error =>
              simp only [Store.add, described, bind, Except.bind]
              refine .rejected (fun ignored => ?_) (by rw [holds, described]; rfl)
              rw [held?_eq_ignored_iff.mpr ignored] at read
              cases read
          | ok template =>
              simp only [Store.add, described, bind, Except.bind]
              exact .accepted (by rw [holds, described]; rfl)

end Lines

/-! ### The load -/

/-- Lines put the templates that they hold into the store, in their order. -/
theorem store_loadLines (store : Store) (number : Nat) (lines : List (List Char)) :
    (loadLines store number lines).store = store.insertAll (lines.filterMap template?) := by
  induction lines generalizing store number with
  | nil => rfl
  | cons raw rest ih =>
      have verdict := judged store number raw
      rw [loadLines]
      generalize judge store number raw = ruling at verdict ⊢
      cases verdict with
      | ignored ignored =>
          rw [List.filterMap_cons_none (template?_eq_none ignored)]
          exact ih store (number + 1)
      | rejected _ nothing =>
          rw [List.filterMap_cons_none nothing]
          exact ih store (number + 1)
      | accepted holds =>
          rw [List.filterMap_cons_some holds]
          exact ih (store.insert _) (number + 1)

/-- No line is rejected exactly when every line is ignored or holds a template. -/
theorem rejected_loadLines_eq_nil_iff (store : Store) (number : Nat)
    (lines : List (List Char)) :
    (loadLines store number lines).report.rejected = [] ↔
      ∀ raw ∈ lines, Ignored raw ∨ (template? raw).isSome = true := by
  induction lines generalizing store number with
  | nil => simp [loadLines]
  | cons raw rest ih =>
      have verdict := judged store number raw
      rw [loadLines, List.forall_mem_cons]
      generalize judge store number raw = ruling at verdict ⊢
      cases verdict with
      | ignored ignored => simp [ih, ignored]
      | rejected held nothing => simp [Load.rejecting, held, nothing]
      | accepted holds => simp [Load.accepting, ih, holds]

theorem store_load (text : String) :
    (load .empty text).store = Store.empty.insertAll (accepted text) :=
  store_loadLines .empty 1 _

theorem rejected_load_eq_nil_iff (text : String) :
    (load .empty text).report.rejected = [] ↔
      ∀ raw ∈ Text.lines text.toList, Ignored raw ∨ (template? raw).isSome = true :=
  rejected_loadLines_eq_nil_iff .empty 1 _

end ClusterTopology.TemplateFile
