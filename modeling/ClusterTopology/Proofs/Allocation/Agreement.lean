import ClusterTopology.Allocation.Context

/-!
Computations that draw on the allocators, taken apart and compared.

`bind_eq_ok_iff` and `bind_eq_error_iff` open a sequence of two computations.
`Agree R x y` says that two computations do the same to the allocators: from every
state both fail with one error or both succeed with results that `R` relates, and
both leave the same state.
-/

namespace ClusterTopology.Allocating

variable {α β γ δ : Type}

/-! ### Sequences -/

theorem bind_eq_ok_iff {x : Allocating α} {f : α → Allocating β} {b : β}
    {before after : Context} :
    (x >>= f) before = .ok b after ↔
      ∃ a middle, x before = .ok a middle ∧ f a middle = .ok b after := by
  simp only [bind, EStateM.bind]
  cases x before with
  | error error middle => simp
  | ok a middle =>
      constructor
      · exact fun ran => ⟨a, middle, rfl, ran⟩
      · rintro ⟨_, _, ⟨⟩, ran⟩
        exact ran

theorem bind_eq_error_iff {x : Allocating α} {f : α → Allocating β} {error : Error}
    {before after : Context} :
    (x >>= f) before = .error error after ↔ x before = .error error after ∨
      ∃ a middle, x before = .ok a middle ∧ f a middle = .error error after := by
  simp only [bind, EStateM.bind]
  cases x before with
  | error error middle => simp
  | ok a middle =>
      constructor
      · exact fun ran => Or.inr ⟨a, middle, rfl, ran⟩
      · rintro (⟨⟨⟩⟩ | ⟨_, _, ⟨⟩, ran⟩)
        exact ran

/-! ### Agreement -/

/-- The same failure, or related results, and the same allocators. -/
inductive Alike (R : α → β → Prop) :
    EStateM.Result Error Context α → EStateM.Result Error Context β → Prop where
  | ok {a : α} {b : β} {after : Context} : R a b → Alike R (.ok a after) (.ok b after)
  | error {error : Error} {after : Context} : Alike R (.error error after) (.error error after)

theorem Alike.of_ok {R : α → β → Prop} {left : EStateM.Result Error Context α} {b : β}
    {after : Context} (alike : Alike R left (.ok b after)) :
    ∃ a, left = .ok a after ∧ R a b := by
  cases alike with
  | ok related => exact ⟨_, rfl, related⟩

theorem Alike.of_error {R : α → β → Prop} {left : EStateM.Result Error Context α}
    {error : Error} {after : Context} (alike : Alike R left (.error error after)) :
    left = .error error after := by
  cases alike
  rfl

/-- Both computations do the same from every state of the allocators. -/
def Agree (R : α → β → Prop) (x : Allocating α) (y : Allocating β) : Prop :=
  ∀ before, Alike R (x before) (y before)

namespace Agree

theorem refl (x : Allocating α) : Agree Eq x x := by
  intro before
  cases x before with
  | ok a after => exact .ok rfl
  | error error after => exact .error

theorem pure {R : α → β → Prop} {a : α} {b : β} (related : R a b) :
    Agree R (Pure.pure a) (Pure.pure b) :=
  fun _ => .ok related

/-- Agreement goes through sequences. -/
theorem bind {R : α → β → Prop} {S : γ → δ → Prop} {x : Allocating α} {y : Allocating β}
    {f : α → Allocating γ} {g : β → Allocating δ} (first : Agree R x y)
    (second : ∀ a b, R a b → Agree S (f a) (g b)) : Agree S (x >>= f) (y >>= g) := by
  intro before
  have alike := first before
  simp only [Bind.bind, EStateM.bind]
  cases ran : y before with
  | ok b after =>
      rw [ran] at alike
      obtain ⟨a, ran', related⟩ := alike.of_ok
      rw [ran']
      exact second a b related after
  | error error after =>
      rw [ran] at alike
      rw [alike.of_error]
      exact .error

end Agree

end ClusterTopology.Allocating
