import Mathlib.Logic.Relation
import Mathlib.Tactic.Common

/-!
# Runs of a step function

A step function `step : σ → α → Option σ` gives the state after an action, or `none` when the action is not enabled.
`exec` runs a list of actions. The rules here are the ones every proof about a run uses: an invariant kept by each step
holds at the end (`exec_invariant`), also when only the steps that meet a guard keep it (`exec_invariant_of_meets`).
-/

namespace Transition

variable {σ : Type*} {α : Type*}

/-- Run the actions of a list in order; `none` as soon as one of them is not enabled. -/
def exec (step : σ → α → Option σ) : σ → List α → Option σ
  | s, [] => some s
  | s, a :: as => (step s a).bind fun s' => exec step s' as

/-- Every step of the run meets the guard, in the state before it. -/
def Meets (step : σ → α → Option σ) (guard : σ → α → Prop) : σ → List α → Prop
  | _, [] => True
  | s, a :: as => guard s a ∧ ∀ s', step s a = some s' → Meets step guard s' as

instance instDecidableMeets (step : σ → α → Option σ) (guard : σ → α → Prop) [∀ s a, Decidable (guard s a)] :
    (s : σ) → (as : List α) → Decidable (Meets step guard s as)
  | _, [] => isTrue trivial
  | s, a :: as =>
    match h : step s a with
    | none => decidable_of_iff (guard s a) (by simp [Meets, h])
    | some s' =>
      have := instDecidableMeets step guard s' as
      decidable_of_iff (guard s a ∧ Meets step guard s' as) (by simp [Meets, h])

@[simp] theorem exec_nil (step : σ → α → Option σ) (s : σ) : exec step s [] = some s := rfl

/-- A run of one action more is a step and a run of the rest. -/
theorem exec_cons_eq_some {step : σ → α → Option σ} {s s' : σ} {a : α} {as : List α} :
    exec step s (a :: as) = some s' ↔ ∃ s₁, step s a = some s₁ ∧ exec step s₁ as = some s' := by
  simp [exec, Option.bind_eq_some_iff]

/-- Runs compose. -/
theorem exec_append {step : σ → α → Option σ} (s : σ) (as bs : List α) :
    exec step s (as ++ bs) = (exec step s as).bind fun s' => exec step s' bs := by
  induction as generalizing s with
  | nil => rfl
  | cons a as ih =>
    simp only [List.cons_append, exec]
    cases step s a with
    | none => rfl
    | some s₁ => exact ih s₁

/-- An invariant that every step meeting the guard keeps holds after every run whose steps meet the guard. -/
theorem exec_invariant_of_meets {step : σ → α → Option σ} {guard : σ → α → Prop} {I : σ → Prop}
    (hstep : ∀ s a s', I s → guard s a → step s a = some s' → I s') :
    ∀ {s s' : σ} {as : List α}, I s → Meets step guard s as → exec step s as = some s' → I s' := by
  intro s s' as
  induction as generalizing s with
  | nil =>
    intro h _ he
    cases he
    exact h
  | cons a as ih =>
    intro h hm he
    obtain ⟨s₁, h₁, h₂⟩ := exec_cons_eq_some.1 he
    exact ih (hstep s a s₁ h hm.1 h₁) (hm.2 s₁ h₁) h₂

/-- A run meets the guard that asks for nothing. -/
theorem meets_true (step : σ → α → Option σ) (s : σ) (as : List α) : Meets step (fun _ _ => True) s as := by
  induction as generalizing s with
  | nil => exact trivial
  | cons a as ih => exact ⟨trivial, fun s' _ => ih s'⟩

/-- A run whose actions each meet the guard in every state meets it. -/
theorem meets_of_forall {step : σ → α → Option σ} {guard : σ → α → Prop} {as : List α} (h : ∀ a ∈ as, ∀ s, guard s a)
    (s : σ) : Meets step guard s as := by
  induction as generalizing s with
  | nil => exact trivial
  | cons a as ih =>
    exact ⟨h a List.mem_cons_self s, fun s' _ => ih (fun b hb => h b (List.mem_cons_of_mem a hb)) s'⟩

/-- A run meets the guard when its first part does, and its second part from the state the first one leads to. -/
theorem meets_append {step : σ → α → Option σ} {guard : σ → α → Prop} {s : σ} {as bs : List α} :
    Meets step guard s (as ++ bs) ↔ Meets step guard s as ∧ ∀ s', exec step s as = some s' → Meets step guard s' bs := by
  induction as generalizing s with
  | nil =>
    simp only [List.nil_append, exec_nil, Option.some.injEq, forall_eq']
    exact ⟨fun h => ⟨trivial, h⟩, fun h => h.2⟩
  | cons a as ih =>
    simp only [List.cons_append, Meets, ih, exec_cons_eq_some]
    constructor
    · rintro ⟨hg, h⟩
      refine ⟨⟨hg, fun s₁ hs => (h s₁ hs).1⟩, ?_⟩
      rintro s' ⟨s₁, hs, hrun⟩
      exact (h s₁ hs).2 s' hrun
    · rintro ⟨⟨hg, h⟩, hb⟩
      exact ⟨hg, fun s₁ hs => ⟨h s₁ hs, fun s' hrun => hb s' ⟨s₁, hs, hrun⟩⟩⟩

/-- A run that meets two guards meets both at each step. -/
theorem Meets.and {step : σ → α → Option σ} {g g' : σ → α → Prop} {s : σ} {as : List α} (h : Meets step g s as)
    (h' : Meets step g' s as) : Meets step (fun s a => g s a ∧ g' s a) s as := by
  induction as generalizing s with
  | nil => exact trivial
  | cons a as ih => exact ⟨⟨h.1, h'.1⟩, fun s₁ hs => ih (h.2 s₁ hs) (h'.2 s₁ hs)⟩

/-- An invariant that every step keeps holds after every run. -/
theorem exec_invariant {step : σ → α → Option σ} {I : σ → Prop} (hstep : ∀ s a s', I s → step s a = some s' → I s')
    {s s' : σ} {as : List α} (h : I s) (he : exec step s as = some s') : I s' :=
  exec_invariant_of_meets (fun s a s' hI (_ : True) => hstep s a s' hI) h (meets_true step s as) he

/-- A guard that an invariant of the run, with another guard that the run meets, gives at each step. -/
theorem Meets.imp_of_invariant {step : σ → α → Option σ} {g g' : σ → α → Prop} {I : σ → Prop}
    (hstep : ∀ s a s', I s → step s a = some s' → I s') (himp : ∀ s a, I s → g s a → g' s a) {s : σ}
    {as : List α} (h : I s) (hm : Meets step g s as) : Meets step g' s as := by
  induction as generalizing s with
  | nil => exact trivial
  | cons a as ih => exact ⟨himp s a h hm.1, fun s' hs => ih (hstep s a s' h hs) (hm.2 s' hs)⟩

/-- When a step that does not meet the guard leads to a state that is bad for good, a run that ends in a good one meets
the guard. -/
theorem meets_of_not_bad {step : σ → α → Option σ} {guard : σ → α → Prop} {Bad : σ → Prop}
    (hbad : ∀ s a s', ¬guard s a → step s a = some s' → Bad s') (hkept : ∀ s a s', Bad s → step s a = some s' → Bad s')
    {s s' : σ} {as : List α} (he : exec step s as = some s') (hgood : ¬Bad s') : Meets step guard s as := by
  induction as generalizing s with
  | nil => exact trivial
  | cons a as ih =>
    obtain ⟨s₁, h₁, h₂⟩ := exec_cons_eq_some.1 he
    refine ⟨?_, fun s₂ hs => ?_⟩
    · by_contra hguard
      exact hgood (exec_invariant hkept (hbad s a s₁ hguard h₁) h₂)
    · obtain rfl := Option.some.inj (h₁.symm.trans hs)
      exact ih h₂

end Transition
