import TeamsRehook.Lib.Transition
import Mathlib.Data.Fintype.Basic
import Mathlib.Logic.Function.Basic
import Mathlib.Tactic.Common

/-!
# Processes that take turns

The places of any number of processes are a function `phase : ι → φ`, and a step moves one of them. `AtMostOne C phase`
says that no two processes are at a place in `C`. The rules are those of one move: a process that was in `C` may stay
there, and one that was not may enter when every other one is outside.

A `World` is the state the processes share, with the place of each. In a step, one process takes its next step, or the
environment changes what is shared.
-/

namespace Processes

universe u v

variable {ι : Type*} {φ : Type*}

/-- No two processes are at a place in `C`. -/
def AtMostOne (C : φ → Prop) (phase : ι → φ) : Prop := ∀ i j, C (phase i) → C (phase j) → i = j

instance [Fintype ι] [DecidableEq ι] (C : φ → Prop) [DecidablePred C] (phase : ι → φ) : Decidable (AtMostOne C phase) :=
  inferInstanceAs (Decidable (∀ i j, C (phase i) → C (phase j) → i = j))

theorem atMostOne_of_none {C : φ → Prop} {phase : ι → φ} (h : ∀ i, ¬C (phase i)) : AtMostOne C phase :=
  fun i _ hi _ => absurd hi (h i)

variable [DecidableEq ι] {C : φ → Prop} {phase : ι → φ} {i : ι} {p : φ}

/-- A process that moves into `C` came from there. -/
theorem AtMostOne.move (h : AtMostOne C phase) (hp : C p → C (phase i)) : AtMostOne C (Function.update phase i p) := by
  have hback : ∀ j, C (Function.update phase i p j) → C (phase j) := by
    intro j hj
    by_cases hji : j = i
    · subst hji
      rw [Function.update_self] at hj
      exact hp hj
    · rwa [Function.update_of_ne hji] at hj
  exact fun j k hj hk => h j k (hback j hj) (hback k hk)

/-- A process enters `C` when every other one is outside. -/
theorem AtMostOne.enter (h : ∀ j, j ≠ i → ¬C (phase j)) : AtMostOne C (Function.update phase i p) := by
  have hi : ∀ j, C (Function.update phase i p j) → j = i := by
    intro j hj
    by_contra hji
    rw [Function.update_of_ne hji] at hj
    exact h j hji hj
  exact fun j k hj hk => (hi j hj).trans (hi k hk).symm

/-- What holds of every process at its place still holds when one moves to a place that is right for it. -/
theorem forall_move {Q : ι → φ → Prop} (h : ∀ j, j ≠ i → Q j (phase j)) (hp : Q i p) :
    ∀ j, Q j (Function.update phase i p j) :=
  (Function.forall_update_iff phase fun j q => Q j q).2 ⟨hp, h⟩

/-! ## Shared state -/

/-- What the processes share, and the place of each. -/
structure World (σ ι φ : Type*) where
  shared : σ
  phase : ι → φ

/-- What can happen: a process takes its next step, or the environment changes what is shared. -/
inductive Act (ι : Type u) (ε : Type v) where
  | next (i : ι)
  | env (e : ε)
  deriving DecidableEq, Repr

variable {σ ε : Type*}

/-- One step. `next i` is the next step of process `i`, from its place; nothing when it is at its end, or has to wait. -/
def World.step (next : ι → σ → φ → Option (σ × φ)) (env : σ → ε → Option σ) (w : World σ ι φ) :
    Act ι ε → Option (World σ ι φ)
  | .next i => (next i w.shared (w.phase i)).map fun r => ⟨r.1, Function.update w.phase i r.2⟩
  | .env e => (env w.shared e).map fun s => { w with shared := s }

variable {next : ι → σ → φ → Option (σ × φ)} {env : σ → ε → Option σ} {w w' : World σ ι φ}

/-- A step is one of a process, which leaves the places of the others, or one of the environment, which leaves every
place. -/
theorem World.step_cases {a : Act ι ε} (h : World.step next env w a = some w') :
    (∃ i s p, a = .next i ∧ next i w.shared (w.phase i) = some (s, p) ∧ w' = ⟨s, Function.update w.phase i p⟩) ∨
      ∃ e s, a = .env e ∧ env w.shared e = some s ∧ w' = { w with shared := s } := by
  cases a with
  | next i =>
    obtain ⟨⟨s, p⟩, hnext, rfl⟩ := Option.map_eq_some_iff.1 h
    exact .inl ⟨i, s, p, rfl, hnext, rfl⟩
  | env e =>
    obtain ⟨s, henv, rfl⟩ := Option.map_eq_some_iff.1 h
    exact .inr ⟨e, s, rfl, henv, rfl⟩

/-- A property of what is shared, together with one of each process that may refer to it, holds after every run whose
steps meet the guard when it is kept by the step of a process, for that process and for every other one, and by the
environment. -/
theorem World.exec_invariant {I : σ → Prop} {Q : ι → σ → φ → Prop} {guard : World σ ι φ → Act ι ε → Prop}
    (hown : ∀ (w : World σ ι φ) i s p, I w.shared → (∀ j, Q j w.shared (w.phase j)) → guard w (.next i) →
      next i w.shared (w.phase i) = some (s, p) → I s ∧ Q i s p)
    (hothers : ∀ (w : World σ ι φ) i s p j, I w.shared → (∀ j, Q j w.shared (w.phase j)) → guard w (.next i) →
      next i w.shared (w.phase i) = some (s, p) → j ≠ i → Q j s (w.phase j))
    (henv : ∀ (w : World σ ι φ) e s, I w.shared → (∀ j, Q j w.shared (w.phase j)) → env w.shared e = some s →
      I s ∧ ∀ j, Q j s (w.phase j))
    {as : List (Act ι ε)} (hI : I w.shared) (hQ : ∀ j, Q j w.shared (w.phase j))
    (hmeets : Transition.Meets (World.step next env) guard w as)
    (hrun : Transition.exec (World.step next env) w as = some w') :
    I w'.shared ∧ ∀ j, Q j w'.shared (w'.phase j) := by
  refine Transition.exec_invariant_of_meets (I := fun w => I w.shared ∧ ∀ j, Q j w.shared (w.phase j)) ?_ ⟨hI,
    hQ⟩ hmeets hrun
  rintro v a v' ⟨hI, hQ⟩ hguard hstep
  rcases World.step_cases hstep with ⟨i, s, p, rfl, hnext, rfl⟩ | ⟨e, s, rfl, hs, rfl⟩
  · obtain ⟨hI', hQi⟩ := hown v i s p hI hQ hguard hnext
    exact ⟨hI', forall_move (fun j hj => hothers v i s p j hI hQ hguard hnext hj) hQi⟩
  · exact henv v e s hI hQ hs

end Processes
