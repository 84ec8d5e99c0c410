import Mathlib.Data.List.Basic
import Mathlib.Algebra.Order.Ring.Int
import Mathlib.Tactic.Common

/-!
# Counting events in windows of time

Two readings of "at least `n` events within a span of time", for events given by their times, the newest first. A burst
is a sliding interval that holds `n` of them, the newest included (`Window.Burst`). A counter that starts over when an
event comes later than a span after its start only sees fixed windows (`Window.tumble`). The counter has reached `n`
exactly when none of the newest `n - 1` events opened a window (`Window.le_count_iff`), so the two differ on the bursts
that straddle the start of a window.
-/

namespace Window

/-- The start of the current fixed window and the number of events in it, after the events, from a counter that has not
counted one yet: it has no window, or a window that starts at a given time. -/
def tumble (span : Int) (init : Option Int) : List Int → Option Int × Nat
  | [] => (init, 0)
  | t :: earlier =>
    match tumble span init earlier with
    | (none, _) => (some t, 1)
    | (some start, n) => if t - start > span then (some t, 1) else (some start, n + 1)

/-- The newest event comes later than a span after the start of the window before it. -/
def Opens (span : Int) (init : Option Int) : List Int → Prop
  | [] => False
  | t :: earlier => ∃ start, (tumble span init earlier).1 = some start ∧ t - start > span

instance (span : Int) (init : Option Int) : (times : List Int) → Decidable (Opens span init times)
  | [] => isFalse id
  | t :: earlier =>
    match h : (tumble span init earlier).1 with
    | none => isFalse (by simp [Opens, h])
    | some start => decidable_of_iff (t - start > span) (by simp [Opens, h])

/-- Some interval as long as the span holds `n` of the events, the newest one included. -/
def Burst (span : Int) (n : Nat) (times : List Int) : Prop :=
  ∃ a, n ≤ (times.filter fun t => decide (a ≤ t ∧ t ≤ a + span)).length ∧ ∃ t ∈ times.head?, a ≤ t ∧ t ≤ a + span

variable {span : Int} {init : Option Int}

theorem tumble_cons_opens {t : Int} {earlier : List Int} (h : Opens span init (t :: earlier)) :
    tumble span init (t :: earlier) = (some t, 1) := by
  obtain ⟨start, hs, hlt⟩ := h
  simp only [tumble]
  rw [show tumble span init earlier = (some start, (tumble span init earlier).2) from Prod.ext hs rfl]
  simp [hlt]

/-- Before the first window there is no event to count. -/
theorem tumble_none {times : List Int} (h : (tumble span init times).1 = none) : times = [] := by
  cases times with
  | nil => rfl
  | cons t earlier =>
    simp only [tumble] at h
    split at h
    · cases h
    · split at h <;> cases h

/-- An event that opens no window is counted with those before it. -/
theorem count_cons_of_not_opens {t : Int} {earlier : List Int} (h : ¬Opens span init (t :: earlier)) :
    (tumble span init (t :: earlier)).2 = (tumble span init earlier).2 + 1 := by
  cases hs : (tumble span init earlier).1 with
  | none =>
    have := tumble_none hs
    subst this
    simp only [tumble] at hs ⊢
    subst hs
    rfl
  | some start =>
    have hlt : ¬t - start > span := fun hlt => h ⟨start, hs, hlt⟩
    simp only [tumble]
    rw [show tumble span init earlier = (some start, (tumble span init earlier).2) from Prod.ext hs rfl]
    simp [hlt]

/-- The counter has reached `n` when there are `n` events and none of the newest `n - 1` opened a window. -/
theorem le_count_iff (n : Nat) (times : List Int) :
    n ≤ (tumble span init times).2 ↔ n ≤ times.length ∧ ∀ i < n - 1, ¬Opens span init (times.drop i) := by
  induction times generalizing n with
  | nil =>
    simp only [tumble, List.length_nil, List.drop_nil]
    exact ⟨fun h => ⟨h, fun i _ h => h⟩, fun h => h.1⟩
  | cons t earlier ih =>
    by_cases ho : Opens span init (t :: earlier)
    · rw [tumble_cons_opens ho]
      constructor
      · intro h
        exact ⟨by simp only [List.length_cons]; omega, fun i hi => by omega⟩
      · rintro ⟨-, h⟩
        by_contra hn
        exact h 0 (by omega) ho
    · rw [count_cons_of_not_opens ho, List.length_cons]
      constructor
      · intro h
        obtain ⟨h1, h2⟩ := (ih (n - 1)).1 (by omega)
        refine ⟨by omega, fun i hi => ?_⟩
        cases i with
        | zero => exact ho
        | succ i => exact h2 i (by omega)
      · rintro ⟨h1, h2⟩
        have := (ih (n - 1)).2 ⟨by omega, fun i hi => h2 (i + 1) (by omega)⟩
        omega

/-- A burst of `n` events has `n` events. -/
theorem Burst.le_length {n : Nat} {times : List Int} (h : Burst span n times) : n ≤ times.length := by
  obtain ⟨a, ha, -⟩ := h
  exact le_trans ha (List.length_filter_le _ _)

/-- On a burst, the counter reaches `n` exactly when none of the newest `n - 1` events opened a window. -/
theorem Burst.le_count_iff {n : Nat} {times : List Int} (h : Burst span n times) :
    n ≤ (tumble span init times).2 ↔ ∀ i < n - 1, ¬Opens span init (times.drop i) := by
  rw [Window.le_count_iff]
  exact ⟨fun h' => h'.2, fun h' => ⟨h.le_length, h'⟩⟩

end Window
