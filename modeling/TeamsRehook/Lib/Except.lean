import Mathlib.Data.List.Forall2
import Mathlib.Tactic.Common

/-!
# Computations that can fail

Pre- and postconditions of a computation in `Except`. `x.Ends Q E` says how `x` ends: it returns a value that satisfies
`Q`, or raises an error that satisfies `E`. The rules give the condition for a computation from those of its parts, so
that `simp` turns the condition for a `do` block into one on its inputs.
-/

namespace Except

universe u v

variable {ε : Type u} {α β : Type v}

/-- The computation returns a value that satisfies `Q`, or raises an error that satisfies `E`. -/
def Ends (x : Except ε α) (Q : α → Prop) (E : ε → Prop) : Prop :=
  match x with
  | .ok a => Q a
  | .error e => E e

@[simp] theorem ends_ok (a : α) (Q : α → Prop) (E : ε → Prop) : (Except.ok a).Ends Q E ↔ Q a := Iff.rfl
@[simp] theorem ends_error (e : ε) (Q : α → Prop) (E : ε → Prop) : (Except.error e : Except ε α).Ends Q E ↔ E e := Iff.rfl
@[simp] theorem ends_pure (a : α) (Q : α → Prop) (E : ε → Prop) : (pure a : Except ε α).Ends Q E ↔ Q a := Iff.rfl
@[simp] theorem ends_throw (e : ε) (Q : α → Prop) (E : ε → Prop) : (throw e : Except ε α).Ends Q E ↔ E e := Iff.rfl

/-- A computation and what follows it: the second one has to end as asked from every value the first one returns. -/
@[simp] theorem ends_bind (x : Except ε α) (f : α → Except ε β) (Q : β → Prop) (E : ε → Prop) :
    (x >>= f).Ends Q E ↔ x.Ends (fun a => (f a).Ends Q E) E := by
  cases x <;> rfl

@[simp] theorem ends_map (x : Except ε α) (f : α → β) (Q : β → Prop) (E : ε → Prop) :
    (x.map f).Ends Q E ↔ x.Ends (fun a => Q (f a)) E := by
  cases x <;> rfl

@[simp] theorem ends_fmap (x : Except ε α) (f : α → β) (Q : β → Prop) (E : ε → Prop) :
    (f <$> x).Ends Q E ↔ x.Ends (fun a => Q (f a)) E :=
  ends_map x f Q E

@[simp] theorem ends_ite (c : Prop) [Decidable c] (x y : Except ε α) (Q : α → Prop) (E : ε → Prop) :
    (if c then x else y).Ends Q E ↔ if c then x.Ends Q E else y.Ends Q E := by
  split <;> rfl

@[simp] theorem ends_mapError {ε' : Type u} (x : Except ε α) (f : ε → ε') (Q : α → Prop) (E : ε' → Prop) :
    (x.mapError f).Ends Q E ↔ x.Ends Q (fun e => E (f e)) := by
  cases x <;> rfl

/-- A computation that ends as asked ends as is asked less strictly. -/
theorem Ends.mono {x : Except ε α} {Q Q' : α → Prop} {E E' : ε → Prop} (h : x.Ends Q E) (hQ : ∀ a, Q a → Q' a)
    (hE : ∀ e, E e → E' e) : x.Ends Q' E' := by
  cases x with
  | ok a => exact hQ a h
  | error e => exact hE e h

/-- What follows a computation ends as asked when it does from every value that the computation may return. -/
theorem Ends.bind {x : Except ε α} {f : α → Except ε β} {Q : α → Prop} {Q' : β → Prop} {E : ε → Prop} (h : x.Ends Q E)
    (hf : ∀ a, Q a → (f a).Ends Q' E) : (x >>= f).Ends Q' E :=
  (ends_bind x f Q' E).2 (h.mono hf fun _ he => he)

/-- What follows a computation returns a value when the computation returns one from which it does. -/
theorem bind_eq_ok_iff {x : Except ε α} {f : α → Except ε β} {b : β} :
    (x >>= f) = .ok b ↔ ∃ a, x = .ok a ∧ f a = .ok b := by
  cases x with
  | ok a => simp [bind, Except.bind]
  | error e => simp [bind, Except.bind]

/-- A mapped computation returns a value when the computation returns one that is mapped to it. -/
theorem map_eq_ok_iff {x : Except ε α} {f : α → β} {b : β} : x.map f = .ok b ↔ ∃ a, x = .ok a ∧ f a = b := by
  cases x with
  | ok a => simp [Except.map]
  | error e => simp [Except.map]

/-- A computation whose errors are mapped returns what it returns without that. -/
theorem mapError_eq_ok_iff {ε' : Type u} {x : Except ε α} {f : ε → ε'} {a : α} : x.mapError f = .ok a ↔ x = .ok a := by
  cases x <;> simp [Except.mapError]

/-- A value that is kept of a computation is the one it returns. -/
theorem toOption_eq_some_iff {x : Except ε α} {a : α} : x.toOption = some a ↔ x = .ok a := by
  cases x with
  | ok b => simp [Except.toOption]
  | error e => simp [Except.toOption]

/-- A list of values is computed when each one is. -/
theorem mapM_eq_ok_iff {f : α → Except ε β} {xs : List α} {ys : List β} :
    xs.mapM f = .ok ys ↔ List.Forall₂ (fun x y => f x = .ok y) xs ys := by
  induction xs generalizing ys with
  | nil =>
    simp only [List.mapM_nil, List.forall₂_nil_left_iff, pure, Except.pure, Except.ok.injEq]
    exact eq_comm
  | cons x xs ih =>
    rw [List.mapM_cons, bind_eq_ok_iff]
    constructor
    · rintro ⟨y, hy, h⟩
      obtain ⟨ys', hys, h⟩ := bind_eq_ok_iff.1 h
      cases h
      exact .cons hy (ih.1 hys)
    · rintro ⟨⟩
      next y ys hy hys => exact ⟨y, hy, bind_eq_ok_iff.2 ⟨ys, ih.2 hys, rfl⟩⟩

/-- The computed values are those of the elements. -/
theorem mem_of_mapM_eq_ok {f : α → Except ε β} {xs : List α} {ys : List β} (h : xs.mapM f = .ok ys) {y : β} :
    y ∈ ys ↔ ∃ x ∈ xs, f x = .ok y := by
  rw [mapM_eq_ok_iff] at h
  induction h with
  | nil => simp
  | cons hx _ ih =>
    simp only [List.mem_cons, exists_eq_or_imp, ih, hx, Except.ok.injEq]
    exact or_congr_left eq_comm

/-- All values are computed when each one is. -/
theorem exists_mapM_eq_ok_iff {f : α → Except ε β} {xs : List α} :
    (∃ ys, xs.mapM f = .ok ys) ↔ ∀ x ∈ xs, ∃ y, f x = .ok y := by
  simp only [mapM_eq_ok_iff]
  induction xs with
  | nil => simp
  | cons x xs ih =>
    rw [List.forall_mem_cons, ← ih]
    constructor
    · rintro ⟨ys, h⟩
      obtain ⟨y, ys, hy, hys, rfl⟩ := List.forall₂_cons_left_iff.1 h
      exact ⟨⟨y, hy⟩, ys, hys⟩
    · rintro ⟨⟨y, hy⟩, ys, hys⟩
      exact ⟨y :: ys, .cons hy hys⟩

/-- An invariant that every step of a loop keeps holds at its end. -/
theorem foldlM_invariant {f : β → α → Except ε β} {I : β → Prop} (hstep : ∀ b a b', I b → f b a = .ok b' → I b')
    {xs : List α} {b b' : β} (h : I b) (hrun : xs.foldlM f b = .ok b') : I b' := by
  induction xs generalizing b with
  | nil =>
    cases hrun
    exact h
  | cons x xs ih =>
    rw [List.foldlM_cons, bind_eq_ok_iff] at hrun
    obtain ⟨b₁, hb₁, hrun⟩ := hrun
    exact ih (hstep b x b₁ h hb₁) hrun

/-- A loop whose steps append to two lists appends what each element gives, in order. -/
theorem foldlM_append_pair {γ : Type*} {δ : Type*} {f : List γ × List δ → α → Except ε (List γ × List δ)} {g : α → List γ}
    {k : α → List δ} {xs : List α} (h : ∀ x ∈ xs, ∀ b, f b x = .ok (b.1 ++ g x, b.2 ++ k x)) (b : List γ × List δ) :
    xs.foldlM f b = .ok (b.1 ++ xs.flatMap g, b.2 ++ xs.flatMap k) := by
  induction xs generalizing b with
  | nil => simp [pure, Except.pure]
  | cons x xs ih =>
    rw [List.foldlM_cons, h x List.mem_cons_self b]
    refine (ih (fun y hy => h y (List.mem_cons_of_mem x hy)) _).trans ?_
    simp only [List.flatMap_cons, List.append_assoc]

/-- A computation whose errors are all excluded ends as asked when it returns a value that is asked for. -/
theorem ends_iff_of_errors {x : Except ε α} {Q : α → Prop} {E E' : ε → Prop} (hx : x.Ends (fun _ => True) E')
    (hE : ∀ e, E' e → ¬E e) : x.Ends Q E ↔ ∃ a, x = .ok a ∧ Q a := by
  cases x with
  | ok a => simp
  | error e => simpa using hE e hx

/-- A computation ends as asked when its errors do and the value it returns is asked for. -/
theorem ends_iff_errors_and {x : Except ε α} {Q : α → Prop} {E : ε → Prop} :
    x.Ends Q E ↔ x.Ends (fun _ => True) E ∧ ∀ a, x = .ok a → Q a := by
  cases x with
  | ok a => simp
  | error e => simp

/-! ## Computations that cannot fail -/

/-- The computation returns a value. -/
def Returns (x : Except ε α) : Prop := ∃ a, x = .ok a

theorem returns_ok (a : α) : (.ok a : Except ε α).Returns := ⟨a, rfl⟩

/-- What follows a computation returns a value when it does from the value of the first one. -/
theorem Returns.bind {x : Except ε α} {f : α → Except ε β} (h : x.Returns) (hf : ∀ a, (f a).Returns) :
    (x >>= f).Returns := by
  obtain ⟨a, rfl⟩ := h
  exact hf a

theorem Returns.map {x : Except ε α} {f : α → β} (h : x.Returns) : (x.map f).Returns := by
  obtain ⟨a, rfl⟩ := h
  exact returns_ok (f a)

/-- A fold returns a value when each of its steps does. -/
theorem returns_foldlM {f : β → α → Except ε β} {xs : List α} (h : ∀ x ∈ xs, ∀ b, (f b x).Returns) (b : β) :
    (xs.foldlM f b).Returns := by
  induction xs generalizing b with
  | nil => exact returns_ok b
  | cons x xs ih =>
    rw [List.foldlM_cons]
    exact (h x List.mem_cons_self b).bind fun b' => ih (fun y hy => h y (List.mem_cons_of_mem x hy)) b'

end Except
