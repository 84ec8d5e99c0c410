import Mathlib.Data.List.Basic
import Mathlib.Data.List.Nodup
import Mathlib.Tactic.Common

/-!
# Tables

A table is the list of its rows. `Table.update p f` is the SQL statement that rewrites the rows that satisfy `p`, and
`Table.delete p` the one that removes them. A unique column is a key that no two rows share (`Table.UniqueOn`).

`ormWrite` is the write of one column by a session that loaded a row, changed the object in memory and flushed it: a
column whose value in memory differs from the value loaded is written, every other column keeps what the table holds
now.
-/

namespace Table

variable {ρ : Type*} {κ : Type*}

/-- Rewrite the rows that satisfy `p`. -/
def update (p : ρ → Bool) (f : ρ → ρ) (t : List ρ) : List ρ := t.map fun r => if p r then f r else r

/-- Remove the rows that satisfy `p`. -/
def delete (p : ρ → Bool) (t : List ρ) : List ρ := t.filter fun r => !p r

/-- No two rows share a key. -/
def UniqueOn (key : ρ → κ) (t : List ρ) : Prop := (t.map key).Nodup

instance [DecidableEq κ] (key : ρ → κ) (t : List ρ) : Decidable (UniqueOn key t) :=
  inferInstanceAs (Decidable (t.map key).Nodup)

@[simp] theorem mem_delete {p : ρ → Bool} {t : List ρ} {r : ρ} : r ∈ delete p t ↔ r ∈ t ∧ p r = false := by
  simp [delete]

theorem mem_update {p : ρ → Bool} {f : ρ → ρ} {t : List ρ} {r' : ρ} :
    r' ∈ update p f t ↔ ∃ r ∈ t, r' = if p r then f r else r := by
  simp only [update, List.mem_map]
  exact ⟨fun ⟨r, hr, h⟩ => ⟨r, hr, h.symm⟩, fun ⟨r, hr, h⟩ => ⟨r, hr, h.symm⟩⟩

/-- A row that does not satisfy `p` is still in the table. -/
theorem mem_update_of_not {p : ρ → Bool} {f : ρ → ρ} {t : List ρ} {r : ρ} (h : r ∈ t) (hp : p r = false) :
    r ∈ update p f t :=
  mem_update.2 ⟨r, h, by simp [hp]⟩

/-- A row that satisfies `p` is rewritten. -/
theorem mem_update_of_pos {p : ρ → Bool} {f : ρ → ρ} {t : List ρ} {r : ρ} (h : r ∈ t) (hp : p r = true) :
    f r ∈ update p f t :=
  mem_update.2 ⟨r, h, by simp [hp]⟩

/-- A property of every row is kept by an update whose new rows have it. -/
theorem forall_mem_update {p : ρ → Bool} {f : ρ → ρ} {t : List ρ} {P : ρ → Prop} (h : ∀ r ∈ t, P r)
    (hf : ∀ r ∈ t, p r = true → P (f r)) : ∀ r ∈ update p f t, P r := by
  intro r' hr'
  obtain ⟨r, hr, rfl⟩ := mem_update.1 hr'
  split
  · exact hf r hr ‹_›
  · exact h r hr

/-- An update that rewrites no row to another one changes nothing. -/
theorem update_eq_self {p : ρ → Bool} {f : ρ → ρ} {t : List ρ} (h : ∀ r ∈ t, p r = true → f r = r) :
    update p f t = t := by
  refine (List.map_congr_left fun r hr => ?_).trans (List.map_id t)
  split
  · exact h r hr ‹_›
  · rfl

/-- Rows that are neither rewritten nor rewritten to are those that were there. -/
theorem filter_update {p q : ρ → Bool} {f : ρ → ρ} {t : List ρ} (h : ∀ r, p r = true → q r = false ∧ q (f r) = false) :
    (update p f t).filter q = t.filter q := by
  induction t with
  | nil => rfl
  | cons r t ih =>
    unfold update at ih ⊢
    rw [List.map_cons, List.filter_cons, List.filter_cons, ih]
    cases hp : p r with
    | false => rfl
    | true =>
      obtain ⟨hr, hf⟩ := h r hp
      rw [if_pos rfl, hr, hf]
      rfl

/-- An update that keeps a column of the rows it rewrites keeps the list of its values. -/
theorem map_update_of_mem {p : ρ → Bool} {f : ρ → ρ} {t : List ρ} {key : ρ → κ}
    (hf : ∀ r ∈ t, p r = true → key (f r) = key r) : (update p f t).map key = t.map key := by
  simp only [update, List.map_map]
  apply List.map_congr_left
  intro r hr
  simp only [Function.comp]
  split
  · exact hf r hr ‹_›
  · rfl

/-- An update that keeps a column keeps the list of its values. -/
theorem map_update {p : ρ → Bool} {f : ρ → ρ} {t : List ρ} {key : ρ → κ} (hf : ∀ r, key (f r) = key r) :
    (update p f t).map key = t.map key :=
  map_update_of_mem fun r _ _ => hf r

/-- When the row that a search finds is rewritten, and every rewritten row satisfies the search, it finds a rewritten
row. -/
theorem exists_find?_update {p q : ρ → Bool} {f : ρ → ρ} {t : List ρ} {r : ρ} (h : t.find? q = some r) (hr : p r = true)
    (hf : ∀ r, q (f r) = true) : ∃ r', (update p f t).find? q = some (f r') := by
  induction t with
  | nil => nomatch h
  | cons r₁ t ih =>
    unfold update at ih ⊢
    rw [List.map_cons, List.find?_cons]
    cases hp : p r₁ with
    | true =>
      rw [if_pos rfl, hf]
      exact ⟨r₁, rfl⟩
    | false =>
      rw [if_neg Bool.false_ne_true]
      rw [List.find?_cons] at h
      cases hq : q r₁ with
      | true =>
        rw [hq] at h
        obtain rfl := Option.some.inj h
        rw [hp] at hr
        nomatch hr
      | false =>
        rw [hq] at h
        exact ih h

/-- A lookup that an update does not change finds the updated row. -/
theorem find?_update {p q : ρ → Bool} {f : ρ → ρ} (hq : ∀ r, q (f r) = q r) (t : List ρ) :
    (update p f t).find? q = (t.find? q).map fun r => if p r then f r else r := by
  unfold update
  rw [List.find?_map]
  have : (q ∘ fun r => if p r then f r else r) = q := by
    funext r
    simp only [Function.comp]
    split
    · exact hq r
    · rfl
  rw [this]

theorem uniqueOn_update {p : ρ → Bool} {f : ρ → ρ} {t : List ρ} {key : ρ → κ} (h : UniqueOn key t)
    (hf : ∀ r, key (f r) = key r) : UniqueOn key (update p f t) := by
  unfold UniqueOn
  rw [map_update hf]
  exact h

/-- A unique column stays unique when the rows that are rewritten keep it. -/
theorem uniqueOn_update_of_mem {p : ρ → Bool} {f : ρ → ρ} {t : List ρ} {key : ρ → κ} (h : UniqueOn key t)
    (hf : ∀ r ∈ t, p r = true → key (f r) = key r) : UniqueOn key (update p f t) := by
  unfold UniqueOn
  rw [map_update_of_mem hf]
  exact h

/-- A unique column stays unique when one row, found by another unique column, gets a value that no other row has. -/
theorem uniqueOn_update_one {ι : Type*} [DecidableEq ι] {t : List ρ} {key : ρ → κ} {id : ρ → ι} {i : ι} {r' : ρ}
    (hids : UniqueOn id t) (h : UniqueOn key t) (hr' : ∀ r ∈ t, id r ≠ i → key r ≠ key r') :
    UniqueOn key (update (fun r => id r == i) (fun _ => r') t) := by
  induction t with
  | nil => exact h
  | cons r t ih =>
    obtain ⟨hid, hids⟩ := List.nodup_cons.1 hids
    obtain ⟨hkey, hkeys⟩ := List.nodup_cons.1 h
    have ih := ih hids hkeys fun a ha => hr' a (List.mem_cons_of_mem r ha)
    refine List.nodup_cons.2 ⟨?_, ih⟩
    rintro hmem
    obtain ⟨b, hb, heq⟩ := List.mem_map.1 hmem
    obtain ⟨a, ha, rfl⟩ := mem_update.1 hb
    have hne : id a ≠ id r := fun hsame => hid (List.mem_map.2 ⟨a, ha, hsame⟩)
    simp only [beq_iff_eq] at heq
    split at heq
    next hai =>
      rw [if_neg fun hri => hne (hai.trans hri.symm)] at heq
      exact hr' r List.mem_cons_self (fun hri => hne (hai.trans hri.symm)) heq.symm
    next hai =>
      split at heq
      · exact hr' a (List.mem_cons_of_mem r ha) hai heq
      · exact hkey (List.mem_map.2 ⟨a, ha, heq⟩)

theorem uniqueOn_delete {p : ρ → Bool} {t : List ρ} {key : ρ → κ} (h : UniqueOn key t) : UniqueOn key (delete p t) :=
  List.Nodup.sublist (List.Sublist.map key List.filter_sublist) h

/-- A row with a new key can be appended. -/
theorem uniqueOn_append {t : List ρ} {key : ρ → κ} {r : ρ} (h : UniqueOn key t) (hr : ∀ r' ∈ t, key r' ≠ key r) :
    UniqueOn key (t ++ [r]) := by
  unfold UniqueOn at *
  rw [List.map_append, List.nodup_append]
  refine ⟨h, by simp, ?_⟩
  intro k hk k' hk'
  obtain ⟨r', hr', rfl⟩ := List.mem_map.1 hk
  simp only [List.map_cons, List.map_nil, List.mem_singleton] at hk'
  subst hk'
  exact hr r' hr'

/-- Two rows of a table with a unique column that agree on it are one row. -/
theorem UniqueOn.eq_of_mem {t : List ρ} {key : ρ → κ} (h : UniqueOn key t) {a b : ρ} (ha : a ∈ t) (hb : b ∈ t)
    (hab : key a = key b) : a = b :=
  List.inj_on_of_nodup_map h ha hb hab

/-- The row a lookup by a unique column finds is the one that has the key. -/
theorem UniqueOn.find?_eq_some [DecidableEq κ] {t : List ρ} {key : ρ → κ} (h : UniqueOn key t) {a : ρ} (ha : a ∈ t) :
    t.find? (fun r => key r == key a) = some a := by
  cases hf : t.find? (fun r => key r == key a) with
  | none =>
    have := List.find?_eq_none.1 hf a ha
    simp at this
  | some b =>
    have hb := List.mem_of_find?_eq_some hf
    have hk : key b = key a := by simpa using List.find?_some hf
    rw [h.eq_of_mem hb ha hk]

/-! ## Writing back an object of a session -/

/-- The value a flush leaves in a column: the one in memory when it differs from the one loaded, else the one stored
now. -/
def ormWrite {β : Type*} [DecidableEq β] (loaded current stored : β) : β := if current = loaded then stored else current

@[simp] theorem ormWrite_unchanged {β : Type*} [DecidableEq β] (loaded stored : β) :
    ormWrite loaded loaded stored = stored := by
  simp [ormWrite]

/-- A flush of an object whose loaded values are still the stored ones stores the object. -/
@[simp] theorem ormWrite_loaded {β : Type*} [DecidableEq β] (loaded current : β) :
    ormWrite loaded current loaded = current := by
  unfold ormWrite
  split
  · exact Eq.symm ‹_›
  · rfl

theorem ormWrite_of_ne {β : Type*} [DecidableEq β] {loaded current : β} (h : current ≠ loaded) (stored : β) :
    ormWrite loaded current stored = current := by
  simp [ormWrite, h]

end Table
