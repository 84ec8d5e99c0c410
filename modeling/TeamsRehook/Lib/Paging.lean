import Mathlib.Data.List.Basic
import Mathlib.Data.List.Count
import Mathlib.Data.List.Sort

/-!
# Windows of a list

A window of a list is what a paged answer shows of it: the elements from an offset on, cut to a limit, and whether there
are more of them. It can be found by a scan that reads the elements one after the other and looks one element further
than it shows (`Scanned`), and a client that asks for one window after the other until there are no more reads the whole
list (`Walk`). Where the list is sorted, the place of an element is the number of those before it in the order
(`getElem?_countP`).
-/

namespace Paging

variable {α : Type}

/-- The window of a list at an offset: its elements, and whether there are elements behind it. -/
def window (offset limit : Nat) (l : List α) : List α × Bool :=
  ((l.drop offset).take limit, decide (offset + limit < l.length))

/-! ## Scanning -/

/-- A scan has read the elements of `l` and goes on: it has kept those from the offset on, which are not more than the
limit, and has counted all of them. -/
structure Scanned (offset limit : Nat) (l kept : List α) (count : Nat) : Prop where
  kept_eq : kept = l.drop offset
  count_eq : count = l.length
  kept_le : kept.length ≤ limit

variable {offset limit count : Nat} {l kept : List α} {x : α}

theorem Scanned.nil : Scanned offset limit ([] : List α) [] 0 := ⟨by simp, rfl, Nat.zero_le _⟩

/-- An element before the offset is counted and not kept. -/
theorem Scanned.skip (h : Scanned offset limit l kept count) (hcount : count < offset) :
    Scanned offset limit (l ++ [x]) kept (count + 1) := by
  have hlength := h.count_eq
  refine ⟨?_, by simp [hlength], h.kept_le⟩
  rw [h.kept_eq, List.drop_eq_nil_of_le (by omega), List.drop_eq_nil_of_le (by simp; omega)]

theorem Scanned.drop_append (h : Scanned offset limit l kept count) (hcount : offset ≤ count) :
    kept ++ [x] = (l ++ [x]).drop offset := by
  have hlength := h.count_eq
  rw [h.kept_eq, List.drop_append_of_le_length (by omega)]

/-- An element from the offset on is kept as long as the limit is not passed. -/
theorem Scanned.keep (h : Scanned offset limit l kept count) (hcount : offset ≤ count)
    (hlimit : (kept ++ [x]).length ≤ limit) : Scanned offset limit (l ++ [x]) (kept ++ [x]) (count + 1) :=
  ⟨h.drop_append hcount, by simp [h.count_eq], hlimit⟩

/-- The element that passes the limit shows that there are more: what was kept is the window, whatever follows. -/
theorem Scanned.window_of_passed (h : Scanned offset limit l kept count) (hcount : offset ≤ count)
    (hlimit : limit < (kept ++ [x]).length) (rest : List α) :
    window offset limit (l ++ [x] ++ rest) = ((kept ++ [x]).take limit, true) := by
  have hdrop := h.drop_append (x := x) hcount
  have hlength := h.count_eq
  unfold window
  rw [List.drop_append_of_le_length (by simp; omega), ← hdrop, List.take_append_of_le_length (by omega)]
  have hmore : offset + limit < (l ++ [x] ++ rest).length := by
    rw [hdrop, List.length_drop] at hlimit
    simp only [List.length_append] at hlimit ⊢
    omega
  rw [decide_eq_true hmore]

/-- At the end of the list the window is what was kept. -/
theorem Scanned.window_eq (h : Scanned offset limit l kept count) : window offset limit l = (kept, false) := by
  have hle := h.kept_le
  rw [h.kept_eq, List.length_drop] at hle
  unfold window
  rw [← h.kept_eq, List.take_of_length_le h.kept_le, decide_eq_false (by omega)]

/-- A scan that goes on has not read more elements than those before the end of the window. -/
theorem Scanned.length_le (h : Scanned offset limit l kept count) : l.length ≤ offset + limit := by
  have hle := h.kept_le
  rw [h.kept_eq, List.length_drop] at hle
  omega

/-! ## Walking -/

/-- A client asks for windows from an offset on, as long as the answer says that there are more, and collects the
elements. -/
inductive Walk {α : Type} (request : Nat → Option (List α × Bool)) (limit : Nat) : Nat → List α → Prop
  | last {offset : Nat} {items : List α} (h : request offset = some (items, false)) : Walk request limit offset items
  | more {offset : Nat} {items rest : List α} (h : request offset = some (items, true))
      (hrest : Walk request limit (offset + limit) rest) : Walk request limit offset (items ++ rest)

variable {request : Nat → Option (List α × Bool)}

/-- What a walk collects is determined by the answers. -/
theorem Walk.unique {items items' : List α} (h : Walk request limit offset items)
    (h' : Walk request limit offset items') : items = items' := by
  induction h generalizing items' with
  | last h =>
    cases h' with
    | last h' => exact (Prod.mk.inj (Option.some.inj (h.symm.trans h'))).1
    | more h' _ => exact absurd (Prod.mk.inj (Option.some.inj (h.symm.trans h'))).2 (by decide)
  | more h _ ih =>
    cases h' with
    | last h' => exact absurd (Prod.mk.inj (Option.some.inj (h.symm.trans h'))).2 (by decide)
    | more h' hrest => rw [(Prod.mk.inj (Option.some.inj (h.symm.trans h'))).1, ih hrest]

/-- A walk over the windows of a list collects what the list has from the offset on; it comes to its end because each
window that is not the last one has `limit` elements. -/
theorem walk_windows (hlimit : 0 < limit) (hrequest : ∀ offset, request offset = some (window offset limit l))
    (offset : Nat) : Walk request limit offset (l.drop offset) := by
  induction hleft : l.length - offset using Nat.strongRecOn generalizing offset with
  | ind left ih =>
    by_cases hmore : offset + limit < l.length
    · have hrest := ih (l.length - (offset + limit)) (by omega) (offset + limit) rfl
      have hsplit : l.drop offset = (l.drop offset).take limit ++ l.drop (offset + limit) := by
        rw [← List.drop_drop, List.take_append_drop]
      rw [hsplit]
      refine .more ?_ hrest
      rw [hrequest, window, decide_eq_true hmore]
    · refine .last ?_
      rw [hrequest, window, decide_eq_false hmore, List.take_of_length_le (by rw [List.length_drop]; omega)]

/-! ## Pages of a sorted list -/

variable {lt : α → α → Bool}

/-- In a list that a strict order sorts, the place of an element is the number of those before it in the order. -/
theorem getElem?_countP (hasymm : ∀ a b, lt a b = true → lt b a = false) (hsorted : l.Pairwise fun a b => lt a b = true)
    (hx : x ∈ l) : l[l.countP (lt · x)]? = some x := by
  induction l with
  | nil => cases hx
  | cons a l ih =>
    obtain ⟨hfirst, hrest⟩ := List.pairwise_cons.1 hsorted
    rcases List.mem_cons.1 hx with rfl | hx
    · have hself : lt x x = false := by
        by_contra hlt
        have hlt : lt x x = true := by simpa using hlt
        exact absurd (hasymm x x hlt) (by simp [hlt])
      have hnone : l.countP (lt · x) = 0 := List.countP_eq_zero.2 fun b hb => by simp [hasymm x b (hfirst b hb)]
      rw [List.countP_cons_of_neg (by simp [hself]), hnone]
      rfl
    · rw [List.countP_cons_of_pos (p := (lt · x)) (hfirst x hx)]
      exact ih hrest hx

/-- Sorting the elements of a list, no two of which are equal in the order, sorts them strictly. -/
theorem pairwise_insertionSort (htrans : ∀ a b c, lt b a = false → lt c b = false → lt c a = false)
    (hasymm : ∀ a b, lt a b = true → lt b a = false) (hdistinct : l.Pairwise fun a b => lt a b = true ∨ lt b a = true) :
    (l.insertionSort fun a b => lt b a = false).Pairwise fun a b => lt a b = true := by
  have : IsTrans α fun a b => lt b a = false := ⟨htrans⟩
  have : Std.Total fun a b => lt b a = false := ⟨fun a b => by
    cases hlt : lt a b with
    | true => exact .inl (hasymm a b hlt)
    | false => exact .inr rfl⟩
  have hsorted := List.pairwise_insertionSort (fun a b => lt b a = false) l
  have hdistinct' := (List.perm_insertionSort (fun a b => lt b a = false) l).symm.pairwise hdistinct fun h => h.symm
  refine (hsorted.and hdistinct').imp ?_
  rintro a b ⟨hle, hlt | hlt⟩
  · exact hlt
  · rw [hlt] at hle
    cases hle

/-- The page of a sorted list that has the place of an element has the element. -/
theorem mem_page (hasymm : ∀ a b, lt a b = true → lt b a = false) (hsorted : l.Pairwise fun a b => lt a b = true)
    (hx : x ∈ l) (hbefore : offset ≤ l.countP (lt · x)) (hafter : l.countP (lt · x) < offset + limit) :
    x ∈ (l.drop offset).take limit := by
  rw [List.mem_iff_getElem?]
  refine ⟨l.countP (lt · x) - offset, ?_⟩
  rw [List.getElem?_take_of_lt (by omega), List.getElem?_drop, Nat.add_sub_cancel' hbefore]
  exact getElem?_countP hasymm hsorted hx

end Paging
