import Mathlib.Algebra.GroupWithZero.Nat
import TeamsRehook.Lib.Json

/-!
# JSON values as trees

The depth and the size of a JSON value, by recursion on the value, and the values that differ in the order of their
items and members only. The root of a value has depth 0, and every part of a container is one deeper.
-/

namespace Json

/-- The parts of a container: its items, or the values of its members. -/
def parts : Json → List Json
  | .arr items => items
  | .obj members => members.map (·.2)
  | _ => []

mutual

/-- How deep the deepest part of the value is. -/
def depth : Json → Nat
  | .arr items => depthItems items
  | .obj members => depthMembers members
  | _ => 0

/-- How deep the deepest part is of a container with these items. -/
def depthItems : List Json → Nat
  | [] => 0
  | v :: rest => max (depth v + 1) (depthItems rest)

/-- How deep the deepest part is of a container with these members. -/
def depthMembers : List (String × Json) → Nat
  | [] => 0
  | (_, v) :: rest => max (depth v + 1) (depthMembers rest)

end

mutual

/-- The number of nodes of the value: the value and all its parts. -/
def size : Json → Nat
  | .arr items => sizeItems items + 1
  | .obj members => sizeMembers members + 1
  | _ => 1

/-- The number of nodes of the items. -/
def sizeItems : List Json → Nat
  | [] => 0
  | v :: rest => size v + sizeItems rest

/-- The number of nodes of the members. -/
def sizeMembers : List (String × Json) → Nat
  | [] => 0
  | (_, v) :: rest => size v + sizeMembers rest

end

theorem depthMembers_eq (members : List (String × Json)) : depthMembers members = depthItems (members.map (·.2)) := by
  induction members with
  | nil => rfl
  | cons m members ih =>
    obtain ⟨k, v⟩ := m
    rw [depthMembers, ih, List.map_cons, depthItems]

theorem sizeItems_eq (items : List Json) : sizeItems items = (items.map size).sum := by
  induction items with
  | nil => rfl
  | cons v items ih => rw [sizeItems, ih, List.map_cons, List.sum_cons]

theorem sizeMembers_eq (members : List (String × Json)) : sizeMembers members = sizeItems (members.map (·.2)) := by
  induction members with
  | nil => rfl
  | cons m members ih =>
    obtain ⟨k, v⟩ := m
    rw [sizeMembers, ih, List.map_cons, sizeItems]

theorem depthItems_le_iff {items : List Json} {n : Nat} : depthItems items ≤ n ↔ ∀ w ∈ items, depth w + 1 ≤ n := by
  induction items with
  | nil => simp [depthItems]
  | cons v items ih => rw [depthItems, Nat.max_le, ih, List.forall_mem_cons]

/-- The depth of a value is that of its parts. -/
theorem depth_eq (v : Json) : v.depth = depthItems v.parts := by
  cases v with
  | arr items => rw [depth, parts]
  | obj members => rw [depth, parts, depthMembers_eq]
  | _ => rfl

/-- The size of a value is that of its parts. -/
theorem size_eq (v : Json) : v.size = (v.parts.map size).sum + 1 := by
  cases v with
  | arr items => rw [size, parts, sizeItems_eq]
  | obj members => rw [size, parts, sizeMembers_eq, sizeItems_eq]
  | _ => rfl

/-- A value is not deeper than a bound when each of its parts leaves room for one step. -/
theorem depth_le_iff {v : Json} {n : Nat} : v.depth ≤ n ↔ ∀ w ∈ v.parts, w.depth + 1 ≤ n := by
  rw [depth_eq, depthItems_le_iff]

/-! ## The order of the parts -/

/-- The values differ in the order of the items and members of their containers only. -/
inductive Reordered : Json → Json → Prop
  | items {items items' : List Json} (h : items.Perm items') : Reordered (.arr items) (.arr items')
  | members {members members' : List (String × Json)} (h : members.Perm members') : Reordered (.obj members)
      (.obj members')
  | item {v v' : Json} (before after : List Json) (h : Reordered v v') :
    Reordered (.arr (before ++ v :: after)) (.arr (before ++ v' :: after))
  | member {v v' : Json} (key : String) (before after : List (String × Json)) (h : Reordered v v') :
    Reordered (.obj (before ++ (key, v) :: after)) (.obj (before ++ (key, v') :: after))
  | trans {u v w : Json} (h : Reordered u v) (h' : Reordered v w) : Reordered u w

/-- Containers with the same parts up to their order are as deep. -/
theorem depthItems_perm {items items' : List Json} (h : items.Perm items') : depthItems items = depthItems items' := by
  apply le_antisymm
  · exact depthItems_le_iff.2 fun w hw => depthItems_le_iff.1 le_rfl w (h.mem_iff.1 hw)
  · exact depthItems_le_iff.2 fun w hw => depthItems_le_iff.1 le_rfl w (h.mem_iff.2 hw)

/-- The depth of a container with a part among others. -/
theorem depthItems_mid (before after : List Json) (v : Json) :
    depthItems (before ++ v :: after) = max (depthItems (before ++ after)) (v.depth + 1) := by
  induction before with
  | nil => rw [List.nil_append, List.nil_append, depthItems, Nat.max_comm]
  | cons w before ih => rw [List.cons_append, List.cons_append, depthItems, depthItems, ih, Nat.max_assoc]

/-- The order of the parts matters neither for the depth nor for the size. -/
theorem Reordered.depth_and_size {v w : Json} (h : v.Reordered w) : v.depth = w.depth ∧ v.size = w.size := by
  induction h with
  | items h =>
    refine ⟨?_, ?_⟩
    · rw [depth, depth, depthItems_perm h]
    · rw [size, size, sizeItems_eq, sizeItems_eq, (h.map size).sum_nat]
  | members h =>
    refine ⟨?_, ?_⟩
    · rw [depth, depth, depthMembers_eq, depthMembers_eq, depthItems_perm (h.map (·.2))]
    · rw [size, size, sizeMembers_eq, sizeMembers_eq, sizeItems_eq, sizeItems_eq, ((h.map Prod.snd).map size).sum_nat]
  | item before after h ih =>
    refine ⟨?_, ?_⟩
    · rw [depth, depth, depthItems_mid, depthItems_mid, ih.1]
    · simp only [size, sizeItems_eq, List.map_append, List.map_cons, List.sum_append, List.sum_cons, ih.2]
  | member key before after h ih =>
    refine ⟨?_, ?_⟩
    · simp only [depth, depthMembers_eq, List.map_append, List.map_cons, depthItems_mid, ih.1]
    · simp only [size, sizeMembers_eq, sizeItems_eq, List.map_append, List.map_cons, List.sum_append, List.sum_cons, ih.2]
  | trans h h' ih ih' => exact ⟨ih.1.trans ih'.1, ih.2.trans ih'.2⟩

/-! ## Strings and paths -/

mutual

/-- The string values in a value; the keys of its objects are none. -/
def strings : Json → List String
  | .str s => [s]
  | .arr items => stringsOfItems items
  | .obj members => stringsOfMembers members
  | _ => []

/-- The string values in the items. -/
def stringsOfItems : List Json → List String
  | [] => []
  | v :: rest => strings v ++ stringsOfItems rest

/-- The string values in the members. -/
def stringsOfMembers : List (String × Json) → List String
  | [] => []
  | (_, v) :: rest => strings v ++ stringsOfMembers rest

end

/-- A step into a value: to the member with a key, or to the item with an index. -/
inductive Step where
  | key (key : String)
  | index (i : Nat)

/-- What a step leads to. -/
def child? : Json → Step → Option Json
  | .obj members, .key key => lookup key members
  | .arr items, .index i => items[i]?
  | _, _ => none

/-- What stands at the end of a path. -/
def at? (v : Json) : List Step → Option Json
  | [] => some v
  | step :: path => (v.child? step).bind fun w => w.at? path

/-! ## Values that agree outside secrets -/

/-- The values are equal, as `==` compares them, except inside what stands under secret keys. The members of a `dict`
come in the same order when `reorders` does not hold of their number. -/
inductive Agree (secret : String → Bool) (reorders : Nat → Prop) : Json → Json → Prop
  | refl (v : Json) : Agree secret reorders v v
  | item {v w : Json} (before after : List Json) (h : Agree secret reorders v w) :
    Agree secret reorders (.arr (before ++ v :: after)) (.arr (before ++ w :: after))
  | member {v w : Json} (key : String) (before after : List (String × Json)) (h : secret key = false →
    Agree secret reorders v w) :
    Agree secret reorders (.obj (before ++ (key, v) :: after)) (.obj (before ++ (key, w) :: after))
  | order {members members' : List (String × Json)} (hlength : reorders members.length) (h : members.Perm members') :
    Agree secret reorders (.obj members) (.obj members')
  | trans {u v w : Json} (h : Agree secret reorders u v) (h' : Agree secret reorders v w) : Agree secret reorders u w

/-- No key is secret. -/
def noSecret : String → Bool := fun _ => false

/-- The values are equal, as `==` compares them. -/
abbrev Equal : Json → Json → Prop := Agree noSecret fun _ => True

/-- Without secrets and another order, values that agree are the same. -/
theorem Agree.eq {v w : Json} (h : Agree noSecret (fun _ => False) v w) : v = w := by
  induction h with
  | refl v => rfl
  | item before after h ih => rw [ih]
  | member key before after h ih => rw [ih rfl]
  | order hlength => exact hlength.elim
  | trans h h' ih ih' => exact ih.trans ih'

/-- The keys of an object; another value has none. -/
def keys : Json → List String
  | .obj members => members.map (·.1)
  | _ => []

/-- Values that agree have the same keys. -/
theorem Agree.keys_perm {secret : String → Bool} {R : Nat → Prop} {v w : Json} (h : Agree secret R v w) :
    v.keys.Perm w.keys := by
  induction h with
  | refl v => exact .refl _
  | item before after h ih => exact .refl _
  | member key before after h ih => simp only [keys, List.map_append, List.map_cons, List.Perm.refl]
  | order hlength h => exact h.map _
  | trans h h' ih ih' => exact ih.trans ih'

end Json
