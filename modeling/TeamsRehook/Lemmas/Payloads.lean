import TeamsRehook.Lib.Except
import TeamsRehook.Lib.JsonTree
import TeamsRehook.Webhook.Payloads

/-!
# The complexity of payloads

The loop of `_validate_json_complexity` works on a stack of values with their depths. It lets a stack pass when the
values on it have no more nodes together than are allowed, and none of them is too deep. A value that is not too deep
and within the limit of digits can be written as text, and so can its parts.
-/

namespace TeamsRehook

/-- The parts of a value are stacked one deeper. -/
theorem stackedParts_eq (depth : Nat) (v : Json) :
    stackedParts depth v = (v.parts.map fun w => (w, depth + 1)).reverse := by
  cases v with
  | obj members => rw [stackedParts, Json.parts, List.map_map, Function.comp_def]
  | _ => rfl

/-- What is counted when a value is replaced on the stack by its parts: one node less. -/
theorem sum_size_stackedParts (depth : Nat) (v : Json) : ((stackedParts depth v).map (·.1.size)).sum + 1 = v.size := by
  rw [Json.size_eq, stackedParts_eq, List.map_reverse, List.sum_reverse, List.map_map]
  rfl

/-- When a value is not too deep itself, none of its parts is too deep exactly when the value with its parts is not. -/
theorem forall_stackedParts_iff {depth bound : Nat} (hdepth : depth ≤ bound) (v : Json) :
    (∀ p ∈ stackedParts depth v, p.2 + p.1.depth ≤ bound) ↔ depth + v.depth ≤ bound := by
  have hparts : (∀ w ∈ v.parts, w.depth + 1 ≤ bound - depth) ↔ depth + v.depth ≤ bound := by
    rw [← Json.depth_le_iff]
    omega
  rw [← hparts, stackedParts_eq]
  simp only [List.mem_reverse, List.forall_mem_map]
  constructor
  · intro h w hw
    have := h w hw
    omega
  · intro h w hw
    have := h w hw
    omega

/-- The loop lets a stack pass when its values have no more nodes than may still come, and none is too deep. -/
theorem validateStack_eq_ok_iff {nodes : Nat} {stack : List (Json × Nat)} :
    validateStack nodes stack = .ok () ↔
      (stack.map (·.1.size)).sum ≤ nodes ∧ ∀ p ∈ stack, p.2 + p.1.depth ≤ maxJsonDepth := by
  induction nodes generalizing stack with
  | zero =>
    cases stack with
    | nil => simp [validateStack]
    | cons p stack =>
      have hsize := Json.size_eq p.1
      rw [validateStack, List.map_cons, List.sum_cons]
      constructor
      · intro h
        split at h <;> nomatch h
      · rintro ⟨h, -⟩
        omega
  | succ nodes ih =>
    cases stack with
    | nil => simp [validateStack]
    | cons p stack =>
      obtain ⟨current, depth⟩ := p
      rw [validateStack, List.map_cons, List.sum_cons, List.forall_mem_cons]
      split
      next hdeep =>
        refine ⟨nofun, fun ⟨_, h, _⟩ => ?_⟩
        omega
      next hdepth =>
        have hsize := sum_size_stackedParts depth current
        rw [ih, List.map_append, List.sum_append, List.forall_mem_append, forall_stackedParts_iff (Nat.not_lt.1 hdepth)]
        refine and_congr ?_ Iff.rfl
        dsimp only
        omega

/-- The check of the complexity raises nothing but a `WebhookPayloadError`. -/
theorem error_of_validateStack {nodes : Nat} {stack : List (Json × Nat)} {e : Exn}
    (h : validateStack nodes stack = .error e) : ∃ message, e = .webhookPayload message := by
  induction nodes generalizing stack with
  | zero =>
    cases stack with
    | nil => nomatch h
    | cons p stack =>
      rw [validateStack] at h
      split at h <;> exact ⟨_, (Except.error.inj h).symm⟩
  | succ nodes ih =>
    cases stack with
    | nil => nomatch h
    | cons p stack =>
      rw [validateStack] at h
      split at h
      · exact ⟨_, (Except.error.inj h).symm⟩
      · exact ih h

/-- The check lets a value pass when it is neither too deep nor too large. -/
theorem validateJsonComplexity_eq_ok_iff {v : Json} :
    validateJsonComplexity v = .ok () ↔ v.depth ≤ maxJsonDepth ∧ v.size ≤ maxJsonNodes := by
  unfold validateJsonComplexity
  rw [validateStack_eq_ok_iff]
  simp [and_comm]

mutual

/-- A function that calls itself for every part of a value is nested as often as the value is deep, and once more. -/
theorem nesting_eq : (v : Json) → nesting v = v.depth + 1
  | .arr items => by rw [nesting, nestingItems_eq items, Json.depth]
  | .obj members => by rw [nesting, nestingMembers_eq members, Json.depth]
  | .null | .bool _ | .int _ | .float _ | .str _ => rfl

theorem nestingItems_eq : (items : List Json) → nestingItems items = Json.depthItems items
  | [] => rfl
  | v :: items => by rw [nestingItems, nesting_eq v, nestingItems_eq items, Json.depthItems]

theorem nestingMembers_eq : (members : List (String × Json)) → nestingMembers members = Json.depthMembers members
  | [] => rfl
  | (_, v) :: members => by rw [nestingMembers, nesting_eq v, nestingMembers_eq members, Json.depthMembers]

end

namespace PayloadsAux

/-! ## Values that can be written -/

/-- The value can be written as text. -/
structure Writable (frames : Nat) (v : Json) : Prop where
  digits : withinDigits intMaxStrDigits v = true
  nested : nesting v ≤ frames

variable {P : Platform} {frames : Nat} {v : Json} {items : List Json} {members : List (String × Json)}

theorem writable_eq_ok (h : Writable frames v) : writable frames v = .ok () := by
  unfold writable
  rw [if_neg (by simp [h.digits]), if_neg (Nat.not_lt.2 h.nested)]

theorem returns_str (h : Writable frames v) : (str P frames v).Returns := by
  unfold str
  rw [writable_eq_ok h]
  exact Except.returns_ok _

theorem returns_dumps (h : Writable frames v) : (dumps frames v).Returns := by
  unfold dumps
  rw [writable_eq_ok h]
  exact Except.returns_ok _

/-- Every item of a list that can be written can be written, with a call less. -/
theorem Writable.of_mem_items (h : Writable (frames + 1) (.arr items)) (hv : v ∈ items) : Writable frames v := by
  have hdigits := h.digits
  have hnested : nestingItems items ≤ frames := Nat.le_of_succ_le_succ h.nested
  rw [withinDigits] at hdigits
  clear h
  induction items with
  | nil => nomatch hv
  | cons item items ih =>
    rw [withinDigitsItems, Bool.and_eq_true] at hdigits
    rw [nestingItems, Nat.max_le] at hnested
    rcases List.mem_cons.1 hv with rfl | hv
    · exact ⟨hdigits.1, hnested.1⟩
    · exact ih hv hdigits.2 hnested.2

/-- Every member of an object that can be written can be written, with a call less. -/
theorem Writable.of_mem_members {key : String} (h : Writable (frames + 1) (.obj members)) (hv : (key, v) ∈ members) :
    Writable frames v := by
  have hdigits := h.digits
  have hnested : nestingMembers members ≤ frames := Nat.le_of_succ_le_succ h.nested
  rw [withinDigits] at hdigits
  clear h
  induction members with
  | nil => nomatch hv
  | cons member members ih =>
    rw [withinDigitsMembers, Bool.and_eq_true] at hdigits
    rw [nestingMembers, Nat.max_le] at hnested
    rcases List.mem_cons.1 hv with rfl | hv
    · exact ⟨hdigits.1, hnested.1⟩
    · exact ih hv hdigits.2 hnested.2

theorem Writable.mono {frames' : Nat} (h : Writable frames v) (hle : frames ≤ frames') : Writable frames' v :=
  ⟨h.digits, h.nested.trans hle⟩

/-- A key that is found has a member. -/
theorem mem_of_lookup {key : String} (h : Json.lookup key members = some v) : (key, v) ∈ members := by
  induction members with
  | nil => nomatch h
  | cons member members ih =>
    obtain ⟨k, w⟩ := member
    rw [Json.lookup] at h
    split at h
    next hk =>
      cases h
      rw [hk]
      exact List.mem_cons_self
    next => exact List.mem_cons_of_mem _ (ih h)

/-- What an object that can be written has for a key can be written, with a call less. -/
theorem Writable.item_lt (h : Writable (frames + 2) (.obj members)) (key : String) :
    Writable (frames + 1) (item key members) := by
  unfold TeamsRehook.item
  cases hlookup : Json.lookup key members with
  | none => exact ⟨rfl, Nat.succ_le_succ (Nat.zero_le _)⟩
  | some v => exact h.of_mem_members (mem_of_lookup hlookup)

/-- What an object that can be written has for a key can be written. -/
theorem Writable.item (h : Writable (frames + 1) (.obj members)) (key : String) :
    Writable (frames + 1) (item key members) :=
  (h.mono (Nat.le_succ _)).item_lt key

/-- A text can be written. -/
theorem writable_str (s : String) : Writable (frames + 1) (.str s) := ⟨rfl, Nat.succ_le_succ (Nat.zero_le _)⟩

/-- Of two values that can be written, the one that is used can. -/
theorem Writable.orElse {w : Json} (h : Writable frames v) (h' : Writable frames w) : Writable frames (orElse v w) := by
  unfold TeamsRehook.orElse
  split
  · exact h
  · exact h'

end PayloadsAux

end TeamsRehook
