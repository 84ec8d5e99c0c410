import TeamsRehook.Lib.Json

/-!
# The characters of a JSON text

`json.dumps` with its default `ensure_ascii=True` writes printable ASCII characters only, so that its text stands on one
line, when the `repr` of each float does.
-/

namespace Json

mutual

/-- The floats of a value. -/
def floats : Json → List String
  | .float r => [r]
  | .arr items => floatsItems items
  | .obj members => floatsMembers members
  | _ => []

/-- Those of the items of an array. -/
def floatsItems : List Json → List String
  | [] => []
  | v :: rest => v.floats ++ floatsItems rest

/-- Those of the members of an object. -/
def floatsMembers : List (String × Json) → List String
  | [] => []
  | (_, v) :: rest => v.floats ++ floatsMembers rest

end

/-- A printable ASCII character. -/
def Printable (c : Char) : Prop := 32 ≤ c.toNat ∧ c.toNat < 127

instance (c : Char) : Decidable (Printable c) := inferInstanceAs (Decidable (_ ∧ _))

/-- The `repr` of each float is printable. -/
def PrintableFloats (v : Json) : Prop := ∀ r ∈ v.floats, ∀ c ∈ r.toList, Printable c

theorem printable_of_all {cs : List Char} (h : (cs.all fun c => decide (Printable c)) = true) :
    ∀ c ∈ cs, Printable c := by
  intro c hc
  exact of_decide_eq_true (List.all_eq_true.1 h c hc)

theorem printable_hexDigit {n : Nat} (h : n < 16) : Printable (hexDigit n) := by
  have hall : ∀ n, n < 16 → Printable (hexDigit n) := by decide
  exact hall n h

theorem printable_escapeUnit (n : Nat) : ∀ c ∈ escapeUnit n, Printable c := by
  intro c hc
  simp only [escapeUnit, List.mem_cons, List.not_mem_nil, or_false] at hc
  rcases hc with rfl | rfl | rfl | rfl | rfl | rfl
  · decide
  · decide
  all_goals exact printable_hexDigit (Nat.mod_lt _ (by decide))

/-- Every other character is escaped. -/
theorem printable_escapeChar (c : Char) : ∀ d ∈ escapeChar true c, Printable d := by
  intro d hd
  simp only [escapeChar, Bool.true_and, decide_eq_true_eq] at hd
  split at hd
  · exact printable_of_all (by decide) d hd
  split at hd
  · exact printable_of_all (by decide) d hd
  split at hd
  · exact printable_of_all (by decide) d hd
  split at hd
  · exact printable_of_all (by decide) d hd
  split at hd
  · exact printable_of_all (by decide) d hd
  split at hd
  · exact printable_of_all (by decide) d hd
  split at hd
  · exact printable_of_all (by decide) d hd
  split at hd
  · exact printable_escapeUnit _ d hd
  split at hd
  · split at hd
    · exact printable_escapeUnit _ d hd
    · rcases List.mem_append.1 hd with hd | hd
      · exact printable_escapeUnit _ d hd
      · exact printable_escapeUnit _ d hd
  · rw [List.mem_singleton.1 hd]
    unfold Printable
    omega

theorem printable_dumpStr (s : String) : ∀ c ∈ dumpStr true s, Printable c := by
  intro c hc
  simp only [dumpStr, List.append_assoc, List.mem_append, List.mem_flatMap, List.mem_singleton] at hc
  rcases hc with rfl | ⟨d, -, hc⟩ | rfl
  · decide
  · exact printable_escapeChar d c hc
  · decide

theorem printable_of_isDigit {c : Char} (h : c.isDigit = true) : Printable c := by
  have hval : c.val.toNat = c.toNat := rfl
  have hdigit : '0'.val.toNat = 48 ∧ '9'.val.toNat = 57 := ⟨rfl, rfl⟩
  simp only [Char.isDigit, ge_iff_le, Bool.and_eq_true, decide_eq_true_eq, UInt32.le_iff_toNat_le, hval] at h
  unfold Printable
  omega

theorem printable_natRepr (n : Nat) : ∀ c ∈ (Nat.repr n).toList, Printable c := by
  intro c hc
  rw [Nat.toList_repr] at hc
  exact printable_of_isDigit (Nat.isDigit_of_mem_toDigits (by decide) (by decide) hc)

theorem printable_intRepr (n : Int) : ∀ c ∈ (toString n).toList, Printable c := by
  cases n with
  | ofNat n => exact printable_natRepr n
  | negSucc n =>
    intro c hc
    have hrepr : toString (Int.negSucc n) = "-" ++ (n + 1).repr := rfl
    rw [hrepr, String.toList_append] at hc
    rcases List.mem_append.1 hc with hc | hc
    · exact printable_of_all (by decide) c hc
    · exact printable_natRepr _ c hc

/-- A character of texts that are joined is one of the separator or of a text. -/
theorem mem_intercalate {c : Char} {sep : List Char} {texts : List (List Char)} (h : c ∈ sep.intercalate texts) :
    c ∈ sep ∨ ∃ text ∈ texts, c ∈ text := by
  induction texts with
  | nil => exact absurd h List.not_mem_nil
  | cons text rest ih =>
    cases rest with
    | nil => exact .inr ⟨text, List.mem_cons_self, by simpa [List.intercalate] using h⟩
    | cons next rest =>
      rw [List.intercalate_cons_cons, List.append_assoc, List.mem_append, List.mem_append] at h
      rcases h with h | h | h
      · exact .inr ⟨text, List.mem_cons_self, h⟩
      · exact .inl h
      · exact (ih h).imp_right fun ⟨t, ht, hc⟩ => ⟨t, List.mem_cons_of_mem _ ht, hc⟩

theorem mem_order_iff {sortKeys : Bool} {m : String × List Char} {members : List (String × List Char)} :
    m ∈ order sortKeys members ↔ m ∈ members := by
  unfold order
  split
  · exact List.mem_insertionSort _
  · exact Iff.rfl

mutual

/-- The text of a value is printable. -/
theorem printable_dumpChars (sortKeys : Bool) : ∀ v :
    Json, v.PrintableFloats → ∀ c ∈ dumpChars true sortKeys v, Printable c
  | .null, _ => @printable_of_all ['n', 'u', 'l', 'l'] (by decide)
  | .bool true, _ => @printable_of_all ['t', 'r', 'u', 'e'] (by decide)
  | .bool false, _ => @printable_of_all ['f', 'a', 'l', 's', 'e'] (by decide)
  | .int n, _ => printable_intRepr n
  | .float r, h => h r (List.mem_singleton_self r)
  | .str s, _ => printable_dumpStr s
  | .arr items, h => by
    intro c hc
    simp only [dumpChars, List.mem_append, List.mem_singleton] at hc
    rcases hc with (rfl | hc) | rfl
    · decide
    · rcases mem_intercalate hc with hc | ⟨text, htext, hc⟩
      · exact printable_of_all (by decide) c hc
      · exact printable_dumpItems sortKeys items h text htext c hc
    · decide
  | .obj members, h => by
    intro c hc
    simp only [dumpChars, List.mem_append, List.mem_singleton] at hc
    rcases hc with (rfl | hc) | rfl
    · decide
    · rcases mem_intercalate hc with hc | ⟨text, htext, hc⟩
      · exact printable_of_all (by decide) c hc
      · obtain ⟨m, hm, rfl⟩ := List.mem_map.1 htext
        rcases List.mem_append.1 hc with hc | hc
        · rcases List.mem_append.1 hc with hc | hc
          · exact printable_dumpStr m.1 c hc
          · exact printable_of_all (by decide) c hc
        · exact printable_dumpMembers sortKeys members h m (mem_order_iff.1 hm) c hc
    · decide

theorem printable_dumpItems (sortKeys : Bool) : ∀ items :
    List Json, (∀ r ∈ floatsItems items, ∀ c ∈ r.toList, Printable c) →
    ∀ text ∈ dumpItems true sortKeys items, ∀ c ∈ text, Printable c
  | [], _ => fun text htext => absurd htext List.not_mem_nil
  | v :: rest, h => by
    intro text htext
    rcases List.mem_cons.1 htext with rfl | htext
    · exact printable_dumpChars sortKeys v fun r hr => h r (List.mem_append_left _ hr)
    · exact printable_dumpItems sortKeys rest (fun r hr => h r (List.mem_append_right _ hr)) text htext

theorem printable_dumpMembers (sortKeys : Bool) : ∀ members : List (String × Json),
    (∀ r ∈ floatsMembers members, ∀ c ∈ r.toList, Printable c) → ∀ m ∈ dumpMembers true sortKeys members,
    ∀ c ∈ m.2, Printable c
  | [], _ => fun m hm => absurd hm List.not_mem_nil
  | (k, v) :: rest, h => by
    intro m hm
    rcases List.mem_cons.1 hm with rfl | hm
    · exact printable_dumpChars sortKeys v fun r hr => h r (List.mem_append_left _ hr)
    · exact printable_dumpMembers sortKeys rest (fun r hr => h r (List.mem_append_right _ hr)) m hm

end

end Json
