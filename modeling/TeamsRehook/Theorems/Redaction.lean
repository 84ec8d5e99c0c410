import TeamsRehook.EventLog

/-!
# Redaction

What stands under a sensitive key makes no difference to what is stored of an event. `redact` keeps every key of a
`dict`, while the clipping of a preview keeps the first 50 of them.
-/

namespace TeamsRehook

/-- The step is one that `redact` follows: to a key that is not sensitive, or to an item that is kept. -/
def Shown : Json.Step → Prop
  | .key key => isSensitiveKey key = false
  | .index i => i < 50

namespace RedactionAux

open Json (Agree)

variable {p : Bool} {limit : Nat}

/-! ## The clauses -/

/-- The keys that are exempted are not sensitive. -/
theorem isRedactedKey_eq (p : Bool) (key : String) : isRedactedKey p key = isSensitiveKey key := by
  have hraw : ∀ k ∈ rawSourceKeys, isSensitiveKey k = false := by decide +kernel
  unfold isRedactedKey
  cases hkey : rawSourceKeys.contains key with
  | false => rw [Bool.and_false, Bool.not_false, Bool.and_true]
  | true =>
    rw [hraw key (List.contains_iff_mem.1 hkey)]
    rfl

/-- The first items of an array are redacted one by one. -/
theorem redactItems_eq (n : Nat) (items : List Json) : redactItems p n items = (items.take n).map (redact p) := by
  induction items generalizing n with
  | nil => cases n <;> rfl
  | cons v items ih =>
    cases n with
    | zero => rfl
    | succ n => rw [redactItems, ih, List.take_succ_cons, List.map_cons]

/-- A member of a redacted `dict`. -/
def redactMember (p : Bool) (m : String × Json) : String × Json :=
  (m.1, if isRedactedKey p m.1 then .str "[redacted]" else redact p m.2)

/-- The members of an object are redacted one by one. -/
theorem redactMembers_eq (members : List (String × Json)) : redactMembers p members = members.map (redactMember p) := by
  induction members with
  | nil => rfl
  | cons m members ih =>
    obtain ⟨key, v⟩ := m
    rw [redactMembers, ih, List.map_cons, redactMember]

/-- The first items of an array are clipped one by one. -/
theorem clipNestedItems_eq (n : Nat) (items : List Json) :
    clipNestedItems limit n items = (items.take n).map (clipNested limit) := by
  induction items generalizing n with
  | nil => cases n <;> rfl
  | cons v items ih =>
    cases n with
    | zero => rfl
    | succ n => rw [clipNestedItems, ih, List.take_succ_cons, List.map_cons]

/-- The first members of an object are clipped one by one. -/
theorem clipNestedMembers_eq (n : Nat) (members : List (String × Json)) :
    clipNestedMembers limit n members = (members.take n).map fun m => (m.1, clipNested limit m.2) := by
  induction members generalizing n with
  | nil => cases n <;> rfl
  | cons m members ih =>
    cases n with
    | zero => rfl
    | succ n =>
      obtain ⟨key, v⟩ := m
      rw [clipNestedMembers, ih, List.take_succ_cons, List.map_cons]

/-! ## Two values that agree -/

/-- The first elements of a list that has one in the middle: with it, or without it. -/
theorem take_mid {α : Type} (n : Nat) (before after : List α) :
    (∃ rest, ∀ x, (before ++ x :: after).take n = before ++ x :: rest) ∨
      ∃ start, ∀ x, (before ++ x :: after).take n = start := by
  by_cases hn : n ≤ before.length
  · exact .inr ⟨before.take n, fun x => List.take_append_of_le_length hn⟩
  · obtain ⟨k, hk⟩ := Nat.exists_eq_add_of_lt (Nat.not_le.1 hn)
    refine .inl ⟨after.take k, fun x => ?_⟩
    have hrest : n - before.length = k + 1 := by omega
    rw [List.take_append, List.take_of_length_le (by omega), hrest, List.take_succ_cons]

/-- What stands under a sensitive key makes no difference to a redacted value. -/
theorem agree_redact {R : Nat → Prop} {v w : Json} (h : Agree (isRedactedKey p) R v w) :
    Agree Json.noSecret R (redact p v) (redact p w) := by
  induction h with
  | refl v => exact .refl _
  | item before after h ih =>
    rw [redact, redact, redactItems_eq, redactItems_eq]
    rcases take_mid 50 before after with ⟨rest, hrest⟩ | ⟨start, hstart⟩
    · rw [hrest, hrest, List.map_append, List.map_append, List.map_cons, List.map_cons]
      exact .item _ _ ih
    · rw [hstart, hstart]
      exact .refl _
  | member key before after h ih =>
    rw [redact, redact, redactMembers_eq, redactMembers_eq, List.map_append, List.map_append, List.map_cons,
      List.map_cons, redactMember, redactMember]
    cases hkey : isRedactedKey p key with
    | true => exact .refl _
    | false => exact .member key _ _ fun _ => ih hkey
  | order hlength h =>
    rw [redact, redact, redactMembers_eq, redactMembers_eq]
    exact .order (by rwa [List.length_map]) (h.map _)
  | trans h h' ih ih' => exact .trans ih ih'

/-- Clipping keeps values equal that are, when no `dict` of which some keys are dropped has them in another order. -/
theorem equal_clipNested {R : Nat → Prop} (hR : ∀ n, R n → n ≤ 50) {v w : Json} (h : Agree Json.noSecret R v w) :
    Json.Equal (clipNested limit v) (clipNested limit w) := by
  induction h with
  | refl v => exact .refl _
  | item before after h ih =>
    rw [clipNested, clipNested, clipNestedItems_eq, clipNestedItems_eq]
    rcases take_mid 50 before after with ⟨rest, hrest⟩ | ⟨start, hstart⟩
    · rw [hrest, hrest, List.map_append, List.map_append, List.map_cons, List.map_cons]
      exact .item _ _ ih
    · rw [hstart, hstart]
      exact .refl _
  | member key before after h ih =>
    rw [clipNested, clipNested, clipNestedMembers_eq, clipNestedMembers_eq]
    rcases take_mid 50 before after with ⟨rest, hrest⟩ | ⟨start, hstart⟩
    · rw [hrest, hrest, List.map_append, List.map_append, List.map_cons, List.map_cons]
      exact .member key _ _ fun hkey => ih hkey
    · rw [hstart, hstart]
      exact .refl _
  | order hlength h =>
    rw [clipNested, clipNested, clipNestedMembers_eq, clipNestedMembers_eq, List.take_of_length_le (hR _ hlength),
      List.take_of_length_le (h.length_eq ▸ hR _ hlength)]
    exact .order trivial (h.map _)
  | trans h h' ih ih' => exact .trans ih ih'

/-! ## Once more -/

/-- A slice that is cut once more. -/
theorem clip_clip (s : String) (n : Nat) : Python.clip (Python.clip s n) n = Python.clip s n := by
  unfold Python.clip
  rw [String.toList_ofList, List.take_take, Nat.min_self]

mutual

/-- A redacted value has nothing left to redact. -/
theorem redact_redact : (v : Json) → redact p (redact p v) = redact p v
  | .obj members => by rw [redact, redact, redactMembers_redactMembers members]
  | .arr items => by rw [redact, redact, redactItems_redactItems 50 items]
  | .str s => by rw [redact, redact, clip_clip]
  | .null | .bool _ | .int _ | .float _ => rfl

/-- Redacting an array twice is redacting it once. -/
theorem redactItems_redactItems : (n : Nat) → (items : List Json) → redactItems p n (redactItems p n items) =
    redactItems p n items
  | 0, [] | 0, _ :: _ | _ + 1, [] => rfl
  | n + 1, v :: rest => by rw [redactItems, redactItems, redact_redact v, redactItems_redactItems n rest]

/-- Redacting an object twice is redacting it once. -/
theorem redactMembers_redactMembers : (members : List (String × Json)) →
    redactMembers p (redactMembers p members) = redactMembers p members
  | [] => rfl
  | (key, v) :: rest => by
    rw [redactMembers, redactMembers, redactMembers_redactMembers rest]
    cases isRedactedKey p key with
    | true => rfl
    | false => rw [if_neg Bool.false_ne_true, if_neg Bool.false_ne_true, redact_redact v]

end

/-! ## Paths -/

/-- A member of a redacted `dict` under a key that is not sensitive. -/
theorem lookup_redactMembers {key : String} (hkey : isRedactedKey p key = false) (members : List (String × Json)) :
    Json.lookup key (redactMembers p members) = (Json.lookup key members).map (redact p) := by
  induction members with
  | nil => rfl
  | cons m members ih =>
    obtain ⟨k, v⟩ := m
    rw [redactMembers, Json.lookup, Json.lookup]
    split
    next hk =>
      subst hk
      rw [hkey, if_neg Bool.false_ne_true, Option.map_some]
    next => exact ih

/-- A step to what is kept of a value, and then redacted. -/
theorem child?_redact {step : Json.Step} (h : Shown step) (v : Json) :
    (redact p v).child? step = (v.child? step).map (redact p) := by
  cases step with
  | key key =>
    cases v with
    | obj members =>
      rw [redact]
      exact lookup_redactMembers ((isRedactedKey_eq p key).trans h) members
    | arr items => rw [redact]; rfl
    | _ => rfl
  | index i =>
    cases v with
    | arr items =>
      have hi : i < 50 := h
      rw [redact, redactItems_eq, Json.child?, Json.child?, List.getElem?_map, List.getElem?_take, if_pos hi]
    | obj members => rw [redact]; rfl
    | _ => rfl

/-- Where a path leads that steps to what is kept only. -/
theorem at?_redact {path : List Json.Step} (h : ∀ step ∈ path, Shown step) (v : Json) :
    (redact p v).at? path = (v.at? path).map (redact p) := by
  induction path generalizing v with
  | nil => rfl
  | cons step path ih =>
    obtain ⟨hstep, hpath⟩ := List.forall_mem_cons.1 h
    rw [Json.at?, Json.at?, child?_redact hstep]
    cases v.child? step with
    | none => rfl
    | some w => exact ih hpath w

/-- A redacted `dict` has its keys. -/
theorem keys_redact (members : List (String × Json)) :
    ∃ members', redact p (.obj members) = .obj members' ∧ members'.map (·.1) = members.map (·.1) := by
  refine ⟨_, by rw [redact], ?_⟩
  rw [redactMembers_eq, List.map_map]
  rfl

/-! ## Strings -/

mutual

/-- The strings of a redacted value are cut. -/
theorem strings_redact : (v : Json) → ∀ s ∈ (redact p v).strings, s.length ≤ 2000
  | .obj members => by
    rw [redact, Json.strings]
    exact strings_redactMembers members
  | .arr items => by
    rw [redact, Json.strings]
    exact strings_redactItems 50 items
  | .str s => by
    rw [redact, Json.strings]
    exact List.forall_mem_singleton.2 (Python.length_clip_le s 2000)
  | .null | .bool _ | .int _ | .float _ => fun _ h => nomatch h

/-- The texts of a redacted array are bounded. -/
theorem strings_redactItems : (n : Nat) → (items : List Json) → ∀ s ∈ Json.stringsOfItems (redactItems p n items),
    s.length ≤ 2000
  | 0, [] | 0, _ :: _ | _ + 1, [] => fun _ h => nomatch h
  | n + 1, v :: rest => by
    rw [redactItems, Json.stringsOfItems]
    exact List.forall_mem_append.2 ⟨strings_redact v, strings_redactItems n rest⟩

/-- The texts of a redacted object are bounded. -/
theorem strings_redactMembers : (members : List (String × Json)) →
    ∀ s ∈ Json.stringsOfMembers (redactMembers p members), s.length ≤ 2000
  | [] => fun _ h => nomatch h
  | (key, v) :: rest => by
    rw [redactMembers, Json.stringsOfMembers]
    refine List.forall_mem_append.2 ⟨?_, strings_redactMembers rest⟩
    split
    · rw [Json.strings]
      exact List.forall_mem_singleton.2 (by decide)
    · exact strings_redact v

end

mutual

/-- The strings of a clipped value are cut. -/
theorem strings_clipNested : (v : Json) → ∀ s ∈ (clipNested limit v).strings, s.length ≤ limit
  | .obj members => by
    rw [clipNested, Json.strings]
    exact strings_clipNestedMembers 50 members
  | .arr items => by
    rw [clipNested, Json.strings]
    exact strings_clipNestedItems 50 items
  | .str s => by
    rw [clipNested, Json.strings]
    exact List.forall_mem_singleton.2 (Python.length_clip_le s limit)
  | .null | .bool _ | .int _ | .float _ => fun _ h => nomatch h

/-- The texts of a clipped array are bounded. -/
theorem strings_clipNestedItems : (n : Nat) → (items : List Json) →
    ∀ s ∈ Json.stringsOfItems (clipNestedItems limit n items), s.length ≤ limit
  | 0, [] | 0, _ :: _ | _ + 1, [] => fun _ h => nomatch h
  | n + 1, v :: rest => by
    rw [clipNestedItems, Json.stringsOfItems]
    exact List.forall_mem_append.2 ⟨strings_clipNested v, strings_clipNestedItems n rest⟩

/-- The texts of a clipped object are bounded. -/
theorem strings_clipNestedMembers : (n : Nat) → (members : List (String × Json)) →
    ∀ s ∈ Json.stringsOfMembers (clipNestedMembers limit n members), s.length ≤ limit
  | 0, [] | 0, _ :: _ | _ + 1, [] => fun _ h => nomatch h
  | n + 1, (key, v) :: rest => by
    rw [clipNestedMembers, Json.stringsOfMembers]
    exact List.forall_mem_append.2 ⟨strings_clipNested v, strings_clipNestedMembers n rest⟩

end

end RedactionAux

open RedactionAux

/-! ## What redaction promises -/

/-- Two values that agree outside what stands under sensitive keys are redacted to equal values, and with the same order
of keys to the same one; the previews of them are equal too, when no `dict` with more than 50 keys has them in another
order. What is redacted stays as it is; every `dict` that is kept has all its keys; and no string is longer than its
bound. -/
theorem redaction_noninterfering (p : Bool) :
    (∀ v w, Json.Agree isSensitiveKey (fun _ => True) v w → Json.Equal (redact p v) (redact p w)) ∧
    (∀ v w, Json.Agree isSensitiveKey (fun _ => False) v w → redact p v = redact p w) ∧
    (∀ v w, Json.Agree isSensitiveKey (· ≤ 50) (.obj v) (.obj w) → Json.Equal (safeRaw true v) (safeRaw true w)) ∧
    (∀ v w, Json.Agree isSensitiveKey (fun _ => False) (.obj v) (.obj w) → safeRaw true v = safeRaw true w) ∧
    (∀ v, redact p (redact p v) = redact p v) ∧
    (∀ (v : Json) path members, (∀ step ∈ path, Shown step) → v.at? path = some (.obj members) →
      ∃ members', (redact p v).at? path = some (.obj members') ∧ members'.map (·.1) = members.map (·.1)) ∧
    (∀ (v : Json), ∀ s ∈ (redact p v).strings, s.length ≤ 2000) ∧
    ∀ v, ∀ s ∈ (safeRaw true v).strings, s.length ≤ 1200 := by
  have hsecret : ∀ q, isRedactedKey q = isSensitiveKey := fun q => funext (isRedactedKey_eq q)
  refine ⟨fun v w h => agree_redact (hsecret p ▸ h), fun v w h => (agree_redact (hsecret p ▸ h)).eq, fun v w h => ?_,
    fun v w h => ?_, redact_redact, fun v path members hpath hmembers => ?_, strings_redact, fun v => ?_⟩
  · unfold safeRaw
    rw [if_pos rfl, if_pos rfl]
    exact equal_clipNested (fun _ hn => hn) (agree_redact (hsecret false ▸ h))
  · unfold safeRaw
    rw [if_pos rfl, if_pos rfl, (agree_redact (hsecret false ▸ h)).eq]
  · obtain ⟨members', hredact, hkeys⟩ := keys_redact (p := p) members
    refine ⟨members', ?_, hkeys⟩
    rw [at?_redact hpath, hmembers, Option.map_some, hredact]
  · unfold safeRaw
    rw [if_pos rfl]
    exact strings_clipNested _

/-! ## Fixed inputs -/

/-- A `dict` with 51 keys. -/
def fiftyOneKeys : List (String × Json) := (List.range 51).map fun n => (toString n, .int n)

/-- The same keys in another order are an equal `dict`, of which another key is dropped from the preview. A `dict` under
a sensitive key is dropped with its keys. -/
theorem preview_depends_on_order :
    (Json.Agree isSensitiveKey (fun _ => True) (.obj fiftyOneKeys) (.obj fiftyOneKeys.reverse) ∧
      ¬Json.Equal (safeRaw true fiftyOneKeys) (safeRaw true fiftyOneKeys.reverse)) ∧
    redact false (.obj [("token", .obj [("id", .null)])]) = .obj [("token", .str "[redacted]")] := by
  have hdropped : isRedactedKey false "token" = true := by decide +kernel
  refine ⟨⟨.order trivial (List.reverse_perm _).symm, fun h => ?_⟩,
    by simp only [redact, redactMembers, hdropped, if_true]⟩
  have hfirst : "0" ∈ (safeRaw true fiftyOneKeys).keys := by decide +kernel
  have hlast : "0" ∉ (safeRaw true fiftyOneKeys.reverse).keys := by decide +kernel
  exact hlast (h.keys_perm.mem_iff.1 hfirst)

end TeamsRehook
