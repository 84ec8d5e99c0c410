import TeamsRehook.Lib.Splitting

/-!
# Texts between tags

A text with tags is given by what stands before the first tag, and by each tag with the text that follows it. Splitting
it at `<` and `>` gives these parts back when neither of them stands in a tag or a text, as in a text escaped by
`html.escape`, which can be unescaped.
-/

/-- A text with tags. -/
structure Markup where
  first : String
  rest : List (String × String)
  deriving DecidableEq

namespace Markup

/-- The text holds no angle bracket. -/
def Plain (s : String) : Prop := '<' ∉ s.toList ∧ '>' ∉ s.toList

/-- The tags and texts after the first text, as they are written. -/
def renderRest (rest : List (String × String)) : String :=
  String.join (rest.map fun (tag, text) => "<" ++ tag ++ ">" ++ text)

/-- The text with its tags, as it is written. -/
def render (m : Markup) : String := m.first ++ renderRest m.rest

/-- Its tags, in order. -/
def tags (m : Markup) : List String := m.rest.map (·.1)

/-- There is no angle bracket in its tags and texts. -/
structure WellFormed (m : Markup) : Prop where
  first : Plain m.first
  rest : ∀ part ∈ m.rest, Plain part.1 ∧ Plain part.2

/-- A text split at its tags. -/
def split (s : String) : Markup :=
  match Python.splitChar s '<' with
  | [] => ⟨"", []⟩
  | first :: parts => ⟨first, parts.map fun part => (Python.splitFirst part ">").getD (part, "")⟩

/-- The texts of a text with tags are replaced by others. -/
def mapTexts (f : String → String) (m : Markup) : Markup := ⟨f m.first, m.rest.map fun part => (part.1, f part.2)⟩

/-! ## Splitting -/

theorem renderRest_append (rest rest' : List (String × String)) :
    renderRest (rest ++ rest') = renderRest rest ++ renderRest rest' := by
  unfold renderRest
  rw [List.map_append, String.join_append]

/-- A text with tags is its parts joined by `<`. -/
theorem render_eq_intercalate (m : Markup) :
    m.render = (String.singleton '<').intercalate (m.first :: m.rest.map fun part =>
      part.1 ++ String.singleton '>' ++ part.2) := by
  obtain ⟨first, rest⟩ := m
  show first ++ renderRest rest = _
  induction rest generalizing first with
  | nil => simp [renderRest]
  | cons part rest ih =>
    obtain ⟨tag, text⟩ := part
    have hopen : ("<" : String) = String.singleton '<' := by decide
    have hclose : (">" : String) = String.singleton '>' := by decide
    have hsplit : renderRest ((tag, text) :: rest) = "<" ++ tag ++ ">" ++ text ++ renderRest rest := by simp [renderRest]
    rw [List.map_cons, String.intercalate_cons_cons, ← ih, hsplit, hopen, hclose]
    simp only [String.append_assoc]

/-- Splitting at the tags gives the parts back. -/
theorem split_render {m : Markup} (h : m.WellFormed) : split m.render = m := by
  have hparts : Python.splitChar m.render '<' = m.first :: m.rest.map fun part =>
      part.1 ++ String.singleton '>' ++ part.2 := by
    rw [render_eq_intercalate]
    refine Python.splitChar_intercalate ?_ (List.cons_ne_nil _ _)
    refine List.forall_mem_cons.2 ⟨h.first.1, ?_⟩
    intro s hs
    obtain ⟨part, hpart, rfl⟩ := List.mem_map.1 hs
    have htag := (h.rest part hpart).1.1
    have htext := (h.rest part hpart).2.1
    simp [htag, htext]
  have hrest : ∀ part ∈ m.rest, (Python.splitFirst (part.1 ++ String.singleton '>' ++ part.2) ">").getD
      (part.1 ++ String.singleton '>' ++ part.2, "") = part := by
    intro part hpart
    have hclose : (">" : String) = String.singleton '>' := by decide
    have hsplit : Python.splitFirst (part.1 ++ String.singleton '>' ++ part.2) ">" = some (part.1, part.2) := by
      rw [hclose]
      exact Python.splitFirst_append (String.toList_singleton _) (h.rest part hpart).1.2 part.2
    rw [hsplit]
    rfl
  unfold split
  rw [hparts]
  dsimp only
  rw [List.map_map]
  exact congrArg (Markup.mk m.first) ((List.map_congr_left hrest).trans (List.map_id _))

/-! ## Escaping -/

/-- The text of a list of characters without the five references that `html.escape` makes. -/
def unescapeChars : List Char → List Char
  | '&' :: 'a' :: 'm' :: 'p' :: ';' :: cs => '&' :: unescapeChars cs
  | '&' :: 'l' :: 't' :: ';' :: cs => '<' :: unescapeChars cs
  | '&' :: 'g' :: 't' :: ';' :: cs => '>' :: unescapeChars cs
  | '&' :: 'q' :: 'u' :: 'o' :: 't' :: ';' :: cs => '"' :: unescapeChars cs
  | '&' :: '#' :: 'x' :: '2' :: '7' :: ';' :: cs => '\'' :: unescapeChars cs
  | c :: cs => c :: unescapeChars cs
  | [] => []

/-- The text without the references that `html.escape` makes. -/
def unescape (s : String) : String := String.ofList (unescapeChars s.toList)

/-- A character that starts no reference stays. -/
theorem unescapeChars_cons {c : Char} (hc : c ≠ '&') (cs : List Char) : unescapeChars (c :: cs) = c ::
    unescapeChars cs := by
  rw [unescapeChars] <;> exact fun _ h => absurd h hc

/-- Unescaping is the inverse of escaping. -/
theorem unescape_htmlEscape (s : String) : unescape (Python.htmlEscape s) = s := by
  have hchars : ∀ cs : List Char, unescapeChars (cs.flatMap fun c =>
      if c = '&' then "&amp;".toList
      else if c = '<' then "&lt;".toList
      else if c = '>' then "&gt;".toList
      else if c = '"' then "&quot;".toList
      else if c = '\'' then "&#x27;".toList
      else [c]) = cs := by
    intro cs
    induction cs with
    | nil => rfl
    | cons c cs ih =>
      rw [List.flatMap_cons]
      split
      next h => rw [h]; exact congrArg (List.cons '&') ih
      next hamp =>
        split
        next h => rw [h]; exact congrArg (List.cons '<') ih
        split
        next h => rw [h]; exact congrArg (List.cons '>') ih
        split
        next h => rw [h]; exact congrArg (List.cons '"') ih
        split
        next h => rw [h]; exact congrArg (List.cons '\'') ih
        rw [List.singleton_append, unescapeChars_cons hamp, ih]
  unfold unescape Python.htmlEscape
  rw [String.toList_ofList, hchars, String.ofList_toList]

/-- An escaped text holds no angle bracket. -/
theorem plain_htmlEscape (s : String) : Plain (Python.htmlEscape s) := by
  have hchar : ∀ c d : Char, d ∈ (if c = '&' then "&amp;".toList
      else if c = '<' then "&lt;".toList
      else if c = '>' then "&gt;".toList
      else if c = '"' then "&quot;".toList
      else if c = '\'' then "&#x27;".toList
      else [c]) → d ≠ '<' ∧ d ≠ '>' := by
    intro c d hd
    repeat' split at hd
    case isFalse =>
      rw [List.mem_singleton.1 hd]
      exact ⟨‹_›, ‹_›⟩
    all_goals
      have hplain := List.all_eq_true (p := fun d => d != '<' && d != '>').1 (by decide) d hd
      simpa using hplain
  unfold Plain Python.htmlEscape
  rw [String.toList_ofList]
  refine ⟨fun h => ?_, fun h => ?_⟩
  · obtain ⟨c, -, hc⟩ := List.mem_flatMap.1 h
    exact (hchar c _ hc).1 rfl
  · obtain ⟨c, -, hc⟩ := List.mem_flatMap.1 h
    exact (hchar c _ hc).2 rfl

end Markup
