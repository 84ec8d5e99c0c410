import Mathlib.Data.List.Infix
import Mathlib.Data.List.TakeWhile
import Mathlib.Tactic.Common

/-!
# Text as Python handles it

The methods of `str` a Python program uses on short texts, over the list of code points: `strip`, `split` and `"
".join`, slicing (`clip`, `drop`), and SQL's `LIKE '%text%'` (`sqlContains`), as SQLAlchemy's `contains` renders it.
Whitespace is what `str.isspace` holds of, which is also what `\s` matches.
-/

namespace Python

/-- The characters `str.isspace` holds of. -/
def isSpace (c : Char) : Bool :=
  let n := c.toNat
  (9 ≤ n && n ≤ 13) || (28 ≤ n && n ≤ 32) || n == 0x85 || n == 0xA0 || n == 0x1680 || (0x2000 ≤ n && n ≤ 0x200A) ||
    n == 0x2028 || n == 0x2029 || n == 0x202F || n == 0x205F || n == 0x3000

/-- `s[:n]`. -/
def clip (s : String) (n : Nat) : String := String.ofList (s.toList.take n)

/-- `cs.strip()`, on a list of characters. -/
def stripChars (cs : List Char) : List Char := ((cs.dropWhile isSpace).reverse.dropWhile isSpace).reverse

/-- `s.strip()`. -/
def strip (s : String) : String := String.ofList (stripChars s.toList)

/-- `s.rstrip(c)`, for one character. -/
def rstripChar (s : String) (c : Char) : String := String.ofList ((s.toList.reverse.dropWhile (· == c)).reverse)

/-- The line boundaries of `str.splitlines`. -/
def isLineBreak (c : Char) : Bool :=
  let n := c.toNat
  (10 ≤ n && n ≤ 13) || (28 ≤ n && n ≤ 30) || n == 0x85 || n == 0x2028 || n == 0x2029

/-- `str.splitlines`, on a list of characters, from the characters of the current line, the last one first. -/
def splitLinesChars (line : List Char) : List Char → List (List Char)
  | [] => if line.isEmpty then [] else [line.reverse]
  | '\r' :: '\n' :: cs => line.reverse :: splitLinesChars [] cs
  | c :: cs => if isLineBreak c then line.reverse :: splitLinesChars [] cs else splitLinesChars (c :: line) cs

/-- `s.splitlines()`. -/
def splitlines (s : String) : List String := (splitLinesChars [] s.toList).map String.ofList

/-- The parts of a list of characters between separators, without the empty ones, from the characters of the current
part, the last one first. -/
def splitChars (sep : Char → Bool) (part : List Char) : List Char → List (List Char)
  | [] => if part.isEmpty then [] else [part.reverse]
  | c :: cs =>
    if sep c then if part.isEmpty then splitChars sep [] cs else part.reverse :: splitChars sep [] cs
    else splitChars sep (c :: part) cs

/-- The parts of a text between separators, without the empty ones. -/
def splitOn (sep : Char → Bool) (s : String) : List String := (splitChars sep [] s.toList).map String.ofList

/-- `s.split()`. -/
def split (s : String) : List String := splitOn isSpace s

/-- `" ".join(s.split())`. -/
def collapse (s : String) : String := " ".intercalate (split s)

/-- `s.split(sep)`, for one character. -/
def splitChar (s : String) (sep : Char) : List String := (s.toList.splitOn sep).map String.ofList

/-- `s.startswith(start)`. -/
def startsWith (s start : String) : Bool := start.toList.isPrefixOf s.toList

/-- `s[n:]`. -/
def drop (s : String) (n : Nat) : String := String.ofList (s.toList.drop n)

/-- What stands before and after the first occurrence of the pattern, nothing when there is none. -/
def partitionChars (pattern : List Char) : List Char → Option (List Char × List Char)
  | [] => if pattern.isEmpty then some ([], []) else none
  | c :: cs =>
    if pattern.isPrefixOf (c :: cs) then some ([], (c :: cs).drop pattern.length)
    else (partitionChars pattern cs).map fun r => (c :: r.1, r.2)

/-- `s.split(sep, 1)`: what stands before and after the first separator, nothing when there is none. -/
def splitFirst (s sep : String) : Option (String × String) :=
  (partitionChars sep.toList s.toList).map fun r => (String.ofList r.1, String.ofList r.2)

/-- `html.escape(s)`. -/
def htmlEscape (s : String) : String :=
  String.ofList (s.toList.flatMap fun c =>
    if c = '&' then "&amp;".toList
    else if c = '<' then "&lt;".toList
    else if c = '>' then "&gt;".toList
    else if c = '"' then "&quot;".toList
    else if c = '\'' then "&#x27;".toList
    else [c])

/-- `x or y` for texts: the first one that is not empty. -/
def orElse (x y : String) : String := if x = "" then y else x

@[simp] theorem orElse_empty (y : String) : orElse "" y = y := rfl

@[simp] theorem orElse_self (x : String) : orElse x x = x := by
  unfold orElse
  split <;> rfl

@[simp] theorem orElse_orElse (x y : String) : orElse x (orElse x y) = orElse x y := by
  unfold orElse
  split <;> rfl

theorem orElse_assoc (x y z : String) : orElse (orElse x y) z = orElse x (orElse y z) := by
  by_cases hx : x = ""
  · subst hx
    rfl
  · simp [orElse, hx]

theorem orElse_of_ne {x : String} (h : x ≠ "") (y : String) : orElse x y = x := if_neg h

theorem orElse_ne_empty {x : String} (h : x ≠ "") (y : String) : orElse x y ≠ "" := by
  rw [orElse, if_neg h]
  exact h

/-- Whether the text matches the pattern from its first character on, where `_` matches any character (`LIKE`). -/
def likePrefix : List Char → List Char → Bool
  | [], _ => true
  | _ :: _, [] => false
  | p :: ps, c :: cs => (p == '_' || p == c) && likePrefix ps cs

/-- `part in text`. -/
def contains (text part : String) : Bool := text.toList.tails.any part.toList.isPrefixOf

/-- `column.contains(pattern)`: `LIKE '%' || pattern || '%'`. -/
def sqlContains (text pattern : String) : Bool := text.toList.tails.any (likePrefix pattern.toList)

/-! ## Stripping -/

/-- What stripping takes from the end, put back. -/
theorem stripChars_append_dropped (cs : List Char) :
    stripChars cs ++ ((cs.dropWhile isSpace).reverse.takeWhile isSpace).reverse = cs.dropWhile isSpace := by
  rw [stripChars, ← List.reverse_append, List.takeWhile_append_dropWhile, List.reverse_reverse]

/-- Nothing is left exactly of whitespace. -/
theorem strip_eq_empty_iff {s : String} : strip s = "" ↔ ∀ c ∈ s.toList, isSpace c = true := by
  have hnil : strip s = "" ↔ stripChars s.toList = [] := by
    unfold strip
    exact ⟨fun h => by simpa using congrArg String.toList h, fun h => by rw [h]⟩
  rw [hnil, stripChars, List.reverse_eq_nil_iff, List.dropWhile_eq_nil_iff]
  simp only [List.mem_reverse]
  constructor
  · intro h c hc
    rw [← List.takeWhile_append_dropWhile (p := isSpace) (l := s.toList)] at hc
    rcases List.mem_append.1 hc with hc | hc
    · exact List.mem_takeWhile_imp hc
    · exact h c hc
  · exact fun h c hc => h c ((List.dropWhile_sublist isSpace).subset hc)

/-- A list that starts and ends with something else than whitespace is not changed by stripping. -/
theorem stripChars_of_ends {cs : List Char} (hhead : ∀ c, cs.head? = some c → isSpace c = false)
    (hlast : ∀ c, cs.getLast? = some c → isSpace c = false) : stripChars cs = cs := by
  have hdrop : ∀ {l : List Char}, (∀ c, l.head? = some c → isSpace c = false) → l.dropWhile isSpace = l := by
    intro l h
    cases l with
    | nil => rfl
    | cons c l => simp [h c rfl]
  unfold stripChars
  rw [hdrop hhead, hdrop (by simpa [List.head?_reverse] using hlast), List.reverse_reverse]

/-- What is left of a list without the whitespace in front starts with something else. -/
theorem isSpace_head_dropWhile {cs : List Char} {c : Char} (h : (cs.dropWhile isSpace).head? = some c) :
    isSpace c = false := by
  have := List.head?_dropWhile_not isSpace cs
  rw [h] at this
  exact this

/-- A stripped list starts with something else than whitespace. -/
theorem isSpace_head_stripChars {cs : List Char} {c : Char} (h : (stripChars cs).head? = some c) : isSpace c = false := by
  obtain ⟨tail, htail⟩ := List.head?_eq_some_iff.1 h
  have hprefix : stripChars cs <+: cs.dropWhile isSpace := by
    rw [stripChars, ← List.reverse_suffix, List.reverse_reverse]
    exact List.dropWhile_suffix _
  obtain ⟨rest, hrest⟩ := hprefix
  have hhead : (cs.dropWhile isSpace).head? = some c := by
    rw [← hrest, htail]
    rfl
  exact isSpace_head_dropWhile hhead

/-- A stripped text is not changed by stripping it once more. -/
theorem strip_strip (s : String) : strip (strip s) = strip s := by
  have hlast : ∀ c, (stripChars s.toList).getLast? = some c → isSpace c = false := by
    intro c hc
    rw [stripChars, List.getLast?_reverse] at hc
    exact isSpace_head_dropWhile hc
  unfold strip
  rw [String.toList_ofList, stripChars_of_ends (fun _ => isSpace_head_stripChars) hlast]

/-! ## Texts that start visibly -/

/-- The text starts with a character that is no whitespace. -/
def StartsVisibly (s : String) : Prop := ∃ c ∈ s.toList.head?, isSpace c = false

/-- The text is empty or starts visibly. -/
def VisibleOrEmpty (s : String) : Prop := s = "" ∨ StartsVisibly s

/-- Something is left of such a text when it is stripped. -/
theorem StartsVisibly.strip_ne {s : String} (h : StartsVisibly s) : strip s ≠ "" := by
  obtain ⟨c, hc, hspace⟩ := h
  intro hstrip
  have := strip_eq_empty_iff.1 hstrip c (List.mem_of_head? hc)
  rw [hspace] at this
  nomatch this

/-- A stripped text is empty or starts visibly. -/
theorem visibleOrEmpty_strip (s : String) : VisibleOrEmpty (strip s) := by
  cases hcs : stripChars s.toList with
  | nil => exact .inl (by rw [strip, hcs])
  | cons c cs =>
    refine .inr ⟨c, ?_, isSpace_head_stripChars (by rw [hcs]; rfl)⟩
    rw [strip, String.toList_ofList, hcs]
    rfl

/-- The first of two texts that is not empty. -/
theorem VisibleOrEmpty.orElse {s t : String} (hs : VisibleOrEmpty s) (ht : VisibleOrEmpty t) :
    VisibleOrEmpty (orElse s t) := by
  unfold Python.orElse
  split
  · exact ht
  · exact hs

/-- Such a text is not empty. -/
theorem StartsVisibly.ne_empty {s : String} (h : StartsVisibly s) : s ≠ "" := by
  rintro rfl
  exact h.strip_ne rfl

/-- A text that goes on after one that starts visibly. -/
theorem StartsVisibly.append {s : String} (h : StartsVisibly s) (t : String) : StartsVisibly (s ++ t) := by
  obtain ⟨c, hc, hspace⟩ := h
  refine ⟨c, ?_, hspace⟩
  rw [String.toList_append, List.head?_append, Option.mem_def.1 hc]
  rfl

/-- Texts that are joined, of which the first starts visibly. -/
theorem StartsVisibly.intercalate {s : String} (h : StartsVisibly s) (sep : String) (texts : List String) :
    StartsVisibly (sep.intercalate (s :: texts)) := by
  cases texts with
  | nil => rwa [String.intercalate_singleton]
  | cons text texts =>
    rw [String.intercalate_cons_cons]
    exact (h.append sep).append _

/-- The first characters of a text that starts visibly. -/
theorem StartsVisibly.clip {s : String} (h : StartsVisibly s) {n : Nat} (hn : 0 < n) : StartsVisibly (clip s n) := by
  obtain ⟨c, hc, hspace⟩ := h
  refine ⟨c, ?_, hspace⟩
  rw [Python.clip, String.toList_ofList, List.head?_take, if_neg (Nat.ne_of_gt hn)]
  exact hc

/-- The first characters of a text that is empty or starts visibly. -/
theorem VisibleOrEmpty.clip {s : String} (h : VisibleOrEmpty s) {n : Nat} (hn : 0 < n) : VisibleOrEmpty (clip s n) := by
  rcases h with rfl | h
  · exact .inl (by simp [Python.clip])
  · exact .inr (h.clip hn)

/-- A slice from the start is no longer than its bound. -/
theorem length_clip_le (s : String) (n : Nat) : (clip s n).length ≤ n := by
  unfold clip
  rw [String.length_ofList]
  exact List.length_take_le n s.toList

/-- A stripped text is no longer than the text. -/
theorem length_strip_le (s : String) : (strip s).length ≤ s.length := by
  have hdrop : ∀ cs : List Char, (cs.dropWhile isSpace).length ≤ cs.length :=
    fun cs => (List.dropWhile_sublist isSpace).length_le
  unfold strip stripChars
  rw [String.length_ofList, List.length_reverse, ← String.length_toList]
  refine (hdrop _).trans ?_
  rw [List.length_reverse]
  exact hdrop _

/-- Before the first occurrence of a pattern there is none. -/
theorem partitionChars_before {pattern : List Char} (hp : pattern ≠ []) {cs before after : List Char}
    (h : partitionChars pattern cs = some (before, after)) : partitionChars pattern before = none ∧ before <+: cs := by
  have hnil : partitionChars pattern [] = none := by
    cases pattern with
    | nil => exact absurd rfl hp
    | cons c pattern => rfl
  induction cs generalizing before with
  | nil =>
    rw [hnil] at h
    nomatch h
  | cons c cs ih =>
    unfold partitionChars at h
    split at h
    · obtain ⟨rfl, -⟩ := Prod.mk.inj (Option.some.inj h)
      exact ⟨hnil, List.nil_prefix⟩
    next hhead =>
      obtain ⟨⟨before', after'⟩, hrest, heq⟩ := Option.map_eq_some_iff.1 h
      obtain ⟨rfl, rfl⟩ := Prod.mk.inj heq
      obtain ⟨hnone, hprefix⟩ := ih hrest
      have hprefix : c :: before' <+: c :: cs := List.cons_prefix_cons.2 ⟨rfl, hprefix⟩
      refine ⟨?_, hprefix⟩
      unfold partitionChars
      rw [if_neg fun hfound => hhead ?_, hnone]
      · rfl
      · exact List.isPrefixOf_iff_prefix.2 ((List.isPrefixOf_iff_prefix.1 hfound).trans hprefix)

/-- What stands before the first separator has none. -/
theorem splitFirst_before {s sep before after : String} (hsep : sep ≠ "") (h : splitFirst s sep = some (before, after)) :
    splitFirst before sep = none := by
  obtain ⟨⟨cs, cs'⟩, hcs, heq⟩ := Option.map_eq_some_iff.1 h
  obtain ⟨rfl, -⟩ := Prod.mk.inj heq
  unfold splitFirst
  rw [String.toList_ofList, (partitionChars_before (fun hnil => hsep ?_) hcs).1]
  · rfl
  · exact String.toList_eq_nil_iff.1 hnil

/-- What stands before the first separator of a text that starts visibly is empty or starts visibly. -/
theorem StartsVisibly.splitFirst {s sep before after : String} (h : StartsVisibly s)
    (hsplit : splitFirst s sep = some (before, after)) : VisibleOrEmpty before := by
  obtain ⟨c, hc, hspace⟩ := h
  obtain ⟨cs, hcs⟩ := List.head?_eq_some_iff.1 hc
  obtain ⟨⟨b, a⟩, hparts, heq⟩ := Option.map_eq_some_iff.1 hsplit
  obtain ⟨rfl, -⟩ := Prod.mk.inj heq
  rw [hcs] at hparts
  unfold partitionChars at hparts
  split at hparts
  · obtain ⟨rfl, -⟩ := Prod.mk.inj (Option.some.inj hparts)
    exact .inl rfl
  · obtain ⟨⟨b', a'⟩, -, heq⟩ := Option.map_eq_some_iff.1 hparts
    obtain ⟨rfl, -⟩ := Prod.mk.inj heq
    exact .inr ⟨c, by simp, hspace⟩

/-- The parts a split gives are not empty and hold no separator. -/
theorem of_mem_splitChars {sep : Char → Bool} {part cs w : List Char} (hpart : ∀ c ∈ part, sep c = false)
    (hw : w ∈ splitChars sep part cs) : w ≠ [] ∧ ∀ c ∈ w, sep c = false := by
  have hreverse : part.isEmpty = false → part.reverse ≠ [] ∧ ∀ c ∈ part.reverse, sep c = false := by
    intro hne
    exact ⟨by simpa using hne, fun c hc => hpart c (List.mem_reverse.1 hc)⟩
  induction cs generalizing part with
  | nil =>
    simp only [splitChars] at hw
    split at hw
    · cases hw
    · rw [List.mem_singleton.1 hw]
      exact hreverse (Bool.eq_false_iff.2 ‹_›)
  | cons c cs ih =>
    simp only [splitChars] at hw
    split at hw
    · split at hw
      · exact ih (by simp) hw (by simp)
      · rcases List.mem_cons.1 hw with rfl | hw
        · exact hreverse (Bool.eq_false_iff.2 ‹_›)
        · exact ih (by simp) hw (by simp)
    · have hpart' : ∀ d ∈ c :: part, sep d = false := by
        intro d hd
        rcases List.mem_cons.1 hd with rfl | hd
        · exact Bool.eq_false_iff.2 ‹_›
        · exact hpart d hd
      exact ih hpart' hw fun _ => ⟨by simp, fun d hd => hpart' d (List.mem_reverse.1 hd)⟩

/-- Separators in front are not split off. -/
theorem splitChars_dropWhile (sep : Char → Bool) (cs : List Char) :
    splitChars sep [] (cs.dropWhile sep) = splitChars sep [] cs := by
  induction cs with
  | nil => rfl
  | cons c cs ih =>
    rw [List.dropWhile_cons]
    split
    next hc =>
      rw [ih, splitChars, if_pos hc]
      rfl
    next => rfl

/-- Separators at the end are not split off. -/
theorem splitChars_append_seps {sep : Char → Bool} {ss : List Char} (hss : ∀ c ∈ ss, sep c = true) (part cs : List Char) :
    splitChars sep part (cs ++ ss) = splitChars sep part cs := by
  have hseps : ∀ {ss : List Char}, (∀ c ∈ ss, sep c = true) → splitChars sep [] ss = [] := by
    intro ss hss
    induction ss with
    | nil => rfl
    | cons c ss ih =>
      rw [splitChars, if_pos (hss c List.mem_cons_self)]
      exact ih fun d hd => hss d (List.mem_cons_of_mem c hd)
  induction cs generalizing part with
  | nil =>
    cases ss with
    | nil => rfl
    | cons c ss =>
      have hrest := hseps fun d hd => hss d (List.mem_cons_of_mem c hd)
      simp only [List.nil_append, splitChars, hss c List.mem_cons_self, if_true, hrest]
  | cons c cs ih =>
    rw [List.cons_append, splitChars, splitChars, ih, ih]

/-- Collapsing a stripped text collapses the text. -/
theorem collapse_strip (s : String) : collapse (strip s) = collapse s := by
  have hchars : splitChars isSpace [] (stripChars s.toList) = splitChars isSpace [] s.toList := by
    rw [← splitChars_append_seps (fun c hc => List.mem_takeWhile_imp (List.mem_reverse.1 hc)) [] (stripChars s.toList),
      stripChars_append_dropped, splitChars_dropWhile]
  unfold collapse split splitOn strip
  rw [String.toList_ofList, hchars]

/-- Joined parts start with the first character of the first one. -/
theorem head?_intercalate {sep w : List Char} {ws : List (List Char)} (hw : w ≠ []) :
    (sep.intercalate (w :: ws)).head? = w.head? := by
  obtain ⟨c, w, rfl⟩ := List.exists_cons_of_ne_nil hw
  cases ws with
  | nil => simp [List.intercalate]
  | cons v vs => simp [List.intercalate_cons_cons]

/-- Joined parts end with the last character of one of them. -/
theorem getLast?_intercalate {sep : List Char} {ws : List (List Char)} {c : Char} (hws : ∀ w ∈ ws, w ≠ [])
    (h : (sep.intercalate ws).getLast? = some c) : ∃ w ∈ ws, c ∈ w := by
  induction ws with
  | nil => simp [List.intercalate] at h
  | cons w ws ih =>
    cases ws with
    | nil =>
      rw [List.intercalate_singleton] at h
      exact ⟨w, by simp, List.mem_of_getLast? h⟩
    | cons v vs =>
      have hne : sep.intercalate (v :: vs) ≠ [] := by
        intro hnil
        have : ([] : List Char).head? = v.head? := hnil ▸ head?_intercalate (hws v (by simp))
        exact hws v (by simp) (List.head?_eq_none_iff.1 this.symm)
      rw [List.intercalate_cons_cons, List.getLast?_append_of_ne_nil _ hne] at h
      obtain ⟨u, hu, hc⟩ := ih (fun u hu => hws u (List.mem_cons_of_mem w hu)) h
      exact ⟨u, List.mem_cons_of_mem w hu, hc⟩

/-- There are no parts exactly of separators. -/
theorem splitChars_eq_nil_iff {sep : Char → Bool} {part cs : List Char} :
    splitChars sep part cs = [] ↔ part = [] ∧ ∀ c ∈ cs, sep c = true := by
  induction cs generalizing part with
  | nil => cases part <;> simp [splitChars]
  | cons c cs ih =>
    rw [splitChars]
    cases hc : sep c with
    | true =>
      cases part with
      | nil => simp [ih, hc]
      | cons d part => simp
    | false => simp [ih, hc]

/-- Nothing is left of a collapsed text exactly when nothing is left of the stripped one. -/
theorem collapse_eq_empty_iff {s : String} : collapse s = "" ↔ strip s = "" := by
  have hjoined : ∀ {ws : List (List Char)}, (∀ w ∈ ws, w ≠ []) → ([' '].intercalate ws = [] ↔ ws = []) := by
    intro ws hws
    cases ws with
    | nil => simp [List.intercalate]
    | cons w ws =>
      have hw := hws w List.mem_cons_self
      refine ⟨fun h => ?_, fun h => nomatch h⟩
      have hhead := @head?_intercalate [' '] w ws hw
      rw [h] at hhead
      exact absurd (List.head?_eq_none_iff.1 hhead.symm) hw
  have hchars : (collapse s).toList = [' '].intercalate (splitChars isSpace [] s.toList) := by
    simp [collapse, split, splitOn, String.toList_intercalate, Function.comp_def]
  have hempty : collapse s = "" ↔ (collapse s).toList = [] := by
    exact ⟨fun h => by rw [h]; rfl, fun h => by rw [← String.ofList_toList (s := collapse s), h]⟩
  rw [hempty, hchars, hjoined fun w hw => (of_mem_splitChars (by simp) hw).1, splitChars_eq_nil_iff, strip_eq_empty_iff,
    and_iff_right rfl]

/-- Collapsed text has no whitespace around it. -/
theorem strip_collapse (s : String) : strip (collapse s) = collapse s := by
  have hparts : ∀ w ∈ splitChars isSpace [] s.toList, w ≠ [] ∧ ∀ c ∈ w, isSpace c = false := fun w hw =>
    of_mem_splitChars (by simp) hw
  have hchars : (collapse s).toList = [' '].intercalate (splitChars isSpace [] s.toList) := by
    simp [collapse, split, splitOn, String.toList_intercalate, Function.comp_def]
  unfold strip
  rw [hchars]
  conv_rhs => rw [← String.ofList_toList (s := collapse s), hchars]
  congr 1
  apply stripChars_of_ends
  · intro c hc
    generalize splitChars isSpace [] s.toList = ws at hparts hc
    cases ws with
    | nil => simp [List.intercalate] at hc
    | cons w ws =>
      rw [head?_intercalate (hparts w (by simp)).1] at hc
      exact (hparts w (by simp)).2 c (List.mem_of_head? hc)
  · intro c hc
    obtain ⟨w, hw, hcw⟩ := getLast?_intercalate (fun w hw => (hparts w hw).1) hc
    exact (hparts w hw).2 c hcw

/-! ## Splitting at a character -/

/-- The parts of a text with a separator in it are the parts before it and the parts after it. -/
theorem splitChar_append (s t : String) (sep : Char) :
    splitChar (s ++ String.singleton sep ++ t) sep = splitChar s sep ++ splitChar t sep := by
  unfold splitChar
  have htext : (s ++ String.singleton sep ++ t).toList = s.toList ++ sep :: t.toList := by simp
  rw [htext, List.splitOn_append_cons_self, List.map_append]

/-- The parts of joined texts without separators are the texts. -/
theorem splitChar_intercalate {sep : Char} {parts : List String} (hparts : ∀ part ∈ parts, sep ∉ part.toList)
    (hne : parts ≠ []) : splitChar ((String.singleton sep).intercalate parts) sep = parts := by
  have htext : ((String.singleton sep).intercalate parts).toList = [sep].intercalate (parts.map String.toList) := by
    simp [String.toList_intercalate]
  have hmem : ∀ l ∈ parts.map String.toList, sep ∉ l := by
    intro l hl
    obtain ⟨part, hpart, rfl⟩ := List.mem_map.1 hl
    exact hparts part hpart
  unfold splitChar
  rw [htext, List.splitOn_intercalate sep hmem (by simpa using hne), List.map_map]
  simp [Function.comp_def]

/-- The elements of a part are elements of what the parts are joined to. -/
theorem subset_intercalate {α : Type*} {sep w : List α} {ws : List (List α)} (hw : w ∈ ws) : w ⊆ sep.intercalate ws := by
  induction ws with
  | nil => nomatch hw
  | cons v ws ih =>
    cases ws with
    | nil =>
      rw [List.mem_singleton.1 hw, List.intercalate_singleton]
      exact List.Subset.refl v
    | cons u us =>
      rw [List.intercalate_cons_cons]
      rcases List.mem_cons.1 hw with rfl | hw
      · exact fun c hc => by simp [hc]
      · exact fun c hc => by simp [ih hw hc]

/-- The characters of a part are characters of the text. -/
theorem subset_of_mem_splitChar {s part : String} {sep : Char} (hpart : part ∈ splitChar s sep) :
    part.toList ⊆ s.toList := by
  obtain ⟨l, hl, rfl⟩ := List.mem_map.1 hpart
  have hparts : l ⊆ [sep].intercalate (s.toList.splitOn sep) := subset_intercalate hl
  rw [List.intercalate_splitOn] at hparts
  simpa using hparts

/-! ## Visible texts -/

/-- A character of the text is no whitespace. -/
def Visible (s : String) : Prop := ∃ c ∈ s.toList, isSpace c = false

/-- Something is left of a text when it is stripped exactly when a character is no whitespace. -/
theorem strip_ne_empty_iff {s : String} : strip s ≠ "" ↔ Visible s := by
  rw [Ne, strip_eq_empty_iff]
  simp only [Visible, not_forall, Bool.not_eq_true, exists_prop]

/-- A text with the characters of a visible one is visible. -/
theorem Visible.of_subset {s t : String} (h : Visible s) (hst : s.toList ⊆ t.toList) : Visible t := by
  obtain ⟨c, hc, hspace⟩ := h
  exact ⟨c, hst hc, hspace⟩

theorem Visible.ne_empty {s : String} (h : Visible s) : s ≠ "" := by
  rintro rfl
  obtain ⟨c, hc, -⟩ := h
  nomatch hc

theorem Visible.append_left {s : String} (h : Visible s) (t : String) : Visible (s ++ t) :=
  h.of_subset fun c hc => by simp [hc]

theorem Visible.append_right {t : String} (h : Visible t) (s : String) : Visible (s ++ t) :=
  h.of_subset fun c hc => by simp [hc]

/-- A stripped text is visible when it is not empty. -/
theorem visible_strip {s : String} (h : strip s ≠ "") : Visible (strip s) := by
  rw [← strip_strip] at h
  exact strip_ne_empty_iff.1 h

/-- Joined parts are visible when there is one that is. -/
theorem visible_intercalate {sep part : String} {parts : List String} (hpart : part ∈ parts) (h : Visible part) :
    Visible (sep.intercalate parts) := by
  refine h.of_subset ?_
  rw [String.toList_intercalate]
  exact subset_intercalate (List.mem_map_of_mem hpart)

/-- The joined lines are empty or visible when every line is visible. -/
theorem intercalate_eq_or_visible {sep : String} {parts : List String} (h : ∀ part ∈ parts, Visible part) :
    sep.intercalate parts = "" ∨ Visible (sep.intercalate parts) := by
  cases parts with
  | nil => exact .inl (by simp)
  | cons part parts => exact .inr (visible_intercalate List.mem_cons_self (h part List.mem_cons_self))

/-- Parts that were joined before are joined with the others as if they had not been. -/
theorem intercalate_joined {sep : String} {parts : List String} (hparts : parts ≠ []) (before after : List String) :
    sep.intercalate (before ++ sep.intercalate parts :: after) = sep.intercalate (before ++ parts ++ after) := by
  have hafter : sep.intercalate (sep.intercalate parts :: after) = sep.intercalate (parts ++ after) := by
    by_cases h : after = []
    · simp [h]
    · rw [String.intercalate_cons_of_ne_nil h, String.intercalate_append_of_ne_nil hparts h]
  by_cases h : before = []
  · simpa [h] using hafter
  · rw [String.intercalate_append_of_ne_nil h (List.cons_ne_nil _ _), hafter, List.append_assoc,
      String.intercalate_append_of_ne_nil h (by simp [hparts])]

/-! ## Ends of texts -/

/-- The text ends in whitespace. -/
def EndsBlank (s : String) : Prop := ∃ c ∈ s.toList.getLast?, isSpace c = true

/-- A text that starts with something else than whitespace is not changed by stripping exactly when it does not end in
whitespace. -/
theorem strip_eq_self_iff {s : String} (hhead : ∀ c, s.toList.head? = some c → isSpace c = false) :
    strip s = s ↔ ¬EndsBlank s := by
  constructor
  · rintro h ⟨c, hc, hspace⟩
    have hlast : ∀ c, (stripChars s.toList).getLast? = some c → isSpace c = false := by
      intro c hc
      rw [stripChars, List.getLast?_reverse] at hc
      exact isSpace_head_dropWhile hc
    rw [← h, strip, String.toList_ofList] at hc
    rw [hlast c hc] at hspace
    nomatch hspace
  · intro h
    unfold strip
    rw [stripChars_of_ends hhead fun c hc => Bool.eq_false_iff.2 fun hspace => h ⟨c, hc, hspace⟩, String.ofList_toList]

/-- A stripped text starts with something else than whitespace. -/
theorem head?_strip {s : String} {c : Char} (h : (strip s).toList.head? = some c) : isSpace c = false := by
  rw [strip, String.toList_ofList] at h
  exact isSpace_head_stripChars h

/-- A stripped text does not end in whitespace. -/
theorem not_endsBlank_strip (s : String) : ¬EndsBlank (strip s) :=
  (strip_eq_self_iff fun _ => head?_strip).1 (strip_strip s)

/-- Stripping a text that starts with something else than whitespace drops the whitespace at its end. -/
theorem stripChars_append {before : List Char} (hhead : ∃ c ∈ before.head?, isSpace c = false)
    (hlast : ∀ c, before.getLast? = some c → isSpace c = false) (cs : List Char) :
    ∃ kept, kept <+: cs ∧ stripChars (before ++ cs) = before ++ kept := by
  obtain ⟨c, hc, hspace⟩ := hhead
  obtain ⟨rest, rfl⟩ := List.head?_eq_some_iff.1 hc
  have hfront : (c :: rest ++ cs).dropWhile isSpace = c :: rest ++ cs := by
    rw [List.cons_append, List.dropWhile_cons, hspace]
    rfl
  have hback : (c :: rest).reverse.dropWhile isSpace = (c :: rest).reverse := by
    obtain ⟨d, hd⟩ : ∃ d, (c :: rest).reverse.head? = some d :=
      Option.ne_none_iff_exists'.1 fun hnone => by simp at hnone
    obtain ⟨others, hothers⟩ := List.head?_eq_some_iff.1 hd
    rw [hothers, List.dropWhile_cons, hlast d (by rw [← List.head?_reverse]; exact hd)]
    rfl
  refine ⟨(cs.reverse.dropWhile isSpace).reverse, ?_, ?_⟩
  · rw [← List.reverse_suffix, List.reverse_reverse]
    exact List.dropWhile_suffix _
  · rw [stripChars, hfront, List.reverse_append, List.dropWhile_append]
    split
    next h => rw [hback, List.reverse_reverse, List.isEmpty_iff.1 h, List.reverse_nil, List.append_nil]
    next => rw [List.reverse_append, List.reverse_reverse]

/-- What `rstrip` of a character drops is nothing but this character. -/
theorem exists_rstripChar (s : String) (c : Char) : ∃ n, s.toList = (rstripChar s c).toList ++ List.replicate n c := by
  refine ⟨(s.toList.reverse.takeWhile (· == c)).length, ?_⟩
  have hdropped : (s.toList.reverse.takeWhile (· == c)).reverse =
      List.replicate (s.toList.reverse.takeWhile (· == c)).length c := by
    refine List.eq_replicate_iff.2 ⟨List.length_reverse, fun d hd => ?_⟩
    simpa using List.mem_takeWhile_imp (List.mem_reverse.1 hd)
  rw [rstripChar, String.toList_ofList, ← hdropped, ← List.reverse_append, List.takeWhile_append_dropWhile,
    List.reverse_reverse]

/-- A text that does not end in a character is not changed by `rstrip` of it. -/
theorem rstripChar_eq_self {s : String} {c : Char} (h : s.toList.getLast? ≠ some c) : rstripChar s c = s := by
  obtain ⟨n, hn⟩ := exists_rstripChar s c
  cases n with
  | zero => exact String.toList_inj.1 (by simpa using hn.symm)
  | succ n =>
    refine (h ?_).elim
    rw [hn, List.replicate_succ', ← List.append_assoc, List.getLast?_concat]

theorem getLast?_rstripChar (s : String) (c : Char) : (rstripChar s c).toList.getLast? ≠ some c := by
  intro h
  rw [rstripChar, String.toList_ofList, List.getLast?_reverse] at h
  have hhead := List.head?_dropWhile_not (· == c) s.toList.reverse
  rw [h] at hhead
  simp at hhead

/-! ## Patterns -/

/-- A text matches itself as a pattern, whatever follows it. -/
theorem likePrefix_append (ps cs : List Char) : likePrefix ps (ps ++ cs) = true := by
  induction ps with
  | nil => rfl
  | cons p ps ih => simp [likePrefix, ih]

/-- A text that holds the pattern literally contains it. -/
theorem sqlContains_of_infix {text pattern : String} (h : pattern.toList <:+: text.toList) :
    sqlContains text pattern = true := by
  obtain ⟨before, after, h⟩ := h
  unfold sqlContains
  rw [List.any_eq_true]
  refine ⟨pattern.toList ++ after, ?_, likePrefix_append _ _⟩
  rw [List.mem_tails, ← h, List.append_assoc]
  exact List.suffix_append _ _

end Python
