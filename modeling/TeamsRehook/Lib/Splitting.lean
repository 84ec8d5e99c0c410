import TeamsRehook.Lib.Python

/-!
# Splitting and joining

Splitting a text at separators undoes joining words without separators, whatever separators stand between them.
Splitting at more separators can be done after splitting at fewer, so a text can be collapsed before it is split.
-/

namespace Python

variable {sep fine : Char → Bool}

/-! ## Splitting at separators -/

/-- A separator ends the current part. -/
theorem splitChars_append_cons {c : Char} (hc : sep c = true) (part cs ds : List Char) :
    splitChars sep part (cs ++ c :: ds) = splitChars sep part cs ++ splitChars sep [] ds := by
  induction cs generalizing part with
  | nil =>
    rw [List.nil_append, splitChars.eq_2, if_pos hc, splitChars.eq_1]
    split <;> rfl
  | cons d cs ih =>
    rw [List.cons_append, splitChars, splitChars]
    split
    next =>
      split
      · exact ih []
      · rw [ih [], List.cons_append]
    next => exact ih (d :: part)

/-- Characters that are no separators join the current part. -/
theorem splitChars_append_of_forall {cs : List Char} (hcs : ∀ c ∈ cs, sep c = false) (part ds : List Char) :
    splitChars sep part (cs ++ ds) = splitChars sep (cs.reverse ++ part) ds := by
  induction cs generalizing part with
  | nil => rfl
  | cons c cs ih =>
    have hc : ¬sep c = true := Bool.eq_false_iff.1 (hcs c List.mem_cons_self)
    rw [List.cons_append, splitChars, if_neg hc, ih fun d hd => hcs d (List.mem_cons_of_mem c hd)]
    rw [List.reverse_cons, List.append_assoc]
    rfl

/-- A word without separators is one part. -/
theorem splitChars_word {w : List Char} (hne : w ≠ []) (hw : ∀ c ∈ w, sep c = false) : splitChars sep [] w = [w] := by
  have h := splitChars_append_of_forall hw [] []
  rw [List.append_nil, List.append_nil, splitChars, List.reverse_reverse] at h
  rw [h, if_neg (by simpa using hne)]

/-- The current part goes on up to the next separator. -/
theorem splitChars_part {part : List Char} (hpart : part ≠ []) (cs : List Char) :
    splitChars sep part cs = (part.reverse ++ cs.takeWhile (!sep ·)) :: splitChars sep [] (cs.dropWhile (!sep ·)) := by
  induction cs generalizing part with
  | nil =>
    rw [splitChars, if_neg (by simpa using hpart), List.takeWhile_nil, List.append_nil]
    rfl
  | cons c cs ih =>
    rw [splitChars]
    split
    next hc =>
      rw [if_neg (by simpa using hpart), List.takeWhile_cons_of_neg (by simpa using hc),
        List.dropWhile_cons_of_neg (by simpa using hc), List.append_nil, splitChars, if_pos hc]
      rfl
    next hc =>
      rw [ih (List.cons_ne_nil c part), List.takeWhile_cons_of_pos (by simpa using hc),
        List.dropWhile_cons_of_pos (by simpa using hc), List.reverse_cons, List.append_assoc]
      rfl

/-- The first part of a text that starts with no separator. -/
theorem splitChars_cons {c : Char} (hc : sep c = false) (cs : List Char) :
    splitChars sep [] (c :: cs) = (c :: cs.takeWhile (!sep ·)) :: splitChars sep [] (cs.dropWhile (!sep ·)) := by
  rw [splitChars, if_neg (Bool.eq_false_iff.1 hc), splitChars_part (List.cons_ne_nil c [])]
  rfl

/-- Separators in front are not split off. -/
theorem splitChars_seps_append {ss : List Char} (hss : ∀ c ∈ ss, sep c = true) (cs : List Char) :
    splitChars sep [] (ss ++ cs) = splitChars sep [] cs := by
  induction ss with
  | nil => rfl
  | cons c ss ih =>
    rw [List.cons_append, splitChars, if_pos (hss c List.mem_cons_self)]
    exact ih fun d hd => hss d (List.mem_cons_of_mem c hd)

/-- A word and the separators after it. -/
theorem splitChars_word_append {w gap : List Char} (hne : w ≠ []) (hw : ∀ c ∈ w, sep c = false)
    (hgap : ∀ c ∈ gap, sep c = true) {cs : List Char} (hsep : gap ≠ [] ∨ cs = []) :
    splitChars sep [] (w ++ (gap ++ cs)) = w :: splitChars sep [] cs := by
  cases gap with
  | nil =>
    obtain rfl := hsep.resolve_left (fun h => h rfl)
    rw [List.append_nil, List.append_nil, splitChars_word hne hw]
    rfl
  | cons c gap =>
    obtain ⟨hc, hgap⟩ := List.forall_mem_cons.1 hgap
    rw [List.cons_append, splitChars_append_cons hc, splitChars_word hne hw, splitChars_seps_append hgap]
    rfl

/-- The parts of joined words are the words. -/
theorem splitChars_intercalate {gap : List Char} {ws : List (List Char)} (hgap : ∀ c ∈ gap, sep c = true) (hne : gap ≠ [])
    (hws : ∀ w ∈ ws, w ≠ [] ∧ ∀ c ∈ w, sep c = false) : splitChars sep [] (gap.intercalate ws) = ws := by
  induction ws with
  | nil => rfl
  | cons w ws ih =>
    obtain ⟨hw, hws⟩ := List.forall_mem_cons.1 hws
    cases ws with
    | nil => rw [List.intercalate_singleton, splitChars_word hw.1 hw.2]
    | cons v vs =>
      rw [List.intercalate_cons_cons, List.append_assoc, splitChars_word_append hw.1 hw.2 hgap (.inl hne), ih hws]

/-- Splitting at more separators, after splitting at some of them. -/
theorem splitChars_eq_flatMap (hfine : ∀ c, fine c = true → sep c = true) {part : List Char} (cs : List Char) :
    splitChars sep [] (part.reverse ++ cs) = (splitChars fine part cs).flatMap (splitChars sep []) := by
  induction cs generalizing part with
  | nil =>
    rw [List.append_nil, splitChars]
    split
    next hpart =>
      rw [List.isEmpty_iff.1 hpart]
      rfl
    next => rw [List.flatMap_singleton]
  | cons c cs ih =>
    rw [splitChars]
    split
    next hc =>
      rw [splitChars_append_cons (hfine c hc)]
      have hrest := @ih []
      rw [List.reverse_nil, List.nil_append] at hrest
      split
      next hpart =>
        rw [List.isEmpty_iff.1 hpart, hrest]
        rfl
      next => rw [List.flatMap_cons, hrest]
    next =>
      rw [← ih, List.reverse_cons, List.append_assoc]
      rfl

/-- The parts of a text are not empty and hold no separator. -/
theorem of_mem_splitOn {s part : String} (hpart : part ∈ splitOn sep s) :
    part ≠ "" ∧ ∀ c ∈ part.toList, sep c = false := by
  obtain ⟨w, hw, rfl⟩ := List.mem_map.1 hpart
  obtain ⟨hne, hsep⟩ := of_mem_splitChars (by simp) hw
  rw [String.toList_ofList]
  exact ⟨fun h => hne (String.ofList_eq_empty_iff.1 h), hsep⟩

/-- A text of words, each with the separators that follow it. -/
def listed (lead : String) (items : List (String × String)) : String :=
  lead ++ String.join (items.map fun item => item.1 ++ item.2)

/-- The words and separators of a text are as they have to be: between two words there is a separator. -/
def Listable (sep : Char → Bool) : List (String × String) → Prop
  | [] => True
  | (word, gap) :: items =>
    word ≠ "" ∧ (∀ c ∈ word.toList, sep c = false) ∧ (∀ c ∈ gap.toList, sep c = true) ∧ (gap ≠ "" ∨ items = []) ∧
      Listable sep items

/-- The parts of a text of words are the words. -/
theorem splitOn_listed {lead : String} {items : List (String × String)} (hlead : ∀ c ∈ lead.toList, sep c = true)
    (hitems : Listable sep items) : splitOn sep (listed lead items) = items.map (·.1) := by
  have hchars : ∀ {items}, Listable sep items →
      splitChars sep [] (String.join (items.map fun item => item.1 ++ item.2)).toList = items.map (·.1.toList) := by
    intro items hitems
    induction items with
    | nil => simp [splitChars]
    | cons item items ih =>
      obtain ⟨word, gap⟩ := item
      obtain ⟨hne, hword, hgap, hsep, hitems⟩ := hitems
      have hempty : ∀ {s : String}, s ≠ "" → s.toList ≠ [] := fun h hnil => h (String.toList_eq_nil_iff.1 hnil)
      have hrest : gap.toList ≠ [] ∨ (String.join (items.map fun item => item.1 ++ item.2)).toList = [] := by
        rcases hsep with hsep | rfl
        · exact .inl (hempty hsep)
        · exact .inr (by simp)
      rw [List.map_cons, String.join_cons, String.toList_append, String.toList_append, List.append_assoc,
        splitChars_word_append (hempty hne) hword hgap hrest, ih hitems]
      rfl
  unfold splitOn listed
  rw [String.toList_append, splitChars_seps_append hlead, hchars hitems, List.map_map]
  exact List.map_congr_left fun item _ => String.ofList_toList

/-- The parts of joined words are the words. -/
theorem splitOn_intercalate {gap : String} {ws : List String} (hgap : ∀ c ∈ gap.toList, sep c = true) (hne : gap ≠ "")
    (hws : ∀ w ∈ ws, w ≠ "" ∧ ∀ c ∈ w.toList, sep c = false) : splitOn sep (gap.intercalate ws) = ws := by
  have hempty : ∀ {s : String}, s ≠ "" → s.toList ≠ [] := fun h hnil => h (String.toList_eq_nil_iff.1 hnil)
  have hwords : ∀ w ∈ ws.map String.toList, w ≠ [] ∧ ∀ c ∈ w, sep c = false := by
    intro w hw
    obtain ⟨s, hs, rfl⟩ := List.mem_map.1 hw
    exact ⟨hempty (hws s hs).1, (hws s hs).2⟩
  unfold splitOn
  rw [String.toList_intercalate, splitChars_intercalate hgap (hempty hne) hwords, List.map_map]
  exact (List.map_congr_left fun s _ => String.ofList_toList).trans (List.map_id ws)

/-- Whitespace around a text makes no difference to its parts. -/
theorem splitOn_strip (hsep : ∀ c, isSpace c = true → sep c = true) (s : String) :
    splitOn sep (strip s) = splitOn sep s := by
  have hend : ∀ c ∈ ((s.toList.dropWhile isSpace).reverse.takeWhile isSpace).reverse, sep c = true := fun c hc =>
    hsep c (List.mem_takeWhile_imp (List.mem_reverse.1 hc))
  have hfront : ∀ c ∈ s.toList.takeWhile isSpace, sep c = true := fun c hc => hsep c (List.mem_takeWhile_imp hc)
  unfold splitOn strip
  rw [String.toList_ofList, ← splitChars_append_seps hend, stripChars_append_dropped, ← splitChars_seps_append hfront,
    List.takeWhile_append_dropWhile]

/-- Collapsing a text makes no difference to its words. -/
theorem split_collapse (s : String) : split (collapse s) = split s :=
  splitOn_intercalate (List.all_eq_true.1 (by decide)) (by decide) fun _ hw => of_mem_splitOn hw

/-- Collapsing a text makes no difference to its parts. -/
theorem splitOn_collapse (hsep : ∀ c, isSpace c = true → sep c = true) (s : String) :
    splitOn sep (collapse s) = splitOn sep s := by
  have hwords : ∀ s : String, splitOn sep s = (split s).flatMap (splitOn sep) := by
    intro s
    have h := @splitChars_eq_flatMap sep isSpace hsep [] s.toList
    rw [List.reverse_nil, List.nil_append] at h
    unfold split splitOn
    rw [h, List.map_flatMap, List.flatMap_map]
    simp only [String.toList_ofList]
  rw [hwords (collapse s), hwords s, split_collapse]

/-- Joined parts are the first one, and each other one after a separator. -/
theorem intercalate_cons_eq_join (gap first : String) (parts : List String) :
    gap.intercalate (first :: parts) = first ++ String.join (parts.map (gap ++ ·)) := by
  induction parts generalizing first with
  | nil => simp
  | cons part parts ih =>
    rw [String.intercalate_cons_cons, ih, List.map_cons, String.join_cons, String.append_assoc, String.append_assoc]

/-! ## Collapsed texts -/

/-- There are no words exactly in a text that is blank. -/
theorem split_ne_nil_iff {s : String} : split s ≠ [] ↔ Visible s := by
  rw [← strip_ne_empty_iff, Ne, Ne, strip_eq_empty_iff]
  unfold split splitOn
  rw [List.map_eq_nil_iff, splitChars_eq_nil_iff, and_iff_right rfl]

/-- The words of two texts with a blank between them. -/
theorem split_append_blank (s t : String) : split (s ++ " " ++ t) = split s ++ split t := by
  have hchars : (s ++ " " ++ t).toList = s.toList ++ ' ' :: t.toList := by simp
  unfold split splitOn
  rw [hchars, splitChars_append_cons (by decide), List.map_append]

/-- Two visible texts with a blank between them are collapsed each by itself. -/
theorem collapse_append_blank {s t : String} (hs : Visible s) (ht : Visible t) :
    collapse (s ++ " " ++ t) = collapse s ++ " " ++ collapse t := by
  unfold collapse
  rw [split_append_blank, String.intercalate_append_of_ne_nil (split_ne_nil_iff.2 hs) (split_ne_nil_iff.2 ht)]

/-- A collapsed text that goes on with a visible character. -/
theorem collapse_append_singleton {s : String} (hs : collapse s = s) (hvisible : Visible s) {c : Char}
    (hc : isSpace c = false) : collapse (s ++ String.singleton c) = s ++ String.singleton c := by
  obtain ⟨init, last, hwords⟩ := (List.eq_nil_or_concat (split s)).resolve_left (split_ne_nil_iff.2 hvisible)
  rw [List.concat_eq_append] at hwords
  have hjoined : s ++ String.singleton c = " ".intercalate (init ++ [last ++ String.singleton c]) := by
    conv_lhs => rw [← hs, collapse, hwords]
    cases init with
    | nil => simp
    | cons w init =>
      rw [String.intercalate_append_of_ne_nil (by simp) (by simp),
        String.intercalate_append_of_ne_nil (by simp) (by simp), String.intercalate_singleton,
          String.intercalate_singleton, String.append_assoc]
  have hof : ∀ w ∈ init ++ [last], w ≠ "" ∧ ∀ d ∈ w.toList, isSpace d = false := by
    rw [← hwords]
    exact fun w hw => of_mem_splitOn hw
  have hword : ∀ w ∈ init ++ [last ++ String.singleton c], w ≠ "" ∧ ∀ d ∈ w.toList, isSpace d = false := by
    intro w hw
    rcases List.mem_append.1 hw with hw | hw
    · exact hof w (List.mem_append_left _ hw)
    · have hlast := hof last (by simp)
      rw [List.mem_singleton.1 hw]
      refine ⟨by simp, fun d hd => ?_⟩
      rw [String.toList_append, String.toList_singleton] at hd
      rcases List.mem_append.1 hd with hd | hd
      · exact hlast.2 d hd
      · exact List.mem_singleton.1 hd ▸ hc
  have hsplit : split (" ".intercalate (init ++ [last ++ String.singleton c])) = init ++ [last ++ String.singleton c] :=
    splitOn_intercalate (List.all_eq_true.1 (by decide)) (by decide) hword
  rw [hjoined, collapse, hsplit]

/-- The characters of the parts are those of the text that are no separators. -/
theorem mem_splitChars_iff {c : Char} (hc : sep c = false) {part cs : List Char} :
    (∃ w ∈ splitChars sep part cs, c ∈ w) ↔ c ∈ part ∨ c ∈ cs := by
  induction cs generalizing part with
  | nil =>
    rw [splitChars]
    split
    next hpart => simp [List.isEmpty_iff.1 hpart]
    next => simp
  | cons d cs ih =>
    rw [splitChars, List.mem_cons]
    split
    next hd =>
      have hne : c ≠ d := fun heq => by
        rw [heq, hd] at hc
        cases hc
      rw [or_iff_right hne]
      split
      next hpart => rw [ih, List.isEmpty_iff.1 hpart]
      next => simp only [List.mem_cons, exists_eq_or_imp, ih, List.mem_reverse, List.not_mem_nil, false_or]
    next => rw [ih, List.mem_cons, or_assoc, or_left_comm]

/-- The elements of joined parts are those of the parts. -/
theorem mem_intercalate_iff {α : Type} {a : α} {gap : List α} (hgap : a ∉ gap) {ws : List (List α)} :
    a ∈ gap.intercalate ws ↔ ∃ w ∈ ws, a ∈ w := by
  induction ws with
  | nil => simp
  | cons w ws ih =>
    cases ws with
    | nil => simp
    | cons v vs =>
      rw [List.intercalate_cons_cons, List.mem_append, List.mem_append, ih, or_iff_left hgap]
      simp only [List.mem_cons, exists_eq_or_imp]

/-- The visible characters of a collapsed text. -/
theorem mem_collapse_iff {s : String} {c : Char} (hc : isSpace c = false) : c ∈ (collapse s).toList ↔ c ∈ s.toList := by
  have hblank : c ∉ (" " : String).toList := by
    intro h
    obtain rfl := List.mem_singleton.1 h
    exact absurd hc (by decide)
  have hparts : (split s).map String.toList = splitChars isSpace [] s.toList := by
    unfold split splitOn
    rw [List.map_map]
    exact (List.map_congr_left fun cs _ => String.toList_ofList).trans (List.map_id _)
  rw [collapse, String.toList_intercalate, hparts, mem_intercalate_iff hblank, mem_splitChars_iff hc,
    or_iff_right List.not_mem_nil]

/-- A blank in front is stripped. -/
theorem strip_blank_append (s : String) : strip (" " ++ s) = strip s := by
  have hchars : (" " ++ s).toList = ' ' :: s.toList := by simp
  unfold strip stripChars
  rw [hchars, List.dropWhile_cons_of_pos (by decide)]

/-- Stripping a text that goes on after a word leaves its words. -/
theorem strip_append_blank {w rest : String} (hw : StartsVisibly w) (hrest : Visible rest) :
    ∃ rest', strip (w ++ " " ++ rest) = w ++ " " ++ rest' ∧ split rest' = split rest := by
  have hback : (rest.toList.reverse.dropWhile isSpace).reverse ++ (rest.toList.reverse.takeWhile isSpace).reverse =
      rest.toList := by
    rw [← List.reverse_append, List.takeWhile_append_dropWhile, List.reverse_reverse]
  refine ⟨String.ofList (rest.toList.reverse.dropWhile isSpace).reverse, ?_, ?_⟩
  · obtain ⟨c, hc, hspace⟩ := hw
    obtain ⟨cs, hcs⟩ := List.head?_eq_some_iff.1 hc
    obtain ⟨d, hd, hvisible⟩ := hrest
    have hne : (rest.toList.reverse.dropWhile isSpace).isEmpty = false := by
      rw [List.isEmpty_eq_false_iff, Ne, List.dropWhile_eq_nil_iff]
      intro h
      rw [h d (List.mem_reverse.2 hd)] at hvisible
      nomatch hvisible
    have hchars : (w ++ " " ++ rest).toList = c :: (cs ++ ' ' :: rest.toList) := by simp [hcs]
    have hfront : ((w ++ " " ++ rest).toList).dropWhile isSpace = (w ++ " ").toList ++ rest.toList := by
      rw [hchars, List.dropWhile_cons_of_neg (Bool.eq_false_iff.1 hspace), String.toList_append, hcs]
      simp
    unfold strip stripChars
    rw [hfront, List.reverse_append, List.dropWhile_append, hne, if_neg Bool.false_ne_true, List.reverse_append,
      List.reverse_reverse, String.ofList_append, String.ofList_toList]
  · unfold split splitOn
    rw [String.toList_ofList, ← splitChars_append_seps (fun c hc => List.mem_takeWhile_imp (List.mem_reverse.1 hc)),
      hback]

/-! ## The first separator -/

/-- What stands before and after the first separator. -/
theorem partitionChars_append {c : Char} {before : List Char} (hbefore : c ∉ before) (after : List Char) :
    partitionChars [c] (before ++ c :: after) = some (before, after) := by
  induction before with
  | nil => simp [partitionChars]
  | cons d before ih =>
    obtain ⟨hd, hbefore⟩ := not_or.1 (List.mem_cons.not.1 hbefore)
    have hne : ¬[c].isPrefixOf (d :: (before ++ c :: after)) = true := by
      intro h
      obtain ⟨rest, hrest⟩ := List.isPrefixOf_iff_prefix.1 h
      exact hd (List.cons.inj hrest).1
    rw [List.cons_append, partitionChars, if_neg hne, ih hbefore]
    rfl

/-- A text without the separator. -/
theorem partitionChars_of_not_mem {c : Char} {cs : List Char} (h : c ∉ cs) : partitionChars [c] cs = none := by
  induction cs with
  | nil => rfl
  | cons d cs ih =>
    obtain ⟨hd, hcs⟩ := not_or.1 (List.mem_cons.not.1 h)
    have hne : ¬[c].isPrefixOf (d :: cs) = true := by
      intro h
      obtain ⟨rest, hrest⟩ := List.isPrefixOf_iff_prefix.1 h
      exact hd (List.cons.inj hrest).1
    rw [partitionChars, if_neg hne, ih hcs]
    rfl

/-- The parts of a text before and after the first separator of one character. -/
theorem splitFirst_append {c : Char} {sep before : String} (hsep : sep.toList = [c]) (hbefore : c ∉ before.toList)
    (after : String) : splitFirst (before ++ sep ++ after) sep = some (before, after) := by
  have hchars : (before ++ sep ++ after).toList = before.toList ++ c :: after.toList := by simp [hsep]
  unfold splitFirst
  rw [hchars, hsep, partitionChars_append hbefore]
  simp

/-- There are no parts of a text without the separator. -/
theorem splitFirst_of_not_mem {c : Char} {sep s : String} (hsep : sep.toList = [c]) (h : c ∉ s.toList) :
    splitFirst s sep = none := by
  unfold splitFirst
  rw [hsep, partitionChars_of_not_mem h]
  rfl

/-- A text with the separator. -/
theorem exists_first {c : Char} {sep s : String} (hsep : sep.toList = [c]) (h : c ∈ s.toList) :
    ∃ before after : String, s = before ++ sep ++ after ∧ c ∉ before.toList := by
  obtain ⟨before, after, hsplit, hbefore⟩ := List.eq_append_cons_of_mem h
  refine ⟨String.ofList before, String.ofList after, String.toList_inj.1 ?_, by rwa [String.toList_ofList]⟩
  simp [hsplit, hsep]

/-! ## Lines -/

theorem isSpace_of_isLineBreak {c : Char} (h : isLineBreak c = true) : isSpace c = true := by
  simp only [isLineBreak, isSpace, Bool.or_eq_true, Bool.and_eq_true, decide_eq_true_eq, beq_iff_eq] at h ⊢
  omega

/-- A line goes on with characters that are no line boundaries. -/
theorem splitLinesChars_append {w : List Char} (hw : ∀ c ∈ w, isLineBreak c = false) (line cs : List Char) :
    splitLinesChars line (w ++ cs) = splitLinesChars (w.reverse ++ line) cs := by
  induction w generalizing line with
  | nil => rfl
  | cons c w ih =>
    obtain ⟨hc, hw⟩ := List.forall_mem_cons.1 hw
    have hreturn : ∀ ds, c = '\r' → w ++ cs = '\n' :: ds → False := by
      rintro ds rfl
      exact absurd hc (by decide)
    rw [List.cons_append, splitLinesChars, if_neg (Bool.eq_false_iff.1 hc), ih hw, List.reverse_cons, List.append_assoc]
    · rfl
    · exact hreturn

/-- There is a line in a text that is not empty. -/
theorem splitLinesChars_ne_nil {line cs : List Char} (h : line ≠ [] ∨ cs ≠ []) : splitLinesChars line cs ≠ [] := by
  fun_induction splitLinesChars line cs with
  | case1 line hline => exact absurd (List.isEmpty_iff.1 hline) (h.resolve_right (fun h => h rfl))
  | case2 line hline => exact List.cons_ne_nil _ _
  | case3 line cs ih => exact List.cons_ne_nil _ _
  | case4 line c cs hreturn hbreak ih => exact List.cons_ne_nil _ _
  | case5 line c cs hreturn hbreak ih => exact ih (.inl (List.cons_ne_nil _ _))

/-- There are no lines exactly in the empty text. -/
theorem splitlines_ne_nil {s : String} (h : s ≠ "") : splitlines s ≠ [] := by
  unfold splitlines
  rw [Ne, List.map_eq_nil_iff]
  exact splitLinesChars_ne_nil (.inr fun hnil => h (String.toList_eq_nil_iff.1 hnil))

/-- The lines of joined lines that are not empty. -/
theorem splitlines_intercalate {lines : List String}
    (hlines : ∀ line ∈ lines, line ≠ "" ∧ ∀ c ∈ line.toList, isLineBreak c = false) :
    splitlines ("\n".intercalate lines) = lines := by
  have hempty : ∀ {s : String}, s ≠ "" → s.toList ≠ [] := fun h hnil => h (String.toList_eq_nil_iff.1 hnil)
  have hchars : ∀ {ws : List String}, (∀ w ∈ ws, w ≠ "" ∧ ∀ c ∈ w.toList, isLineBreak c = false) →
      splitLinesChars [] (['\n'].intercalate (ws.map String.toList)) = ws.map String.toList := by
    intro ws hws
    induction ws with
    | nil => rfl
    | cons w ws ih =>
      obtain ⟨⟨hne, hw⟩, hws⟩ := List.forall_mem_cons.1 hws
      cases ws with
      | nil =>
        have h := splitLinesChars_append hw [] []
        rw [List.append_nil, List.append_nil, splitLinesChars, List.reverse_reverse] at h
        rw [List.map_singleton, List.intercalate_singleton, h, if_neg]
        simpa using hne
      | cons v vs =>
        rw [List.map_cons, List.map_cons, List.intercalate_cons_cons, List.append_assoc, splitLinesChars_append hw,
          List.append_nil, List.singleton_append, splitLinesChars, if_pos (by decide), List.reverse_reverse]
        · exact congrArg (List.cons w.toList) (ih hws)
        · rintro ds h
          exact absurd h (by decide)
  unfold splitlines
  rw [String.toList_intercalate]
  have h := hchars hlines
  rw [show ("\n" : String).toList = ['\n'] from rfl, h, List.map_map]
  exact (List.map_congr_left fun s _ => String.ofList_toList).trans (List.map_id lines)

/-! ## Splitting at a character -/

/-- The separator stands in no part. -/
theorem not_mem_of_mem_splitChar {s part : String} {sep : Char} (hpart : part ∈ splitChar s sep) : sep ∉ part.toList := by
  have hchars : ∀ cs : List Char, ∀ w ∈ cs.splitOn sep, sep ∉ w := by
    intro cs
    induction cs with
    | nil => simp
    | cons c cs ih =>
      rw [List.splitOn_cons_eq_if_modifyHead]
      split
      next => exact List.forall_mem_cons.2 ⟨List.not_mem_nil, ih⟩
      next hc =>
        cases hsplit : cs.splitOn sep with
        | nil => simp
        | cons w ws =>
          rw [hsplit] at ih
          rw [List.modifyHead_cons, List.forall_mem_cons]
          have hne : sep ≠ c := fun h => hc (by simp [h])
          exact ⟨List.not_mem_cons_of_ne_of_not_mem hne (ih w List.mem_cons_self), fun w' hw' =>
            ih w' (List.mem_cons_of_mem w hw')⟩
  obtain ⟨w, hw, rfl⟩ := List.mem_map.1 hpart
  rw [String.toList_ofList]
  exact hchars s.toList w hw

/-! ## Lists without repetitions -/

variable {α : Type} [DecidableEq α] {l seen : List α}

/-- What is kept of a list without its repetitions. -/
theorem mem_foldl_distinct {a : α} :
    a ∈ l.foldl (fun seen b => if b ∈ seen then seen else seen ++ [b]) seen ↔ a ∈ seen ∨ a ∈ l := by
  induction l generalizing seen with
  | nil => simp
  | cons b l ih =>
    rw [List.foldl_cons, ih, List.mem_cons]
    split
    next hb =>
      constructor
      · rintro (h | h)
        · exact .inl h
        · exact .inr (.inr h)
      · rintro (h | rfl | h)
        · exact .inl h
        · exact .inl hb
        · exact .inr h
    next => rw [List.mem_append, List.mem_singleton, or_assoc]

/-- There are no repetitions in it. -/
theorem nodup_foldl_distinct (h : seen.Nodup) :
    (l.foldl (fun seen b => if b ∈ seen then seen else seen ++ [b]) seen).Nodup := by
  induction l generalizing seen with
  | nil => exact h
  | cons b l ih =>
    rw [List.foldl_cons]
    split
    next => exact ih h
    next hb => exact ih (List.nodup_append.2 ⟨h, List.pairwise_singleton _ b, fun x hx y hy => by
      rw [List.mem_singleton.1 hy]
      exact fun heq => hb (heq ▸ hx)⟩)

/-- A list without repetitions is kept as it is. -/
theorem foldl_distinct_of_nodup (h : (seen ++ l).Nodup) :
    l.foldl (fun seen b => if b ∈ seen then seen else seen ++ [b]) seen = seen ++ l := by
  induction l generalizing seen with
  | nil => rw [List.foldl_nil, List.append_nil]
  | cons b l ih =>
    have hb : b ∉ seen := fun hb => (List.nodup_append.1 h).2.2 b hb b List.mem_cons_self rfl
    have hsplit : seen ++ b :: l = seen ++ [b] ++ l := by simp
    rw [List.foldl_cons, if_neg hb, ih (hsplit ▸ h), hsplit]

end Python
