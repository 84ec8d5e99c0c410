import TeamsRehook.Lemmas.Payloads
import TeamsRehook.Lib.Except
import TeamsRehook.Lib.Python

/-!
# The text of Adaptive Cards

A Graph route shows the text of a card only. It is to be the texts of the text blocks of the card and the lines of its
facts: all of them, in the order of the card, none of them twice.
-/

namespace TeamsRehook

mutual

/-- The objects in a value in pre-order: an object stands before those in its members. -/
def objectsIn : Json → List (List (String × Json))
  | .obj members => members :: objectsInMembers members
  | .arr items => objectsInItems items
  | _ => []

/-- The objects in the items, in pre-order. -/
def objectsInItems : List Json → List (List (String × Json))
  | [] => []
  | v :: rest => objectsIn v ++ objectsInItems rest

/-- The objects in the members, in pre-order. -/
def objectsInMembers : List (String × Json) → List (List (String × Json))
  | [] => []
  | (_, v) :: rest => objectsIn v ++ objectsInMembers rest

end

/-- The stripped text of a `TextBlock` whose text is not blank. -/
def textBlockText (value : List (String × Json)) : Option String :=
  match item "type" value, item "text" value with
  | .str "TextBlock", .str text => if Python.strip text = "" then none else some (Python.strip text)
  | _, _ => none

/-- The line of a fact with a title and a value. -/
def factLine (P : Platform) : Json → Option String
  | .obj fact =>
    match item "title" fact, item "value" fact with
    | .null, _ | _, .null => none
    | title, value => some (strOf P title ++ ": " ++ strOf P value)
  | _ => none

/-- The lines of the facts of a `FactSet`. -/
def factSetLines (P : Platform) (value : List (String × Json)) : List String :=
  match item "type" value, item "facts" value with
  | .str "FactSet", .arr facts => facts.filterMap (factLine P)
  | _, _ => []

/-- The objects in the content of an attachment. -/
def contentObjects : Json → List (List (String × Json))
  | .obj attachment =>
    match item "content" attachment with
    | .obj content => objectsIn (.obj content)
    | _ => []
  | _ => []

/-- The objects in the contents of the attachments, in pre-order. -/
def cardObjects (attachments : List Json) : List (List (String × Json)) := attachments.flatMap contentObjects

/-- The texts of all text blocks of the attachments. -/
def cardTexts (attachments : List Json) : List String := (cardObjects attachments).filterMap textBlockText

/-- The lines of all facts of the attachments. -/
def cardFactLines (P : Platform) (attachments : List Json) : List String :=
  (cardObjects attachments).flatMap (factSetLines P)

namespace CardTextAux

open PayloadsAux

variable {P : Platform} {frames : Nat} {v : Json} {items : List Json} {members : List (String × Json)}

/-- The objects of an array are those of its items. -/
theorem objectsInItems_eq (items : List Json) : objectsInItems items = items.flatMap objectsIn := by
  induction items with
  | nil => rfl
  | cons v items ih => rw [objectsInItems, ih, List.flatMap_cons]

/-- The objects of an object are those of its members. -/
theorem objectsInMembers_eq (members : List (String × Json)) :
    objectsInMembers members = members.flatMap (objectsIn ·.2) := by
  induction members with
  | nil => rfl
  | cons member members ih => rw [objectsInMembers, ih, List.flatMap_cons]

/-! ## What an object gives -/

/-- What is appended for lines: nothing when there are none, the joined lines otherwise. -/
def joined (lines : List String) : List String := if lines = [] then [] else ["\n".intercalate lines]

/-- A value that can be written as text is. -/
theorem str_eq_ok (h : Writable frames v) : str P frames v = .ok (strOf P v) := by
  unfold str
  rw [writable_eq_ok h]
  rfl

/-- The source finds the text of a text block. -/
theorem textBlock_eq (value : List (String × Json)) : textBlock value = (textBlockText value).toList := by
  by_cases h : ∃ text, item "type" value = .str "TextBlock" ∧ item "text" value = .str text
  · obtain ⟨text, htype, htext⟩ := h
    simp only [textBlock, textBlockText, htype, htext]
    by_cases hblank : Python.strip text = ""
    · simp [hblank]
    · simp [hblank]
  · have hsource : textBlock value = [] := by
      unfold textBlock
      split
      next text htype htext => exact absurd ⟨text, htype, htext⟩ h
      next => rfl
    have htext : textBlockText value = none := by
      unfold textBlockText
      split
      next text htype htext => exact absurd ⟨text, htype, htext⟩ h
      next => rfl
    rw [hsource, htext]
    rfl

/-- A fact without a title or a value has no line. -/
theorem factLine_of_null {fact : List (String × Json)} (h : item "title" fact = .null ∨ item "value" fact = .null) :
    factLine P (.obj fact) = none := by
  unfold factLine
  dsimp only
  split
  · rfl
  · rfl
  next htitle hvalue => rcases h with h | h <;> contradiction

/-- A fact with a title and a value has a line of both. -/
theorem factLine_of_ne {fact : List (String × Json)} (htitle : item "title" fact ≠ .null)
    (hvalue : item "value" fact ≠ .null) :
    factLine P (.obj fact) = some (strOf P (item "title" fact) ++ ": " ++ strOf P (item "value" fact)) := by
  unfold factLine
  dsimp only
  split
  next h => exact (htitle h).elim
  next h _ => exact (hvalue h).elim
  · rfl

/-- The source renders the facts that can be written. -/
theorem factLines_eq_ok (h : ∀ v ∈ items, Writable (frames + 1) v) :
    factLines P (frames + 1) "title" items = .ok (items.filterMap (factLine P)) := by
  induction items with
  | nil => rfl
  | cons v items ih =>
    have hrest := ih fun w hw => h w (List.mem_cons_of_mem v hw)
    cases v with
    | obj fact =>
      have hfact := h _ List.mem_cons_self
      rw [factLines]
      split
      next htitle => rw [hrest, List.filterMap_cons_none (factLine_of_null (Or.inl htitle))]
      next hvalue _ => rw [hrest, List.filterMap_cons_none (factLine_of_null (Or.inr hvalue))]
      next htitle hvalue =>
        rw [str_eq_ok (hfact.item "title"), str_eq_ok (hfact.item "value"), hrest,
          List.filterMap_cons_some (factLine_of_ne htitle hvalue)]
        rfl
    | _ =>
      rw [factLines, hrest, List.filterMap_cons_none rfl]
      nofun

/-- A rendered fact is not blank: it has a colon. -/
theorem visible_of_factLine {line : String} (h : factLine P v = some line) : Python.Visible line := by
  cases v with
  | obj fact =>
    by_cases htitle : item "title" fact = .null
    · rw [factLine_of_null (Or.inl htitle)] at h
      nomatch h
    by_cases hvalue : item "value" fact = .null
    · rw [factLine_of_null (Or.inr hvalue)] at h
      nomatch h
    rw [factLine_of_ne htitle hvalue] at h
    cases h
    exact Python.Visible.append_left (Python.Visible.append_right ⟨':', by decide, by decide⟩ _) _
  | _ => nomatch h

/-- The lines of facts are not blank. -/
theorem visible_of_mem_factSetLines {line : String} (h : line ∈ factSetLines P members) : Python.Visible line := by
  unfold factSetLines at h
  split at h
  · obtain ⟨fact, -, hline⟩ := List.mem_filterMap.1 h
    exact visible_of_factLine hline
  · nomatch h

/-- A text block gives a text that is not blank. -/
theorem visible_of_textBlockText {text : String} (h : textBlockText members = some text) : Python.Visible text := by
  unfold textBlockText at h
  split at h
  · split at h
    · nomatch h
    next hne =>
      cases h
      exact Python.visible_strip hne
  · nomatch h

/-- Joined lines are appended unless there are none. -/
theorem ite_intercalate {lines : List String} (h : ∀ line ∈ lines, Python.Visible line) :
    (if "\n".intercalate lines = "" then [] else ["\n".intercalate lines]) = joined lines := by
  unfold joined
  cases lines with
  | nil => simp
  | cons line lines =>
    rw [if_neg (Python.visible_intercalate List.mem_cons_self (h line List.mem_cons_self)).ne_empty, if_neg (by simp)]

/-- The source finds the lines of a fact set, as one text. -/
theorem factSet_eq_ok (h : Writable (frames + 1) (.obj members)) :
    factSet P (frames + 1) members = .ok (joined (factSetLines P members)) := by
  have hfacts := h.item "facts"
  have hvisible : ∀ line ∈ factSetLines P members, Python.Visible line := fun line => visible_of_mem_factSetLines
  rw [← ite_intercalate hvisible]
  unfold factSet adaptiveFactsText factsTextOf factSetLines
  split
  next htype =>
    rw [htype]
    cases hitem : item "facts" members with
    | arr facts =>
      rw [hitem] at hfacts
      have hitems : ∀ v ∈ facts, Writable (frames + 1) v := fun v hv => (hfacts.of_mem_items hv).mono (Nat.le_succ _)
      simp only [factLines_eq_ok hitems]
      rfl
    | _ => rfl
  next hother =>
    split
    next htype _ => exact (hother htype).elim
    next => rfl

/-! ## What a value gives -/

/-- The source collects the texts and the facts of the objects in a value, in pre-order. -/
theorem collectAdaptiveCardText_eq_ok (h : Writable frames v) (texts : List String × List String) :
    collectAdaptiveCardText P (frames + 1) v texts = .ok (texts.1 ++ (objectsIn v).flatMap fun value =>
      (textBlockText value).toList, texts.2 ++ (objectsIn v).flatMap fun value => joined (factSetLines P value)) := by
  induction frames generalizing v texts with
  | zero =>
    have hnested := h.nested
    cases v <;> nomatch hnested
  | succ frames ih =>
    obtain ⟨textBlocks, facts⟩ := texts
    cases v with
    | obj value =>
      rw [collectAdaptiveCardText, factSet_eq_ok h, objectsIn, objectsInMembers_eq, textBlock_eq]
      refine (Except.foldlM_append_pair (fun child hchild texts => ih (h.of_mem_members hchild) texts) _).trans ?_
      simp only [List.flatMap_cons, List.flatMap_assoc, List.append_assoc]
    | arr value =>
      rw [collectAdaptiveCardText, objectsIn, objectsInItems_eq]
      refine (Except.foldlM_append_pair (fun child hchild texts => ih (h.of_mem_items hchild) texts) _).trans ?_
      simp only [List.flatMap_assoc]
    | _ => simp [collectAdaptiveCardText, objectsIn]

/-- The objects of a card are those of its content. -/
theorem contentObjects_of_obj {content : List (String × Json)} (h : item "content" members = .obj content) :
    contentObjects (.obj members) = objectsIn (.obj content) := by
  unfold contentObjects
  simp only [h]

/-- An attachment without content has no objects. -/
theorem contentObjects_of_ne (h : ∀ content, item "content" members = .obj content → False) :
    contentObjects (.obj members) = [] := by
  unfold contentObjects
  dsimp only
  split
  next content hcontent => exact (h content hcontent).elim
  next => rfl

/-- The source collects the texts and the facts of the attachments. -/
theorem collectAttachments_eq_ok (h : ∀ v ∈ items, Writable (frames + 1) v) : collectAttachments P (frames + 2) items =
    .ok (cardTexts items, (cardObjects items).flatMap fun value => joined (factSetLines P value)) := by
  unfold collectAttachments
  refine (Except.foldlM_append_pair (g := fun v => (contentObjects v).flatMap fun value => (textBlockText value).toList)
    (k := fun v => (contentObjects v).flatMap fun value => joined (factSetLines P value)) ?_ _).trans ?_
  · intro attachment hattachment texts
    split
    next members =>
      split
      next content hcontent =>
        have hwritable := (h _ hattachment).item "content"
        rw [hcontent] at hwritable
        rw [collectAdaptiveCardText_eq_ok hwritable, contentObjects_of_obj hcontent]
      next hcontent => simp [contentObjects_of_ne hcontent]
    next hother =>
      have hnone : contentObjects attachment = [] := by
        cases attachment with
        | obj members => exact (hother members rfl).elim
        | _ => rfl
      simp [hnone]
  · simp [cardTexts, cardObjects, List.flatMap_assoc, List.filterMap_eq_flatMap_toList]

/-! ## The summary -/

/-- Joined lines that are joined again make the text of all lines. -/
theorem intercalate_flatMap_joined (texts : List String) (facts : List (List String)) :
    "\n".intercalate (texts ++ facts.flatMap joined) = "\n".intercalate (texts ++ facts.flatten) := by
  induction facts generalizing texts with
  | nil => rfl
  | cons lines facts ih =>
    rw [List.flatMap_cons, List.flatten_cons, joined]
    split
    next hnil => rw [hnil, List.nil_append, List.nil_append, ih]
    next hlines =>
      have hjoined : "\n".intercalate (texts ++ "\n".intercalate lines :: facts.flatten) =
          "\n".intercalate (texts ++ lines ++ facts.flatten) :=
        Python.intercalate_joined hlines texts facts.flatten
      rw [← List.append_assoc, ih, List.append_assoc, List.singleton_append, hjoined, List.append_assoc]

/-- The texts of a card are not blank. -/
theorem visible_of_mem_cardTexts {text : String} (h : text ∈ cardTexts items) : Python.Visible text := by
  obtain ⟨value, -, htext⟩ := List.mem_filterMap.1 h
  exact visible_of_textBlockText htext

/-- Lines that are not blank come to a text that is not. -/
theorem visible_of_mem_joined {lines : List String} {text : String} (h : ∀ line ∈ lines, Python.Visible line)
    (htext : text ∈ joined lines) : Python.Visible text := by
  unfold joined at htext
  split at htext
  · nomatch htext
  next hne =>
    obtain ⟨line, hline⟩ := List.exists_mem_of_ne_nil lines hne
    rw [List.mem_singleton.1 htext]
    exact Python.visible_intercalate hline (h line hline)

/-- The lines of the body are kept when it is put together: no line is blank. -/
theorem filter_strip_eq_self {texts : List String} (h : ∀ text ∈ texts, Python.Visible text) :
    texts.filter (Python.strip · != "") = texts :=
  List.filter_eq_self.2 fun text htext => bne_iff_ne.2 (Python.strip_ne_empty_iff.2 (h text htext))

/-- The title is the first text: none is blank. -/
theorem find?_strip_eq_head? {texts : List String} (h : ∀ text ∈ texts, Python.Visible text) :
    texts.find? (Python.strip · != "") = texts.head? := by
  rw [← List.head?_filter, filter_strip_eq_self h]

end CardTextAux

open CardTextAux PayloadsAux

/-- The summary of an activity that passed the check of its complexity has the first text of its cards as the title. Its
body has the other texts and then the lines of the facts, in the order of the cards. -/
theorem activitySummary_shows_card_text {P : Platform} {frames : Nat} {activity : List (String × Json)}
    {attachments : List Json} (hattachments : item "attachments" activity = .arr attachments)
    (hdigits : withinDigits intMaxStrDigits (.obj activity) = true) (hdepth : (Json.obj activity).depth ≤ maxJsonDepth)
    (hframes : maxJsonDepth < frames) :
    activitySummary P frames activity = .ok ((cardTexts attachments).headD "",
      "\n".intercalate ((cardTexts attachments).drop 1 ++ cardFactLines P attachments)) := by
  obtain ⟨n, rfl⟩ : ∃ n, frames = n + 2 := ⟨frames - 2, by simp only [maxJsonDepth] at hframes; omega⟩
  have hactivity : Writable (n + 2) (.obj activity) := ⟨hdigits, by rw [nesting_eq]; omega⟩
  have hitems : ∀ v ∈ attachments, Writable (n + 1) v := by
    intro v hv
    have harr := hactivity.item_lt "attachments"
    rw [hattachments] at harr
    exact (harr.of_mem_items hv).mono (Nat.le_succ n)
  have htexts : ∀ text ∈ cardTexts attachments, Python.Visible text := fun text => visible_of_mem_cardTexts
  have hbody : ∀ line ∈ (cardTexts attachments).drop 1 ++ (cardObjects attachments).flatMap fun value =>
    joined (factSetLines P value),
      Python.Visible line := by
    intro line hline
    rcases List.mem_append.1 hline with hline | hline
    · exact htexts line (List.mem_of_mem_drop hline)
    · obtain ⟨value, -, hline⟩ := List.mem_flatMap.1 hline
      exact visible_of_mem_joined (fun line => visible_of_mem_factSetLines) hline
  have hjoined :=
    intercalate_flatMap_joined ((cardTexts attachments).drop 1) ((cardObjects attachments).map (factSetLines P))
  rw [List.flatMap_map, ← List.flatMap_def] at hjoined
  unfold activitySummary
  simp only [hattachments, collectAttachments_eq_ok hitems]
  refine congrArg Except.ok (Prod.ext ?_ ?_)
  · show ((cardTexts attachments).find? (Python.strip · != "")).getD "" = _
    rw [find?_strip_eq_head? htexts, List.headD_eq_head?_getD]
  · show "\n".intercalate (List.filter (Python.strip · != "") _) = _
    rw [filter_strip_eq_self hbody, hjoined, cardFactLines]

/-! ## Fixed inputs -/

/-- The attachments of an activity: a card with a text inside a container between two others, and one with facts. -/
def diskAlert : List Json :=
  [.obj [("content", .obj [("body", .arr [
      .obj [("type", .str "TextBlock"), ("text", .str " Disk full ")],
      .obj [("items", .arr [.obj [("type", .str "TextBlock"), ("text", .str "db-1")]])],
      .obj [("type", .str "TextBlock"), ("text", .str " ")],
      .obj [("type", .str "TextBlock"), ("text", .str "Disk full")]])])],
    .obj [("content", .obj [("type", .str "FactSet"), ("facts", .arr [
      .obj [("title", .str "Free"), ("value", .str "0")], .obj [("title", .str "Node")],
      .obj [("title", .str "Node"), ("value", .str "db-1")]])])]]

/-- A card with a title, a host and two facts. -/
theorem activitySummary_shows_card_text_diskAlert :
    activitySummary Platform.plain 81 [("type", .str "message"), ("attachments", .arr diskAlert)] =
      .ok ("Disk full", "\n".intercalate (["db-1", "Disk full"] ++ ["Free: 0", "Node: db-1"])) := by
  have htexts : cardTexts diskAlert = ["Disk full", "db-1", "Disk full"] := by decide
  have hfacts : cardFactLines Platform.plain diskAlert = ["Free: 0", "Node: db-1"] := by decide
  have hattachments : item "attachments" [("type", .str "message"), ("attachments", .arr diskAlert)] = .arr diskAlert :=
    rfl
  rw [activitySummary_shows_card_text hattachments (by decide) (by decide) (by decide), htexts, hfacts]
  rfl

end TeamsRehook
