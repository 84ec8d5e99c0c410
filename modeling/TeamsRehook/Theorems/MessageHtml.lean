import TeamsRehook.Delivery.Graph
import TeamsRehook.Lib.Markup

/-!
# The HTML of a message

The fields of a message are escaped before they are put between tags, so the tags of the HTML are those of its layout,
and what stands between them is what the fields are.
-/

namespace TeamsRehook

/-- The severity a message shows: `info` is not. -/
def NormalizedMessage.shownSeverity (message : NormalizedMessage) : String :=
  if message.severity = "info" then "" else message.severity

/-- The tags of a message: how many lines its text has, if there is one, and whether it shows a status and a severity. -/
def layoutTags (lines : Option Nat) (status severity : Bool) : List String :=
  let labelled := ["br", "br", "strong", "/strong"]
  ["strong", "/strong"] ++ (lines.map fun n => List.replicate (n + 1) "br").getD [] ++
    (if status then labelled else []) ++ (if severity then labelled else [])

/-- What a message shows. -/
structure ShownMessage where
  title : String
  lines : List String
  status : String
  severity : String
  deriving DecidableEq

/-- The value after a label. -/
def labelledValue (label : String) (parts : List (String × String)) : String :=
  (((parts.zip parts.tail).find? fun p => p.1 == ("strong", label)).map fun p => Python.drop p.2.2 1).getD ""

/-- What is read from the texts between the tags. -/
def readMessage (m : Markup) : ShownMessage :=
  let body := m.rest.drop 2
  let breaks := body.takeWhile (·.1 == "br")
  let labelled := body.dropWhile (·.1 == "br")
  -- the last two line breaks are those before a label
  let text := if labelled.isEmpty then breaks else breaks.take (breaks.length - 2)
  { title := ((m.rest.head?).map (·.2)).getD ""
    lines := (text.drop 1).map (·.2)
    status := labelledValue "Status:" labelled
    severity := labelledValue "Severity:" labelled }

namespace MessageHtmlAux

open Markup (renderRest)

variable {message : NormalizedMessage}

/-! ## The layout -/

/-- The tags and texts of a text with some lines. -/
def textParts (lines : List String) : List (String × String) := if lines = [] then [] else ("br", "") ::
    lines.map ("br", ·)

/-- The tags and texts of a value with a label. -/
def labelledParts (label value : String) : List (String × String) :=
  if value = "" then [] else [("br", ""), ("br", ""), ("strong", label), ("/strong", " " ++ value)]

/-- The tags of a message with its fields between them. -/
def messageMarkup (message : NormalizedMessage) : Markup :=
  ⟨"", [("strong", message.title), ("/strong", "")] ++ textParts (Python.splitlines message.text) ++
    labelledParts "Status:" message.status ++ labelledParts "Severity:" message.shownSeverity⟩

/-- The parts with their texts escaped. -/
def escapeParts (parts : List (String × String)) : List (String × String) :=
  parts.map fun part => (part.1, Python.htmlEscape part.2)

theorem htmlEscape_append (s t : String) : Python.htmlEscape (s ++ t) = Python.htmlEscape s ++ Python.htmlEscape t := by
  unfold Python.htmlEscape
  rw [String.toList_append, List.flatMap_append, String.ofList_append]

/-! ## The blocks as they are written -/

/-- The title. -/
theorem renderRest_title (title : String) :
    renderRest (escapeParts [("strong", title), ("/strong", "")]) = "<strong>" ++ Python.htmlEscape title ++
    "</strong>" := by
  have hempty : Python.htmlEscape "" = "" := by decide
  refine String.toList_inj.1 ?_
  simp [renderRest, escapeParts, hempty]

/-- The text. -/
theorem renderRest_text {text : String} (h : text ≠ "") :
    renderRest (escapeParts (textParts (Python.splitlines text))) = "<br><br>" ++ plainTextToHtml text := by
  have hempty : Python.htmlEscape "" = "" := by decide
  obtain ⟨line, lines, hlines⟩ := List.exists_cons_of_ne_nil (Python.splitlines_ne_nil h)
  have hrest : ∀ lines : List String, renderRest (escapeParts (lines.map ("br", ·))) =
      String.join ((lines.map Python.htmlEscape).map ("<br>" ++ ·)) := by
    intro lines
    have htag : ("<" ++ "br" ++ ">" : String) = "<br>" := by decide
    unfold renderRest escapeParts
    rw [List.map_map, List.map_map, List.map_map]
    refine congrArg String.join (List.map_congr_left fun line _ => ?_)
    simp only [Function.comp_apply, htag]
  unfold textParts plainTextToHtml
  rw [hlines, if_neg (List.cons_ne_nil _ _), List.map_cons, List.map_cons, Python.intercalate_cons_eq_join, ← hrest]
  refine String.toList_inj.1 ?_
  simp [renderRest, escapeParts, hempty]

/-- A labelled value. -/
theorem renderRest_labelled {label value : String} (hlabel : Python.htmlEscape label = label) (h : value ≠ "") :
    renderRest (escapeParts (labelledParts label value)) = "<br><br>" ++
    ("<strong>" ++ label ++ "</strong> " ++ Python.htmlEscape value) := by
  have hempty : Python.htmlEscape "" = "" := by decide
  have hblank : Python.htmlEscape " " = " " := by decide
  unfold labelledParts
  rw [if_neg h]
  refine String.toList_inj.1 ?_
  simp [renderRest, escapeParts, hempty, hblank, hlabel, htmlEscape_append]

/-- A block that is left out, or one after a gap. -/
theorem join_optional {condition : Prop} [Decidable condition] {block : String} {parts : List (String × String)}
    (hempty : condition → escapeParts parts = [])
    (hblock : ¬condition → renderRest (escapeParts parts) = "<br><br>" ++ block) :
    String.join ((if condition then [] else [block]).map ("<br><br>" ++ ·)) = renderRest (escapeParts parts) := by
  split
  next h =>
    rw [hempty h]
    rfl
  next h =>
    rw [hblock h]
    simp

/-- The severity is left out when there is none to show. -/
theorem shownSeverity_eq_empty_iff : message.shownSeverity = "" ↔ message.severity = "" ∨ message.severity = "info" := by
  unfold NormalizedMessage.shownSeverity
  split
  next hinfo => simp [hinfo]
  next hinfo => simp [hinfo]

/-- The HTML of a message with a title is its layout with the fields escaped. -/
theorem messageHtml_eq (h : message.title ≠ "") :
    messageHtml message = ((messageMarkup message).mapTexts Python.htmlEscape).render := by
  have htext : String.join ((if message.text = "" then [] else [plainTextToHtml message.text]).map ("<br><br>" ++ ·)) =
      renderRest (escapeParts (textParts (Python.splitlines message.text))) :=
    join_optional (fun hempty => by rw [hempty]; rfl) renderRest_text
  have hstatus : String.join ((if message.status = "" then []
      else ["<strong>Status:</strong> " ++ Python.htmlEscape message.status]).map ("<br><br>" ++ ·)) =
      renderRest (escapeParts (labelledParts "Status:" message.status)) :=
    join_optional (fun hempty => by rw [hempty]; rfl) (renderRest_labelled (by decide))
  have hseverity : String.join ((if message.severity = "" ∨ message.severity = "info" then []
      else ["<strong>Severity:</strong> " ++ Python.htmlEscape message.severity]).map ("<br><br>" ++ ·)) =
      renderRest (escapeParts (labelledParts "Severity:" message.shownSeverity)) := by
    refine join_optional (fun hempty => ?_) fun hshown => ?_
    · rw [shownSeverity_eq_empty_iff.2 hempty]
      rfl
    · rw [renderRest_labelled (by decide) (shownSeverity_eq_empty_iff.not.2 hshown), NormalizedMessage.shownSeverity,
        if_neg (not_or.1 hshown).2]
      rfl
  have hrender : ((messageMarkup message).mapTexts Python.htmlEscape).render =
      renderRest (escapeParts ([("strong", message.title), ("/strong", "")] ++
        textParts (Python.splitlines message.text) ++ labelledParts "Status:" message.status ++
          labelledParts "Severity:" message.shownSeverity)) := by
    show Python.htmlEscape "" ++ renderRest _ = _
    rw [show Python.htmlEscape "" = "" by decide, String.empty_append]
    rfl
  have happend : ∀ parts parts', escapeParts (parts ++ parts') = escapeParts parts ++ escapeParts parts' :=
    fun _ _ => List.map_append
  have hne : ∀ rest : String, "<strong>" ++ Python.htmlEscape message.title ++ "</strong>" ++ rest ≠ "" := by simp
  rw [hrender]
  simp only [happend, Markup.renderRest_append, renderRest_title, ← htext, ← hstatus, ← hseverity]
  unfold messageHtml
  rw [if_neg h]
  simp only [List.cons_append, List.nil_append]
  rw [Python.intercalate_cons_eq_join, Python.orElse, if_neg (hne _)]
  simp only [List.map_append, String.join_append, String.append_assoc]

/-- Lines are set apart by line breaks. -/
theorem tag_of_mem_textParts {lines : List String} {part : String × String} (h : part ∈ textParts lines) :
    part.1 = "br" := by
  unfold textParts at h
  split at h
  · nomatch h
  · rcases List.mem_cons.1 h with rfl | h
    · rfl
    · obtain ⟨line, -, rfl⟩ := List.mem_map.1 h
      rfl

/-- The tags of the layout. -/
theorem tag_of_mem {part : String × String} (h : part ∈ (messageMarkup message).rest) :
    part.1 ∈ ["strong", "/strong", "br"] := by
  have hlabelled : ∀ label value, ∀ part ∈ labelledParts label value, part.1 ∈ ["strong", "/strong", "br"] := by
    intro label value part hpart
    unfold labelledParts at hpart
    split at hpart
    · nomatch hpart
    · simp only [List.mem_cons, List.not_mem_nil, or_false] at hpart
      rcases hpart with rfl | rfl | rfl | rfl <;> simp
  rcases List.mem_append.1 h with h | h
  · rcases List.mem_append.1 h with h | h
    · rcases List.mem_append.1 h with h | h
      · simp only [List.mem_cons, List.not_mem_nil, or_false] at h
        rcases h with rfl | rfl <;> simp
      · rw [tag_of_mem_textParts h]
        simp
    · exact hlabelled _ _ part h
  · exact hlabelled _ _ part h

/-- The escaped layout holds no angle bracket. -/
theorem wellFormed_layout (message : NormalizedMessage) :
    ((messageMarkup message).mapTexts Python.htmlEscape).WellFormed := by
  have htags : ∀ tag ∈ ["strong", "/strong", "br"], '<' ∉ tag.toList ∧ '>' ∉ tag.toList := by decide
  refine ⟨Markup.plain_htmlEscape _, fun part hpart => ?_⟩
  obtain ⟨part, hmem, rfl⟩ := List.mem_map.1 hpart
  exact ⟨htags part.1 (tag_of_mem hmem), Markup.plain_htmlEscape part.2⟩

/-- Unescaping the texts of the escaped layout gives the fields back. -/
theorem unescape_layout (message : NormalizedMessage) :
    ((messageMarkup message).mapTexts Python.htmlEscape).mapTexts Markup.unescape = messageMarkup message := by
  obtain ⟨first, rest⟩ := messageMarkup message
  unfold Markup.mapTexts
  simp only [Markup.unescape_htmlEscape, List.map_map]
  refine congrArg (Markup.mk first) ?_
  refine (List.map_congr_left fun part _ => ?_).trans (List.map_id rest)
  simp only [Function.comp_apply, Markup.unescape_htmlEscape]
  rfl

/-! ## Reading it back -/

/-- The lines of a text are none exactly when it is empty. -/
theorem splitlines_eq_nil_iff {text : String} : Python.splitlines text = [] ↔ text = "" :=
  ⟨fun h => by_contra fun hne => Python.splitlines_ne_nil hne h, fun h => by rw [h]; rfl⟩

/-- The tags of the layout are determined by the number of lines and by which values there are. -/
theorem tags_messageMarkup (message : NormalizedMessage) :
    (messageMarkup message).tags =
      layoutTags (if message.text = "" then none else some (Python.splitlines message.text).length) (message.status ≠ "")
        (message.shownSeverity ≠ "") := by
  have htext : (textParts (Python.splitlines message.text)).map (·.1) =
      ((if message.text = "" then none else some (Python.splitlines message.text).length).map fun n =>
        List.replicate (n + 1) "br").getD [] := by
    unfold textParts
    by_cases hempty : message.text = ""
    · rw [if_pos hempty, if_pos (splitlines_eq_nil_iff.2 hempty)]
      rfl
    · rw [if_neg hempty, if_neg (splitlines_eq_nil_iff.not.2 hempty), List.map_cons, List.map_map, Option.map_some,
        Option.getD_some, List.replicate_succ]
      exact congrArg (List.cons "br") List.map_const'
  have hlabelled : ∀ label value, (labelledParts label value).map (·.1) =
      if decide (value ≠ "") = true then ["br", "br", "strong", "/strong"] else [] := by
    intro label value
    unfold labelledParts
    by_cases hempty : value = ""
    · rw [if_pos hempty, if_neg (by simpa using hempty)]
      rfl
    · rw [if_neg hempty, if_pos (by simpa using hempty)]
      rfl
  unfold messageMarkup Markup.tags layoutTags
  rw [List.map_append, List.map_append, List.map_append, htext, hlabelled, hlabelled]
  rfl

/-- The text is read from the line breaks before the first label. -/
theorem readMessage_parts {title : String} {text labelled : List (String × String)} (htext : ∀ part ∈ text, part.1 = "br")
    (hlabelled : labelled = [] ∨ ∃ part rest, labelled = ("br", "") :: ("br", "") :: part :: rest ∧ part.1 ≠ "br") :
    readMessage ⟨"", [("strong", title), ("/strong", "")] ++ (text ++ labelled)⟩ =
      { title := title
        lines := (text.drop 1).map (·.2)
        status := labelledValue "Status:" (labelled.drop 2)
        severity := labelledValue "Severity:" (labelled.drop 2) } := by
  have hbreak : ∀ part ∈ text, (part.1 == "br") = true := fun part hpart => beq_iff_eq.2 (htext part hpart)
  rcases hlabelled with rfl | ⟨part, rest, rfl, hpart⟩
  · have htake : text.takeWhile (·.1 == "br") = text := List.takeWhile_eq_self_iff.2 hbreak
    have hdrop : text.dropWhile (·.1 == "br") = [] := List.dropWhile_eq_nil_iff.2 hbreak
    rw [List.append_nil]
    simp [readMessage, htake, hdrop]
  · have hpart : (part.1 == "br") = false := beq_eq_false_iff_ne.2 hpart
    simp [readMessage, List.takeWhile_append_of_pos hbreak, List.dropWhile_append_of_pos hbreak, hpart]

/-- The values are read from what follows the text. -/
theorem labelledValue_parts (status severity : String) :
    labelledValue "Status:" ((labelledParts "Status:" status ++ labelledParts "Severity:" severity).drop 2) = status ∧
      labelledValue "Severity:" ((labelledParts "Status:" status ++ labelledParts "Severity:" severity).drop 2) =
      severity := by
  have hdrop : ∀ value, Python.drop (" " ++ value) 1 = value := by
    intro value
    unfold Python.drop
    rw [String.toList_append]
    exact String.ofList_toList
  unfold labelledParts
  by_cases hstatus : status = "" <;> by_cases hseverity : severity = "" <;>
    simp [labelledValue, hstatus, hseverity, hdrop]

/-- The fields are read from the layout. -/
theorem readMessage_messageMarkup (message : NormalizedMessage) :
    readMessage (messageMarkup message) =
      { title := message.title
        lines := Python.splitlines message.text
        status := message.status
        severity := message.shownSeverity } := by
  have hlines : ((textParts (Python.splitlines message.text)).drop 1).map (·.2) = Python.splitlines message.text := by
    unfold textParts
    split
    next hnil => rw [hnil]; rfl
    next => simp
  have hlabelled : labelledParts "Status:" message.status ++ labelledParts "Severity:" message.shownSeverity = [] ∨
      ∃ part rest, labelledParts "Status:" message.status ++ labelledParts "Severity:" message.shownSeverity =
        ("br", "") :: ("br", "") :: part :: rest ∧ part.1 ≠ "br" := by
    unfold labelledParts
    by_cases hstatus : message.status = "" <;> by_cases hseverity : message.shownSeverity = "" <;>
      simp [hstatus, hseverity]
  unfold messageMarkup
  rw [List.append_assoc, List.append_assoc, readMessage_parts (fun _ => tag_of_mem_textParts) hlabelled, hlines,
    (labelledValue_parts _ _).1, (labelledValue_parts _ _).2]

end MessageHtmlAux

open MessageHtmlAux

/-! ## What the HTML of a message is -/

/-- The HTML of a message with a title has no angle bracket besides those of its tags, which are `strong`, `/strong` and
`br`. Which tags these are depends on the fields that are present and on the number of lines only; and what stands
between them, unescaped, is the title, the lines of the text, the status and the severity shown. -/
theorem message_html_law (message : NormalizedMessage) (h : message.title ≠ "") :
    (Markup.split (messageHtml message)).render = messageHtml message ∧
    (Markup.split (messageHtml message)).WellFormed ∧
    (∀ tag ∈ (Markup.split (messageHtml message)).tags, tag ∈ ["strong", "/strong", "br"]) ∧
    (Markup.split (messageHtml message)).tags =
      layoutTags (if message.text = "" then none else some (Python.splitlines message.text).length) (message.status ≠ "")
        (message.shownSeverity ≠ "") ∧
    readMessage ((Markup.split (messageHtml message)).mapTexts Markup.unescape) =
      { title := message.title
        lines := Python.splitlines message.text
        status := message.status
        severity := message.shownSeverity } := by
  have hsplit : Markup.split (messageHtml message) = (messageMarkup message).mapTexts Python.htmlEscape := by
    rw [messageHtml_eq h, Markup.split_render (wellFormed_layout message)]
  have htags : ((messageMarkup message).mapTexts Python.htmlEscape).tags = (messageMarkup message).tags := List.map_map
  rw [hsplit, htags]
  refine ⟨(messageHtml_eq h).symm, wellFormed_layout message, fun tag htag => ?_, tags_messageMarkup message, ?_⟩
  · obtain ⟨part, hpart, rfl⟩ := List.mem_map.1 htag
    exact tag_of_mem hpart
  · rw [unescape_layout]
    exact readMessage_messageMarkup message

/-! ## Fixed inputs -/

/-- A message with markup in its title and an empty line in its text. -/
theorem message_html_law_markup :
    readMessage
      ((Markup.split
        (messageHtml { title := "<b>&amp;", text := "a\n\n<br>", severity := "info", status := "'up'" })).mapTexts
      Markup.unescape) = { title := "<b>&amp;", lines := ["a", "", "<br>"], status := "'up'", severity := "" } := by
  obtain ⟨-, -, -, -, hread⟩ :=
    message_html_law { title := "<b>&amp;", text := "a\n\n<br>", severity := "info", status := "'up'" } (by decide)
  exact hread

end TeamsRehook
