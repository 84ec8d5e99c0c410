import TeamsRehook.Lib.Except
import TeamsRehook.Webhook.Payloads

/-!
# Messages of accepted payloads

An accepted payload is to give a message that is not blank and keeps within the bounds of its fields. It does, unless
the payload is a plain text that has bytes other than ASCII whitespace, and no character other than Unicode whitespace.
-/

namespace TeamsRehook

/-- The message of an accepted payload is not blank, and its fields keep within their bounds. -/
structure MessageLaw (P : Platform) (payload : Bytes) (contentType : String) (m : NormalizedMessage) : Prop where
  title : Python.Visible m.title
  text : Python.Visible m.text
  titleBound : m.title.length ≤ 255
  textBound : m.text.length ≤ 4000
  shortTextBound : (readsAsJson P payload contentType = false ∨ ∃ items, P.jsonLoads (payloadText P payload) =
    .ok (.arr items)) →
    m.text.length ≤ 2000
  severityBound : m.severity.length ≤ 40
  statusBound : m.status.length ≤ 40
  rawTypeBound : m.rawType.length ≤ 80

/-- What `str` promises: the text of a number or a truth value is not blank. -/
structure NumbersVisible (P : Platform) : Prop where
  int : ∀ n, Python.Visible (P.strOf (.int n))
  float : ∀ r, Python.Visible (P.strOf (.float r))
  bool : ∀ b, Python.Visible (P.strOf (.bool b))

namespace MessageBoundsAux

open Python (Visible)

variable {P : Platform} {frames : Nat} {v : Json} {items : List Json} {members : List (String × Json)} {text : String}

/-! ## Truncated texts -/

/-- A truncated text keeps within its bound. -/
theorem length_truncateText_le {limit : Nat} (hlimit : 3 ≤ limit) (value : String) :
    (truncateText value limit).length ≤ limit := by
  unfold truncateText
  split
  next hfits => exact hfits
  next =>
    have hclip := Python.length_clip_le value (limit - 3)
    have hdots : "...".length = 3 := rfl
    rw [String.length_append, hdots]
    omega

/-- A text that is not blank is not blank when it is truncated. -/
theorem visible_truncateText {value : String} (h : Visible value) (limit : Nat) : Visible (truncateText value limit) := by
  unfold truncateText
  split
  · exact h
  · have hdots : Visible "..." := ⟨'.', by decide, by decide⟩
    exact hdots.append_right _

/-- A text that may be empty, and one that takes its place, which is not blank. -/
theorem visible_orElse {other : String} (h : text = "" ∨ Visible text) (hother : Visible other) :
    Visible (Python.orElse text other) := by
  rcases h with rfl | h
  · exact hother
  · rwa [Python.orElse, if_neg h.ne_empty]

/-- The title of a message that has no other one. -/
theorem visible_webhookMessage : Visible "Webhook message" := ⟨'W', by decide, by decide⟩

/-! ## Parts of a message -/

/-- The first text is empty or not blank. -/
theorem firstText_visible (hnumbers : NumbersVisible P) {keys : List String}
    (h : firstText P frames members keys = .ok text) : text = "" ∨ Visible text := by
  have hstr : ∀ w : Json, Visible (strOf P w) → str P frames w = .ok text → Visible text := by
    intro w hw h
    obtain ⟨_, -, rfl⟩ := Except.map_eq_ok_iff.1 h
    exact hw
  induction keys with
  | nil => exact .inl (Except.ok.inj h).symm
  | cons key keys ih =>
    rw [firstText] at h
    split at h
    · split at h
      next hne =>
        cases h
        exact .inr (Python.visible_strip hne)
      next => exact ih h
    · exact .inr (hstr (.int _) (hnumbers.int _) h)
    · exact .inr (hstr (.float _) (hnumbers.float _) h)
    · exact .inr (hstr (.bool _) (hnumbers.bool _) h)
    · exact ih h

/-- A line with a fact is not blank: it has a colon. -/
theorem factLines_visible {nameKey : String} {lines : List String} (h : factLines P frames nameKey items = .ok lines) :
    ∀ line ∈ lines, Visible line := by
  induction items generalizing lines with
  | nil =>
    cases h
    exact fun _ hline => nomatch hline
  | cons v items ih =>
    cases v with
    | obj fact =>
      rw [factLines] at h
      split at h
      · exact ih h
      · exact ih h
      · obtain ⟨nameText, -, h⟩ := Except.bind_eq_ok_iff.1 h
        obtain ⟨valueText, -, h⟩ := Except.bind_eq_ok_iff.1 h
        obtain ⟨rest, hrest, h⟩ := Except.bind_eq_ok_iff.1 h
        cases h
        have hcolon : Visible ": " := ⟨':', by decide, by decide⟩
        exact List.forall_mem_cons.2 ⟨(hcolon.append_right nameText).append_left valueText, ih hrest⟩
    | _ => exact ih h

/-- The text of facts is empty or not blank. -/
theorem factsTextOf_visible {nameKey : String} (h : factsTextOf P frames nameKey v = .ok text) :
    text = "" ∨ Visible text := by
  unfold factsTextOf at h
  split at h
  · obtain ⟨lines, hlines, rfl⟩ := Except.map_eq_ok_iff.1 h
    exact Python.intercalate_eq_or_visible (factLines_visible hlines)
  · exact .inl (Except.ok.inj h).symm

/-- The parts that are not empty are joined to a text that is not blank, when there is one. -/
theorem joined_visible {sep : String} {parts : List String} (hparts : ∀ part ∈ parts, part = "" ∨ Visible part)
    (hne : ∃ part ∈ parts, part ≠ "") : Visible (sep.intercalate (parts.filter (· != ""))) := by
  obtain ⟨part, hpart, hne⟩ := hne
  refine Python.visible_intercalate (List.mem_filter.2 ⟨hpart, ?_⟩) ((hparts part hpart).resolve_left hne)
  simpa using hne

/-- The lines of sections are not blank. -/
theorem sectionLines_visible (hnumbers : NumbersVisible P) {lines : List String}
    (h : sectionLines P frames items = .ok lines) : ∀ line ∈ lines, Visible line := by
  induction items generalizing lines with
  | nil =>
    cases h
    exact fun _ hline => nomatch hline
  | cons v items ih =>
    cases v with
    | obj part =>
      rw [sectionLines] at h
      obtain ⟨title, htitle, h⟩ := Except.bind_eq_ok_iff.1 h
      obtain ⟨subtitle, hsubtitle, h⟩ := Except.bind_eq_ok_iff.1 h
      obtain ⟨text, htext, h⟩ := Except.bind_eq_ok_iff.1 h
      obtain ⟨facts, hfacts, h⟩ := Except.bind_eq_ok_iff.1 h
      obtain ⟨rest, hrest, h⟩ := Except.bind_eq_ok_iff.1 h
      split at h
      · cases h
        exact ih hrest
      next hparts =>
        cases h
        refine List.forall_mem_cons.2 ⟨joined_visible ?_ ?_, ih hrest⟩
        · simp only [List.forall_mem_cons, List.not_mem_nil, false_imp_iff, implies_true, and_true]
          exact ⟨firstText_visible hnumbers htitle, firstText_visible hnumbers hsubtitle,
            firstText_visible hnumbers htext, factsTextOf_visible hfacts⟩
        · have hne : ¬(title = "" ∧ subtitle = "" ∧ text = "" ∧ facts = "") := by simpa using hparts
          by_contra hnone
          simp only [List.mem_cons, List.not_mem_nil, or_false, not_exists, not_and, not_not, forall_eq_or_imp,
            forall_eq] at hnone
          exact hne hnone
    | _ => exact ih h

/-- The text of sections is empty or not blank. -/
theorem messageCardSections_visible (hnumbers : NumbersVisible P) (h : messageCardSections P frames v = .ok text) :
    text = "" ∨ Visible text := by
  unfold messageCardSections at h
  split at h
  · obtain ⟨lines, hlines, rfl⟩ := Except.map_eq_ok_iff.1 h
    exact Python.intercalate_eq_or_visible (sectionLines_visible hnumbers hlines)
  · exact .inl (Except.ok.inj h).symm

/-- A value whose text has a character that is no whitespace. -/
theorem dumps_visible {c : Char} (hc : c ∈ Json.dumpChars false true v) (hspace : Python.isSpace c = false)
    (h : dumps frames v = .ok text) : Visible text := by
  obtain ⟨_, -, rfl⟩ := Except.map_eq_ok_iff.1 h
  exact ⟨c, by rwa [Json.dumps, String.toList_ofList], hspace⟩

/-- The text of an array is not blank: it starts with a bracket. -/
theorem dumps_arr_visible (h : dumps frames (.arr items) = .ok text) : Visible text := by
  have hc : '[' ∈ Json.dumpChars false true (.arr items) := by
    rw [Json.dumpChars]
    simp
  exact dumps_visible hc (by decide) h

/-- The text of an object is not blank: it starts with a brace. -/
theorem dumps_obj_visible (h : dumps frames (.obj members) = .ok text) : Visible text := by
  have hc : '{' ∈ Json.dumpChars false true (.obj members) := by
    rw [Json.dumpChars]
    simp
  exact dumps_visible hc (by decide) h

/-! ## The messages -/

/-- What holds of the message of a JSON payload. -/
structure MessageSound (m : NormalizedMessage) : Prop where
  title : Visible m.title
  text : Visible m.text
  titleBound : m.title.length ≤ 255
  textBound : m.text.length ≤ 4000
  severityBound : m.severity.length ≤ 40
  statusBound : m.status.length ≤ 40
  rawTypeBound : m.rawType.length ≤ 80

/-- The message of a plain text that is not blank. -/
theorem plainMessage_sound {m : NormalizedMessage} (h : Visible text)
    (hm : m = { title := "Webhook message", text := truncateText text 2000, rawType := "text" }) :
    MessageSound m ∧ m.text.length ≤ 2000 := by
  subst hm
  have hshort : (truncateText text 2000).length ≤ 2000 := length_truncateText_le (by decide) text
  exact ⟨⟨visible_webhookMessage, visible_truncateText h 2000, (by decide : "Webhook message".length ≤ 255),
    hshort.trans (by decide), (by decide : "info".length ≤ 40), (by decide : "".length ≤ 40),
      (by decide : "text".length ≤ 80)⟩, hshort⟩

/-- The message for an activity with Adaptive Cards: what is not found in the cards is replaced by a fixed text. -/
theorem activityMessage_sound {m : NormalizedMessage} (h : activityMessage P frames members = .ok m) :
    MessageSound m := by
  obtain ⟨⟨title, text⟩, hsummary, h⟩ := Except.bind_eq_ok_iff.1 h
  cases h
  obtain ⟨⟨textBlocks, facts⟩, -, hsummary⟩ := Except.bind_eq_ok_iff.1 hsummary
  cases hsummary
  have htitle : (textBlocks.find? (Python.strip · != "")).getD "" = "" ∨
      Visible ((textBlocks.find? (Python.strip · != "")).getD "") := by
    cases hfind : textBlocks.find? (Python.strip · != "") with
    | none => exact .inl rfl
    | some block => exact .inr (Python.strip_ne_empty_iff.1 (by simpa using List.find?_some hfind))
  have hlines : ∀ line ∈ (textBlocks.drop 1 ++ facts).filter (Python.strip · != ""), Visible line := by
    intro line hline
    have hne := (List.mem_filter.1 hline).2
    exact Python.strip_ne_empty_iff.1 (by simpa using hne)
  have htext : "\n".intercalate _ = "" ∨ Visible ("\n".intercalate _) := Python.intercalate_eq_or_visible hlines
  exact ⟨visible_truncateText (visible_orElse htitle ⟨'A', by decide, by decide⟩) 255,
    visible_truncateText (visible_orElse htext ⟨'A', by decide, by decide⟩) 4000, length_truncateText_le (by decide) _,
    length_truncateText_le (by decide) _, (by decide : "info".length ≤ 40), (by decide : "".length ≤ 40),
    (by decide : "adaptive_card_activity".length ≤ 80)⟩

/-- The message for another object: when no text is found, the object itself is the text. -/
theorem objectMessage_sound (hnumbers : NumbersVisible P) {m : NormalizedMessage}
    (h : objectMessage P frames members = .ok m) : MessageSound m := by
  obtain ⟨rawType, -, h⟩ := Except.bind_eq_ok_iff.1 h
  obtain ⟨title, htitle, h⟩ := Except.bind_eq_ok_iff.1 h
  obtain ⟨status, -, h⟩ := Except.bind_eq_ok_iff.1 h
  obtain ⟨severity, -, h⟩ := Except.bind_eq_ok_iff.1 h
  obtain ⟨bodyText, hbody, h⟩ := Except.bind_eq_ok_iff.1 h
  obtain ⟨sectionText, hsections, h⟩ := Except.bind_eq_ok_iff.1 h
  obtain ⟨facts, hfacts, h⟩ := Except.bind_eq_ok_iff.1 h
  obtain ⟨fallbackText, hfallback, rfl⟩ : ∃ fallbackText,
      (fallbackText = "" ∧ (bodyText ≠ "" ∨ sectionText ≠ "" ∨ facts ≠ "") ∨ Visible fallbackText) ∧
      { title := truncateText (Python.orElse title "Webhook message") 255
        text := truncateText ("\n\n".intercalate ([bodyText, sectionText, facts, fallbackText].filter (· != ""))) 4000
        severity := truncateText (P.lower (Python.orElse severity (Python.orElse status "info"))) 40
        status := truncateText status 40
        rawType := truncateText rawType 80 } = m := by
    split at h
    next hfound => exact ⟨"", .inl ⟨rfl, hfound⟩, Except.ok.inj h⟩
    next =>
      obtain ⟨fallbackText, hdumps, h⟩ := Except.bind_eq_ok_iff.1 h
      exact ⟨fallbackText, .inr (dumps_obj_visible hdumps), Except.ok.inj h⟩
  have htext : Visible ("\n\n".intercalate ([bodyText, sectionText, facts, fallbackText].filter (· != ""))) := by
    refine joined_visible ?_ ?_
    · simp only [List.forall_mem_cons, List.not_mem_nil, false_imp_iff, implies_true, and_true]
      exact ⟨firstText_visible hnumbers hbody, messageCardSections_visible hnumbers hsections, factsTextOf_visible hfacts,
        hfallback.imp_left (·.1)⟩
    · rcases hfallback with ⟨-, hfound⟩ | hfallback
      · rcases hfound with hne | hne | hne
        · exact ⟨bodyText, by simp, hne⟩
        · exact ⟨sectionText, by simp, hne⟩
        · exact ⟨facts, by simp, hne⟩
      · exact ⟨fallbackText, by simp, hfallback.ne_empty⟩
  exact ⟨visible_truncateText (visible_orElse (firstText_visible hnumbers htitle) visible_webhookMessage) 255,
    visible_truncateText htext 4000, length_truncateText_le (by decide) _, length_truncateText_le (by decide) _,
    length_truncateText_le (by decide) _, length_truncateText_le (by decide) _, length_truncateText_le (by decide) _⟩

/-- The message of a JSON value, and of an array a short one. -/
theorem normalizeJson_sound (hnumbers : NumbersVisible P) {m : NormalizedMessage} (h : normalizeJson P frames v = .ok m) :
    MessageSound m ∧ ∀ items, v = .arr items → m.text.length ≤ 2000 := by
  unfold normalizeJson at h
  split at h
  · nomatch h
  next items hitems =>
    obtain ⟨text, htext, h⟩ := Except.bind_eq_ok_iff.1 h
    cases h
    have hshort : (truncateText text 2000).length ≤ 2000 := length_truncateText_le (by decide) text
    refine ⟨⟨visible_webhookMessage, visible_truncateText (dumps_arr_visible htext) 2000,
      (by decide : "Webhook message".length ≤ 255), hshort.trans (by decide), (by decide : "info".length ≤ 40),
        (by decide : "".length ≤ 40), (by decide : "json_array".length ≤ 80)⟩,
      fun _ _ => hshort⟩
  · nomatch h
  next value hvalue =>
    obtain ⟨isActivity, -, h⟩ := Except.bind_eq_ok_iff.1 h
    refine ⟨?_, nofun⟩
    split at h
    · exact activityMessage_sound h
    · exact objectMessage_sound hnumbers h
  · nomatch h

end MessageBoundsAux

open MessageBoundsAux

/-- The message of an accepted payload is as it should be exactly when the payload is read as JSON, or something is left
of its text when the whitespace around it is removed. -/
theorem message_law_iff {P : Platform} (hnumbers : NumbersVisible P) (frames : Nat) (payload : Bytes)
    (contentType : String) (m : NormalizedMessage) (h : normalizeWebhookPayload P frames payload contentType = .ok m) :
    MessageLaw P payload contentType m ↔ readsAsJson P payload contentType = true ∨ payloadText P payload ≠ "" := by
  unfold normalizeWebhookPayload at h
  split at h
  · nomatch h
  · split at h
    next hjson =>
      refine ⟨fun _ => .inl hjson, fun _ => ?_⟩
      split at h
      next parsed hparsed =>
        obtain ⟨_, -, h⟩ := Except.bind_eq_ok_iff.1 h
        obtain ⟨hsound, hshort⟩ := normalizeJson_sound hnumbers h
        refine ⟨hsound.title, hsound.text, hsound.titleBound, hsound.textBound, ?_, hsound.severityBound,
          hsound.statusBound, hsound.rawTypeBound⟩
        rintro (hplain | ⟨items, hitems⟩)
        · rw [hjson] at hplain
          nomatch hplain
        · rw [hparsed] at hitems
          exact hshort items (Except.ok.inj hitems)
      · nomatch h
      · nomatch h
      · nomatch h
    next hplain =>
      have hm := (Except.ok.inj h).symm
      constructor
      · intro hlaw
        refine .inr fun hblank => ?_
        have htext := hlaw.text
        have hempty : truncateText "" 2000 = "" := if_pos (Nat.zero_le _)
        rw [hm, hblank, hempty] at htext
        exact htext.ne_empty rfl
      · intro hgiven
        have hgiven : Python.Visible (payloadText P payload) := Python.visible_strip (hgiven.resolve_left hplain)
        obtain ⟨hsound, hshort⟩ := plainMessage_sound hgiven hm
        exact ⟨hsound.title, hsound.text, hsound.titleBound, hsound.textBound, fun _ => hshort, hsound.severityBound,
          hsound.statusBound, hsound.rawTypeBound⟩

/-! ## Fixed inputs -/

/-- A platform on which the only JSON text that is read is an object with the number 7 as its title. -/
def Platform.titled : Platform :=
  { Platform.plain with
    jsonLoads := fun text =>
      if text = "\x7b\"title\":7\x7d" then .ok (.obj [("title", .int 7)]) else .error .jsonDecodeError
    strOf := fun v =>
      match v with
      | .bool _ => "True"
      | .float _ => "7.0"
      | _ => "7" }

/-- The message of an object with a number as its title. -/
theorem message_law_titled :
    ∃ m, normalizeWebhookPayload .titled 1000 [123, 34, 116, 105, 116, 108, 101, 34, 58, 55, 125] "application/json" =
      .ok m ∧ m.title = "7" ∧
      MessageLaw .titled [123, 34, 116, 105, 116, 108, 101, 34, 58, 55, 125] "application/json" m := by
  have hseven : Python.Visible "7" := ⟨'7', by decide, by decide⟩
  have htrue : Python.Visible "True" := ⟨'T', by decide, by decide⟩
  have hnumbers : NumbersVisible .titled := ⟨fun _ => hseven, fun _ => hseven.append_left ".0", fun _ => htrue⟩
  have htitle : (normalizeWebhookPayload .titled 1000 [123, 34, 116, 105, 116, 108, 101, 34, 58, 55, 125]
      "application/json").toOption.map (·.title) = some "7" := by
    decide +kernel
  obtain ⟨m, hm, htitle⟩ := Option.map_eq_some_iff.1 htitle
  have hm := Except.toOption_eq_some_iff.1 hm
  refine ⟨m, hm, htitle, (message_law_iff hnumbers 1000 _ _ m hm).2 (.inl ?_)⟩
  decide +kernel

/-- A plain text whose only character is a separator that `bytes.strip` keeps and `str.strip` removes gives a message
without a text. -/
theorem separator_gives_blank_text :
    ∃ m, normalizeWebhookPayload .plain 1000 [28] "text/plain" = .ok m ∧ m.text = "" ∧
    ¬MessageLaw .plain [28] "text/plain" m :=
  ⟨_, rfl, rfl, fun hlaw => hlaw.text.ne_empty rfl⟩

end TeamsRehook
