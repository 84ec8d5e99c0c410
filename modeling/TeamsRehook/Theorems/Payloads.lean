import TeamsRehook.Lemmas.Payloads
import TeamsRehook.Lemmas.Webhook
import TeamsRehook.Lib.Except
import TeamsRehook.Webhook.History
import TeamsRehook.Webhook.Payloads

/-!
# Payloads that cannot be delivered

The check of the complexity ends for every JSON value, without a look at the order of its keys. A payload that cannot be
delivered is to be rejected with a `WebhookPayloadError`, which the endpoint records. The only other exception is the
`ValueError` that `json.loads` raises for an integer with too many digits.
-/

namespace TeamsRehook

/-! ## The complexity check -/

/-- The check of the complexity ends for every value: it lets the value pass exactly when it is nested no deeper and has
no more nodes than is allowed, and rejects it with a `WebhookPayloadError` otherwise; the order of keys and items makes
no difference. -/
theorem complexity_check_exact (v : Json) :
    (validateJsonComplexity v = .ok () ↔ v.depth ≤ maxJsonDepth ∧ v.size ≤ maxJsonNodes) ∧
      (validateJsonComplexity v = .ok () ∨ ∃ message, validateJsonComplexity v = .error (.webhookPayload message)) ∧
      ∀ w, v.Reordered w → (validateJsonComplexity w = .ok () ↔ validateJsonComplexity v = .ok ()) := by
  refine ⟨validateJsonComplexity_eq_ok_iff, ?_, fun w h => ?_⟩
  · cases hvalid : validateJsonComplexity v with
    | ok _ => exact .inl rfl
    | error e =>
      obtain ⟨message, rfl⟩ := error_of_validateStack hvalid
      exact .inr ⟨message, rfl⟩
  · obtain ⟨hdepth, hsize⟩ := h.depth_and_size
    rw [validateJsonComplexity_eq_ok_iff, validateJsonComplexity_eq_ok_iff, hdepth, hsize]

/-! ## The law of payloads -/

/-- The checks before the payload let the request pass. -/
structure ReachesPayload (P : Platform) (V : Services) (s : Settings) (r : WebhookRequest) (db : Database)
    (route : WebhookRoute) : Prop where
  notBlocked : (checkBlock P s r.checkedAt r.clientHost (some (lookupSecretHash P r.routeToken)) db.abuse).2 = none
  found : db.routes.find? (·.routeTokenHash == lookupSecretHash P r.routeToken) = some route
  active : route.isActive = true
  enabled : routeFeatureDisabledMessage route s = ""
  allowed : routeAllowsClientIp P V route r.clientHost = true

/-- The request is recorded as a rejection of its payload and counted as a failure of its client. -/
structure PayloadRejected (P : Platform) (s : Settings) (r : WebhookRequest) (db : Database) (route : WebhookRoute)
    (out : Database × Admission) : Prop where
  answered : ∃ detail, out.2 = .responded (.error 400 detail)
  recorded : ∃ event, out.1.events = db.events ++ [event] ∧ event.status = .rejected ∧ event.routeId = some route.id
  counted : out.1.abuse = (recordFailure P s r.readAt r.clientHost
    (some (lookupSecretHash P r.routeToken)) "invalid_payload"
    (checkBlock P s r.checkedAt r.clientHost (some (lookupSecretHash P r.routeToken)) db.abuse).1).1

/-- What is to become of a payload: it is normalised or rejected, and a rejection is recorded and counted. -/
structure PayloadLaw (P : Platform) (frames : Nat) (body : Bytes) (contentType : String) : Prop where
  clean : ∀ e, normalizeWebhookPayload P frames body contentType = .error e → ∃ message, e = .webhookPayload message
  rejected : ∀ V s r db route, V.normalizeWebhookPayload = normalizeWebhookPayload P frames → r.body = .ok body →
    r.contentType = contentType → ReachesPayload P V s r db route →
    (∀ message, normalizeWebhookPayload P frames body contentType ≠ .ok message) →
    PayloadRejected P s r db route (admitWebhook P V s r db)

/-- What `json.loads` promises: it reads no integer with more digits than `str` writes. -/
def LoadsWithinDigits (P : Platform) : Prop := ∀ text v, P.jsonLoads text = .ok v → withinDigits intMaxStrDigits v = true

namespace PayloadsAux

variable {P : Platform} {frames : Nat} {v : Json} {items : List Json} {members : List (String × Json)}

/-! ## Normalisation -/

theorem returns_ite {α : Type} {c : Prop} [Decidable c] {x y : Except Exn α} (hx : x.Returns) (hy : y.Returns) :
    (if c then x else y).Returns := by
  split
  · exact hx
  · exact hy

/-- The facts of a value that can be written are written. -/
theorem returns_factLines (nameKey : String) (h : ∀ v ∈ items, Writable (frames + 1) v) :
    (factLines P (frames + 1) nameKey items).Returns := by
  induction items with
  | nil => exact Except.returns_ok []
  | cons v items ih =>
    have hrest := ih fun w hw => h w (List.mem_cons_of_mem v hw)
    cases v with
    | obj fact =>
      have hfact := h (.obj fact) List.mem_cons_self
      rw [factLines]
      split
      · exact hrest
      · exact hrest
      next name value hname hvalue =>
        refine (returns_str (hfact.item nameKey)).bind fun nameText => ?_
        refine (returns_str (hfact.item "value")).bind fun valueText => ?_
        exact hrest.bind fun lines => Except.returns_ok _
    | _ => exact hrest

/-- The facts of a value that can be written are written. -/
theorem returns_factsTextOf (nameKey : String) (h : Writable (frames + 1) v) :
    (factsTextOf P (frames + 1) nameKey v).Returns := by
  unfold factsTextOf
  split
  · exact (returns_factLines nameKey fun w hw => (h.of_mem_items hw).mono (Nat.le_succ _)).map
  · exact Except.returns_ok _

/-- The first text of a value that can be written is written. -/
theorem returns_firstText (h : Writable (frames + 1) (.obj members)) (keys : List String) :
    (firstText P (frames + 1) members keys).Returns := by
  induction keys with
  | nil => exact Except.returns_ok _
  | cons key keys ih =>
    have hitem := h.item key
    rw [firstText]
    split
    · exact returns_ite (Except.returns_ok _) ih
    next hn => exact returns_str (hn ▸ hitem)
    next hr => exact returns_str (hr ▸ hitem)
    next hb => exact returns_str (hb ▸ hitem)
    · exact ih

/-- The sections of a value that can be written are written. -/
theorem returns_messageCardSections (h : Writable (frames + 1) v) : (messageCardSections P (frames + 1) v).Returns := by
  have hlines : ∀ sections : List Json, (∀ w ∈ sections, Writable (frames + 1) w) →
      (sectionLines P (frames + 1) sections).Returns := by
    intro sections hsections
    induction sections with
    | nil => exact Except.returns_ok []
    | cons part sections ih =>
      have hrest := ih fun w hw => hsections w (List.mem_cons_of_mem part hw)
      cases part with
      | obj part =>
        have hpart := hsections (.obj part) List.mem_cons_self
        rw [sectionLines]
        refine (returns_firstText hpart _).bind fun title => ?_
        refine (returns_firstText hpart _).bind fun subtitle => ?_
        refine (returns_firstText hpart _).bind fun text => ?_
        refine (returns_factsTextOf _ (hpart.item "facts")).bind fun facts => ?_
        exact hrest.bind fun lines => Except.returns_ok _
      | _ => exact hrest
  unfold messageCardSections
  split
  · exact (hlines _ fun w hw => (h.of_mem_items hw).mono (Nat.le_succ _)).map
  · exact Except.returns_ok _

/-- The attachments of an activity that can be written are looked through. -/
theorem returns_hasAdaptiveCard (h : ∀ v ∈ items, Writable (frames + 1) v) :
    (hasAdaptiveCard P (frames + 1) items).Returns := by
  induction items with
  | nil => exact Except.returns_ok false
  | cons v items ih =>
    have hrest := ih fun w hw => h w (List.mem_cons_of_mem v hw)
    cases v with
    | obj attachment =>
      rw [hasAdaptiveCard]
      have htype := (h (.obj attachment) List.mem_cons_self).item "contentType"
      exact (returns_str (htype.orElse (writable_str ""))).bind fun contentType =>
        returns_ite (Except.returns_ok true) hrest
    | _ => exact hrest

/-- The text of a card that can be written is collected: every call for a part has a call less to go. -/
theorem returns_collectAdaptiveCardText (h : Writable frames v) (texts : List String × List String) :
    (collectAdaptiveCardText P frames v texts).Returns := by
  induction frames generalizing v texts with
  | zero =>
    have hnested := h.nested
    cases v <;> nomatch hnested
  | succ frames ih =>
    obtain ⟨textBlocks, facts⟩ := texts
    cases v with
    | obj value =>
      have hfacts : (factSet P frames value).Returns := by
        unfold factSet
        split
        next htype =>
          cases frames with
          | zero =>
            obtain ⟨w, hw⟩ : ∃ w, Json.lookup "type" value = some w := by
              unfold TeamsRehook.item at htype
              cases hlookup : Json.lookup "type" value with
              | none => rw [hlookup] at htype; nomatch htype
              | some w => exact ⟨w, rfl⟩
            have hnested := (h.of_mem_members (mem_of_lookup hw)).nested
            cases w <;> nomatch hnested
          | succ frames =>
            exact (returns_factsTextOf "title" (h.item_lt "facts")).bind fun factText => Except.returns_ok _
        next => exact Except.returns_ok _
      rw [collectAdaptiveCardText]
      refine hfacts.bind fun found => Except.returns_foldlM (fun child hchild texts => ?_) _
      exact ih (h.of_mem_members hchild) texts
    | arr value =>
      rw [collectAdaptiveCardText]
      exact Except.returns_foldlM (fun child hchild texts => ih (h.of_mem_items hchild) texts) _
    | _ => exact Except.returns_ok _

/-- The text of the attachments of an activity that can be written is collected. -/
theorem returns_activitySummary (h : Writable (frames + 1) (.obj members)) :
    (activitySummary P (frames + 1) members).Returns := by
  have hattachments : ∀ attachments : List Json, (∀ w ∈ attachments, Writable (frames + 1) w) →
      (collectAttachments P (frames + 1) attachments).Returns := by
    intro attachments hwritable
    refine Except.returns_foldlM (fun attachment hattachment texts => ?_) _
    split
    next part =>
      split
      next content hcontent =>
        have hpart := (hwritable _ hattachment).item "content"
        rw [hcontent] at hpart
        exact returns_collectAdaptiveCardText hpart texts
      · exact Except.returns_ok _
    · exact Except.returns_ok _
  unfold activitySummary
  refine Except.Returns.bind (hattachments _ ?_) fun texts => Except.returns_ok _
  intro w hw
  split at hw
  next attachments hitem =>
    have hitems := h.item "attachments"
    rw [hitem] at hitems
    exact (hitems.of_mem_items hw).mono (Nat.le_succ _)
  next => nomatch hw

/-- The message for an activity that can be written is made. -/
theorem returns_activityMessage (h : Writable (frames + 1) (.obj members)) :
    (activityMessage P (frames + 1) members).Returns :=
  (returns_activitySummary h).bind fun _ => Except.returns_ok _

/-- The message for an object that can be written is made. -/
theorem returns_objectMessage (h : Writable (frames + 1) (.obj members)) :
    (objectMessage P (frames + 1) members).Returns := by
  unfold objectMessage
  refine (returns_str (((h.item "@type").orElse (h.item "type")).orElse (writable_str _))).bind fun rawType => ?_
  refine (returns_firstText h _).bind fun title => ?_
  refine (returns_firstText h _).bind fun status => ?_
  refine (returns_firstText h _).bind fun severity => ?_
  refine (returns_firstText h _).bind fun bodyText => ?_
  refine (returns_messageCardSections (h.item "sections")).bind fun sectionText => ?_
  refine (returns_factsTextOf _ (h.item "facts")).bind fun facts => ?_
  dsimp only
  split
  · exact Except.returns_ok _
  · exact (returns_dumps h).bind fun fallbackText => Except.returns_ok _

/-- The normalisation of a value that can be written raises nothing but a `WebhookPayloadError`. -/
theorem error_of_normalizeJson (h : Writable (frames + 1) v) {e : Exn} (he : normalizeJson P (frames + 1) v = .error e) :
    ∃ message, e = .webhookPayload message := by
  have hreturned : ∀ {x : Except Exn NormalizedMessage}, x.Returns → x = .error e →
      ∃ message, e = .webhookPayload message := by
    rintro x ⟨message, rfl⟩ he
    nomatch he
  unfold normalizeJson at he
  split at he
  · exact ⟨_, (Except.error.inj he).symm⟩
  · exact hreturned ((returns_dumps h).bind fun _ => Except.returns_ok _) he
  · exact ⟨_, (Except.error.inj he).symm⟩
  next value hvalue =>
    refine hreturned (Except.Returns.bind ?_ fun isActivity =>
      returns_ite (returns_activityMessage h) (returns_objectMessage h)) he
    unfold isBotActivityWithAttachments
    split
    next attachments _ hitem =>
      have hitems := h.item "attachments"
      rw [hitem] at hitems
      exact returns_hasAdaptiveCard fun w hw => (hitems.of_mem_items hw).mono (Nat.le_succ _)
    · exact Except.returns_ok _
  · exact ⟨_, (Except.error.inj he).symm⟩

/-- What raises another exception than a `WebhookPayloadError` is the reading of an integer with too many digits. -/
theorem error_of_normalizeWebhookPayload (hloads : LoadsWithinDigits P) (hframes : maxJsonDepth < frames) {body : Bytes}
    {contentType : String} {e : Exn} (he : normalizeWebhookPayload P frames body contentType = .error e) :
    (∃ message, e = .webhookPayload message) ∨ body.all isSpaceByte = false ∧ readsAsJson P body contentType = true ∧
      P.jsonLoads (payloadText P body) = .error .valueError ∧ e = .valueError := by
  obtain ⟨frames, rfl⟩ := Nat.exists_eq_add_of_lt hframes
  unfold normalizeWebhookPayload at he
  split at he
  · exact .inl ⟨_, (Except.error.inj he).symm⟩
  next hspace =>
    split at he
    next hjson =>
      split at he
      next parsed hparsed =>
        cases hvalid : validateJsonComplexity parsed with
        | error e' =>
          rw [hvalid] at he
          cases he
          exact .inl (error_of_validateStack hvalid)
        | ok _ =>
          rw [hvalid] at he
          have hdepth := (validateJsonComplexity_eq_ok_iff.1 hvalid).1
          have hnested := nesting_eq parsed
          refine .inl (error_of_normalizeJson ⟨hloads _ _ hparsed, ?_⟩ he)
          omega
      · exact .inl ⟨_, (Except.error.inj he).symm⟩
      · exact .inl ⟨_, (Except.error.inj he).symm⟩
      next hvalue => exact .inr ⟨by simpa using hspace, hjson, hvalue, (Except.error.inj he).symm⟩
    next => nomatch he

/-- The integer with too many digits raises. -/
theorem normalizeWebhookPayload_of_valueError {body : Bytes} {contentType : String}
    (hspace : body.all isSpaceByte = false) (hjson : readsAsJson P body contentType = true)
    (hvalue : P.jsonLoads (payloadText P body) = .error .valueError) :
    normalizeWebhookPayload P frames body contentType = .error .valueError := by
  unfold normalizeWebhookPayload
  rw [if_neg (by simp [hspace]), if_pos hjson, hvalue]

/-- A rejected payload is recorded and counted. -/
theorem payloadRejected_of_error {V : Services} {s : Settings} {r : WebhookRequest} {db : Database}
    {route : WebhookRoute} {body : Bytes} {message : String} (h : ReachesPayload P V s r db route)
    (hbody : r.body = .ok body)
    (hnorm : V.normalizeWebhookPayload body r.contentType = .error (.webhookPayload message)) :
    PayloadRejected P s r db route (admitWebhook P V s r db) := by
  unfold admitWebhook
  simp only [h.notBlocked, hbody, h.found, h.active, h.enabled, h.allowed, hnorm, Bool.not_true, Bool.false_eq_true,
    if_false, ne_eq, not_true_eq_false, rejectRoute, reject_eq]
  exact ⟨⟨_, rfl⟩, ⟨_, rfl, rejectedEvent_status .., rejectedEvent_routeId ..⟩, rfl⟩

end PayloadsAux

open PayloadsAux

/-- A platform on which `json.loads` reads the literals of natural numbers, up to the limit of digits. -/
def Platform.naturals : Platform :=
  { Platform.plain with
    jsonLoads := fun text =>
      if text.toList.all Char.isDigit then if intMaxStrDigits < text.length then .error .valueError
        else .ok (.int (text.toNat?.getD 0))
      else .error .jsonDecodeError }

/-- The text of a literal. -/
theorem payloadText_ones (n : Nat) : payloadText .naturals (List.replicate n 49) = String.ofList
    (List.replicate n '1') := by
  have htext : Platform.naturals.decodeUtf8Replace (List.replicate n 49) = String.ofList (List.replicate n '1') := by
    show String.ofList ((List.replicate n 49).map _) = _
    rw [List.map_replicate]
    rfl
  rw [payloadText, htext, Python.strip, String.toList_ofList, Python.stripChars_of_ends]
  · intro c hc
    rw [List.eq_of_mem_replicate (List.mem_of_head? hc)]
    decide
  · intro c hc
    rw [List.eq_of_mem_replicate (List.mem_of_getLast? hc)]
    decide

/-- A literal with too many digits cannot be read. -/
theorem normalize_ones {n : Nat} (hn : intMaxStrDigits < n) :
    normalizeWebhookPayload .naturals 1000 (List.replicate n 49) "application/json" = .error .valueError := by
  have hpos : n ≠ 0 := Nat.ne_of_gt (Nat.zero_lt_of_lt hn)
  refine normalizeWebhookPayload_of_valueError ?_ ?_ ?_
  · rw [List.all_replicate, if_neg hpos]
    decide
  · have hjson : (Python.splitFirst (Platform.naturals.lower "application/json") "json").isSome = true := by decide
    rw [readsAsJson, hjson]
    rfl
  · rw [payloadText_ones]
    show (if (String.ofList (List.replicate n '1')).toList.all Char.isDigit then _ else _) = _
    rw [String.toList_ofList, String.length_ofList, List.length_replicate, List.all_replicate, if_neg hpos,
      if_pos (by decide), if_pos hn]

/-- A body whose normalisation raises a `ValueError` ends the request without an answer, a record or a failure of the
client. -/
theorem unanswered_of_valueError {body : Bytes}
    (hraised : normalizeWebhookPayload .naturals 1000 body "application/json" = .error .valueError) :
    admitWebhook .naturals { Services.plain with normalizeWebhookPayload := normalizeWebhookPayload .naturals 1000 } {}
        { keyedRequest "first-token" 0 with body := .ok body, contentType := "application/json" } alertsState.db =
      (alertsState.db, .raised .valueError) := by
  unfold admitWebhook
  dsimp only [keyedRequest]
  rw [hraised]
  rfl

end TeamsRehook
