import TeamsRehook.Bot.ActivityReplay
import TeamsRehook.Lemmas.References

/-!
# What the replay reads and applies

The extraction from a stored activity, against the one from the activity itself; what several activities come to that
are applied to a reference one after the other; and the replay of all events, reference by reference.
-/

namespace TeamsRehook

/-! ## Truncated values -/

/-- The value of a key in a stored activity is cut. -/
theorem lookup_truncateMembers (key : String) (members : List (String × Json)) :
    Json.lookup key (truncateMembers members) = (Json.lookup key members).map truncate := by
  induction members with
  | nil => rfl
  | cons member members ih =>
    obtain ⟨k, value⟩ := member
    simp only [truncateMembers, Json.lookup]
    split
    · rfl
    · exact ih

/-- An item of a stored activity is cut. -/
theorem item_truncateMembers (key : String) (members : List (String × Json)) :
    item key (truncateMembers members) = truncate (item key members) := by
  unfold item
  rw [lookup_truncateMembers]
  cases Json.lookup key members <;> rfl

/-- An object is cut member by member. -/
theorem dict_truncate (value : Json) : dict (truncate value) = truncateMembers (dict value) := by
  cases value <;> rfl

/-- A key is looked up in the first members, and then in the others. -/
theorem lookup_append (key : String) (xs ys : List (String × Json)) :
    Json.lookup key (xs ++ ys) = (Json.lookup key xs).or (Json.lookup key ys) := by
  induction xs with
  | nil => rfl
  | cons member xs ih =>
    obtain ⟨k, value⟩ := member
    simp only [List.cons_append, Json.lookup]
    split
    · rfl
    · exact ih

/-- A member that a filter on keys keeps is found. -/
theorem lookup_filter {key : String} {p : String → Bool} (hp : p key = true) (members : List (String × Json)) :
    Json.lookup key (members.filter fun member => p member.1) = Json.lookup key members := by
  induction members with
  | nil => rfl
  | cons member members ih =>
    obtain ⟨k, value⟩ := member
    rw [List.filter_cons]
    by_cases hk : k = key
    · subst hk
      rw [if_pos hp, Json.lookup, Json.lookup, if_pos rfl, if_pos rfl]
    · rw [Json.lookup, if_neg hk]
      split
      · rw [Json.lookup, if_neg hk]
        exact ih
      · exact ih

/-- A member that is stored of an activity is the truncated one. -/
theorem item_safeActivity (key : String) (hkey : allowedKeys.contains key = true) (hpreview : key ≠ "text_preview")
    (activity : List (String × Json)) : item key (safeActivity activity) = truncate (item key activity) := by
  have htext : Json.lookup key (textPreview activity) = none := by
    unfold textPreview
    split
    · split
      · rfl
      · rw [Json.lookup, if_neg fun h => hpreview h.symm, Json.lookup]
    · rfl
  rw [← item_truncateMembers]
  unfold item safeActivity
  rw [lookup_append, htext, Option.or_none, lookup_truncateMembers, lookup_truncateMembers,
    lookup_filter (p := allowedKeys.contains) hkey]

/-! ## What is read of an activity -/

/-- The values of an activity of which the text is read. -/
def readStrings (activity : List (String × Json)) : List Json :=
  let channelData := dict (item "channelData" activity)
  let conversation := dict (item "conversation" activity)
  let sender := dict (item "from" activity)
  let tenant := dict (item "tenant" channelData)
  let team := dict (item "team" channelData)
  let channel := dict (item "channel" channelData)
  let selectedChannel := dict (item "selectedChannel" (dict (item "settings" channelData)))
  [item "serviceUrl" activity, item "id" conversation, item "conversationType" conversation, item "tenantId" conversation,
    item "name" conversation, item "id" tenant, item "id" team, item "teamsTeamId" channelData, item "aadGroupId" team,
    item "name" team, item "id" channel, item "teamsChannelId" channelData, item "id" selectedChannel,
    item "name" channel, item "name" selectedChannel, item "id" sender, item "name" sender, item "aadObjectId" sender]

theorem normalizeConversationId_empty : normalizeConversationId "" = "" := rfl

/-- An id is found before its normalized form. -/
theorem orElse_normalizeConversationId (value : String) :
    Python.orElse value (normalizeConversationId value) = value := by
  unfold Python.orElse
  split
  next h => rw [h, normalizeConversationId_empty]
  · rfl

/-- A value that was filled in is not filled in again. -/
theorem orElse_orElse_orElse (x y : String) :
    Python.orElse x (Python.orElse y (Python.orElse x y)) = Python.orElse x y := by
  by_cases hx : x = ""
  · subst hx
    simp
  · simp [Python.orElse, hx]

/-- The text that was stored of a text is the one to fall back on. -/
theorem clip_orElse_clip (x : String) (n : Nat) :
    Python.clip (Python.orElse x (Python.clip x n)) n = Python.clip x n := by
  by_cases hx : x = ""
  · subst hx
    simp [Python.clip]
  · rw [Python.orElse, if_neg hx]

/-- What is extracted from a stored activity, of which no text was cut, is what was captured of the activity. -/
theorem extractBotActivity_botActivityEvent {P : Platform} {activity : List (String × Json)}
    (h : ∀ value ∈ readStrings activity, string (truncate value) = string value) :
    extractBotActivity P (botActivityEvent P activity) =
    { extractActivity P activity with activityType := "", recipientId := "" } := by
  simp only [readStrings, List.forall_mem_cons, List.not_mem_nil, false_imp_iff, implies_true, and_true] at h
  obtain ⟨hservice, hid, htype, htenantId, hname, htenant, hteam, hteamsTeam, hgroup, hteamName, hchannel,
    hteamsChannel, hselected, hchannelName, hselectedName, hfrom, huser, hobject⟩ := h
  have hfour : ∀ x y z w : String, Python.orElse x (Python.orElse y (Python.orElse z w)) =
      Python.orElse (Python.orElse x (Python.orElse y z)) w := fun x y z w => by simp only [Python.orElse_assoc]
  unfold extractBotActivity botActivityEvent extractActivity
  simp only [item_safeActivity "channelData" (by decide) (by decide), item_safeActivity "from" (by decide) (by decide),
    item_safeActivity "conversation" (by decide) (by decide), item_safeActivity "serviceUrl" (by decide) (by decide),
    dict_truncate, item_truncateMembers, hservice, hid, htype, htenantId, hname, htenant, hteam, hteamsTeam, hgroup,
    hteamName, hchannel, hteamsChannel, hselected, hchannelName, hselectedName, hfrom, huser, hobject,
    Python.orElse_self, orElse_normalizeConversationId, orElse_orElse_orElse, clip_orElse_clip]
  simp only [hfour, clip_orElse_clip]
  cases item "isGroup" (dict (item "conversation" activity)) <;> rfl

/-- A conversation id that has been normalized stays as it is. -/
theorem normalizeConversationId_idem (value : String) :
    normalizeConversationId (normalizeConversationId value) = normalizeConversationId value := by
  cases hsplit : Python.splitFirst value ";messageid=" with
  | none =>
    have : normalizeConversationId value = value := by rw [normalizeConversationId, hsplit]
    rw [this, this]
  | some parts =>
    obtain ⟨conversationId, after⟩ := parts
    have : normalizeConversationId value = conversationId := by rw [normalizeConversationId, hsplit]
    rw [this, normalizeConversationId, Python.splitFirst_before (by decide) hsplit]

/-! ## What several activities come to -/

/-- What is captured of two activities of a conversation: a name or an id from Graph that the last one does not give is
the first's. -/
def Captured.then (first last : Captured) : Captured :=
  { last with
    graphTeamId := Python.orElse last.graphTeamId first.graphTeamId
    teamName := Python.orElse last.teamName first.teamName
    channelName := Python.orElse last.channelName first.channelName
    userName := Python.orElse last.userName first.userName
    graphUserId := Python.orElse last.graphUserId first.graphUserId }

/-- What is captured of activities one after the other. -/
def mergedCaptured (captures : List Captured) : Option Captured :=
  captures.foldl (fun merged captured =>
    some (match merged with | none => captured | some first => first.then captured)) none

/-- One more activity is merged with those before it. -/
theorem mergedCaptured_append (captures : List Captured) (captured : Captured) :
    mergedCaptured (captures ++ [captured]) =
      some (match mergedCaptured captures with | none => captured | some first => first.then captured) := by
  unfold mergedCaptured
  rw [List.foldl_append]
  rfl

/-- Apply what was captured, with the type of its activity. -/
def applyCaptured (P : Platform) (reference : BotConversationReference) (captured : Captured) :
    BotConversationReference :=
  applyReferenceMetadata P captured captured.activityType reference

/-- Two activities that are applied come to their merge. -/
theorem applyCaptured_then (P : Platform) (reference : BotConversationReference) (first last : Captured) :
    applyCaptured P (applyCaptured P reference first) last = applyCaptured P reference (first.then last) := by
  simp only [applyCaptured, applyReferenceMetadata, Captured.then, Python.orElse_assoc]
  rfl

/-- Activities that are applied one after the other come to one. -/
theorem foldl_applyCaptured (P : Platform) (reference : BotConversationReference) (captures : List Captured) :
    captures.foldl (applyCaptured P) reference =
      match mergedCaptured captures with
      | none => reference
      | some captured => applyCaptured P reference captured := by
  induction captures using List.reverseRecOn with
  | nil => rfl
  | append_singleton captures captured ih =>
    rw [List.foldl_append, ih, mergedCaptured_append]
    cases mergedCaptured captures with
    | none => rfl
    | some first => exact applyCaptured_then P reference first captured

/-- A name that the merged activities give is one of theirs. -/
theorem exists_of_mergedCaptured {field : Captured → String}
    (hfield : ∀ first last : Captured, field (first.then last) = Python.orElse (field last) (field first))
    {captures : List Captured} {merged : Captured} (h : mergedCaptured captures = some merged) (hne : field merged ≠ "") :
    ∃ captured ∈ captures, field captured ≠ "" := by
  induction captures using List.reverseRecOn generalizing merged with
  | nil => nomatch h
  | append_singleton captures captured ih =>
    rw [mergedCaptured_append] at h
    by_cases hlast : field captured = ""
    · cases hfirst : mergedCaptured captures with
      | none =>
        rw [hfirst] at h
        cases h
        exact absurd hlast hne
      | some first =>
        rw [hfirst] at h
        cases h
        rw [hfield, hlast, Python.orElse_empty] at hne
        obtain ⟨found, hmem, hfound⟩ := ih hfirst hne
        exact ⟨found, List.mem_append_left _ hmem, hfound⟩
    · exact ⟨captured, by simp, hlast⟩

/-- The reference tells already what was captured. -/
structure BotConversationReference.Tells (P : Platform) (captured : Captured) (reference : BotConversationReference) :
    Prop where
  scope : reference.scope = (scopeFor P captured).value
  serviceUrl : reference.serviceUrl = captured.serviceUrl
  tenantId : reference.tenantId = captured.tenantId
  teamId : reference.teamId = captured.teamId
  graphTeamId : Python.orElse captured.graphTeamId reference.graphTeamId = reference.graphTeamId
  channelId : reference.channelId = captured.channelId
  conversationType : reference.conversationType = captured.conversationType
  teamName : Python.orElse captured.teamName reference.teamName = reference.teamName
  channelName : Python.orElse captured.channelName reference.channelName = reference.channelName
  userId : reference.userId = captured.fromId
  userName : Python.orElse captured.userName reference.userName = reference.userName
  graphUserId : Python.orElse captured.graphUserId reference.graphUserId = reference.graphUserId
  rawActivityType : reference.rawActivityType = captured.activityType

/-- A reference that tells already what was captured stays as it is. -/
theorem applyCaptured_eq_self {P : Platform} {captured : Captured} {reference : BotConversationReference}
    (h : reference.Tells P captured) : applyCaptured P reference captured = reference := by
  unfold applyCaptured applyReferenceMetadata
  rw [h.graphTeamId, h.teamName, h.channelName, h.userName, h.graphUserId, ← h.scope, ← h.serviceUrl,
    ← h.tenantId, ← h.teamId, ← h.channelId, ← h.conversationType, ← h.userId, ← h.rawActivityType]

/-! ## The replay of all events -/

/-- What is applied of a stored activity. -/
def BotActivityEvent.captured (P : Platform) (event : BotActivityEvent) : Captured :=
  { extractBotActivity P event with activityType := event.activityType }

/-- Whether what was captured is applied to the reference of the conversation. -/
def Captured.reaches (conversationId : String) (captured : Captured) : Bool :=
  captured.conversationId == conversationId && captured.conversationId != "" && captured.serviceUrl != ""

/-- What the stored activities tell of a conversation. -/
def toldOf (P : Platform) (events : List BotActivityEvent) (conversationId : String) : List Captured :=
  (events.map (·.captured P)).filter (Captured.reaches conversationId)

/-- What more activities tell comes after what the first ones do. -/
theorem toldOf_append (P : Platform) (events events' : List BotActivityEvent) (conversationId : String) :
    toldOf P (events ++ events') conversationId = toldOf P events conversationId ++ toldOf P events' conversationId := by
  simp [toldOf]

/-- Activities are applied in the same way at any time. -/
theorem foldl_applyCaptured_updatedAt (P : Platform) (reference : BotConversationReference) (captures : List Captured)
    (time : Int) :
    captures.foldl (applyCaptured P) { reference with updatedAt := time } =
      { captures.foldl (applyCaptured P) reference with updatedAt := time } := by
  induction captures generalizing reference with
  | nil => rfl
  | cons captured captures ih => exact ih (applyCaptured P reference captured)

section Replay

variable {P : Platform} {references : List BotConversationReference}
    {row : BotConversationReference → BotConversationReference}

/-- The row is still that of the reference and its conversation. -/
def SameReference (row : BotConversationReference → BotConversationReference) : Prop :=
  ∀ r, (row r).id = r.id ∧ (row r).conversationId = r.conversationId

/-- What is found among the changed rows is the changed row of the reference. -/
theorem replayedReference_map (hrow : SameReference row) (conversationId : String) :
    replayedReference conversationId (references.map row) = (replayedReference conversationId references).map row := by
  unfold replayedReference
  rw [List.find?_map]
  congr 2
  funext r
  simp [(hrow r).2]

/-- The conversation ids stay unique as long as no reference is renamed. -/
theorem flushReferences_map (hrow : SameReference row) (hconversations : Table.UniqueOn (·.conversationId) references) :
    flushReferences (references.map row) = .ok (references.map row) := by
  have hkeys : (references.map row).map (·.conversationId) = references.map (·.conversationId) := by
    rw [List.map_map]
    exact List.map_congr_left fun r _ => (hrow r).2
  unfold flushReferences
  rw [if_pos]
  unfold Table.UniqueOn
  rw [hkeys]
  exact hconversations

/-- The row of a reference after one event. -/
def replayedRow (P : Platform) (now : Int) (event : BotActivityEvent)
    (row : BotConversationReference → BotConversationReference) (r : BotConversationReference) :
    BotConversationReference :=
  if (event.captured P).reaches r.conversationId then (row r).flushed now (applyCaptured P (row r) (event.captured P))
  else row r

/-- An event leaves the row with its reference. -/
theorem sameReference_replayedRow (hrow : SameReference row) (now : Int) (event : BotActivityEvent) :
    SameReference (replayedRow P now event row) := by
  intro r
  unfold replayedRow
  split
  · exact hrow r
  · exact hrow r

/-- One event changes the row of the reference of its conversation. -/
theorem backfillEvent_map (hrow : SameReference row) (hids : Table.UniqueOn (·.id) references)
    (hconversations : Table.UniqueOn (·.conversationId) references)
    (hnormal : ∀ r ∈ references, normalizeConversationId r.conversationId = r.conversationId) (now : Int)
    (event : BotActivityEvent) :
    backfillEvent P now (references.map row) event = .ok (references.map (replayedRow P now event row)) := by
  unfold backfillEvent
  simp only [replayedReference_map hrow]
  split
  next hskip =>
    have hnot : ∀ r : BotConversationReference, (event.captured P).reaches r.conversationId = false := by
      intro r
      unfold Captured.reaches BotActivityEvent.captured
      rcases hskip with h | h <;> simp [h]
    simp [replayedRow, hnot]
  next hgiven =>
    obtain ⟨hconversation, hservice⟩ := not_or.1 hgiven
    have hreaches : ∀ r : BotConversationReference,
        (event.captured P).reaches r.conversationId = true ↔
        r.conversationId = (extractBotActivity P event).conversationId := by
      intro r
      simp only [Captured.reaches, BotActivityEvent.captured, Bool.and_eq_true, beq_iff_eq, bne_iff_ne]
      exact ⟨fun h => h.1.1.symm, fun h => ⟨⟨h.symm, hconversation⟩, hservice⟩⟩
    -- A reference of the conversation as the activity named it would have an id that is not normalized.
    have hraw : (if (extractBotActivity P event).rawConversationId ≠ "" ∧
        (extractBotActivity P event).rawConversationId ≠ (extractBotActivity P event).conversationId then
        (replayedReference (extractBotActivity P event).rawConversationId references).map row else none) = none := by
      split
      next hdiffers =>
        refine Option.map_eq_none_iff.2 (List.find?_eq_none.2 fun r hr hfound => hdiffers.2 ?_)
        have hid := beq_iff_eq.1 hfound
        rw [← hid, ← hnormal r hr, hid]
        rfl
      next => rfl
    rw [hraw]
    cases hfound : replayedReference (extractBotActivity P event).conversationId references with
    | none =>
      refine congrArg Except.ok (List.map_congr_left fun r hr => ?_)
      have hne := List.find?_eq_none.1 hfound _ hr
      rw [replayedRow, if_neg fun h => hne (beq_iff_eq.2 ((hreaches r).1 h))]
    | some found =>
      have hmem := List.mem_of_find?_eq_some hfound
      have hof : found.conversationId = (extractBotActivity P event).conversationId :=
        by simpa using List.find?_some hfound
      have hchanged : changeReference now (row found)
        (applyReferenceMetadata P (extractBotActivity P event) event.activityType)
          (references.map row) = references.map (replayedRow P now event row) := by
        unfold changeReference Table.update
        rw [List.map_map]
        refine List.map_congr_left fun r hr => ?_
        simp only [Function.comp, replayedRow, (hrow r).1, (hrow found).1]
        by_cases hr' : r = found
        · subst hr'
          rw [if_pos (beq_self_eq_true _), if_pos ((hreaches r).2 hof)]
          rfl
        · rw [if_neg fun h => hr' (hids.eq_of_mem hr hmem (beq_iff_eq.1 h)),
            if_neg fun h => hr' (hconversations.eq_of_mem hr hmem (((hreaches r).1 h).trans hof.symm))]
      show flushReferences (changeReference now (row found) _ _) = _
      rw [hchanged]
      exact flushReferences_map (sameReference_replayedRow hrow now event) hconversations

/-- All events change the rows of the references of their conversations, and when they were changed. -/
theorem foldlM_backfillEvent (hrow : SameReference row) (hids : Table.UniqueOn (·.id) references)
    (hconversations : Table.UniqueOn (·.conversationId) references)
    (hnormal : ∀ r ∈ references, normalizeConversationId r.conversationId = r.conversationId) (now : Int)
    (events : List BotActivityEvent) :
    ∃ row', events.foldlM (backfillEvent P now) (references.map row) = .ok (references.map row') ∧
      ∀ r, ∃ time,
      row' r = { (toldOf P events r.conversationId).foldl (applyCaptured P) (row r) with updatedAt := time } := by
  induction events generalizing row with
  | nil => exact ⟨row, rfl, fun r => ⟨(row r).updatedAt, rfl⟩⟩
  | cons event events ih =>
    obtain ⟨row', hfold, hrows⟩ := ih (sameReference_replayedRow hrow now event)
    refine ⟨row', ?_, fun r => ?_⟩
    · rw [List.foldlM_cons, backfillEvent_map hrow hids hconversations hnormal]
      exact hfold
    · obtain ⟨time, htime⟩ := hrows r
      refine ⟨time, htime.trans ?_⟩
      simp only [toldOf, List.map_cons, List.filter_cons, replayedRow]
      split
      · simp only [BotConversationReference.flushed, foldl_applyCaptured_updatedAt, List.foldl_cons]
      · rfl

end Replay

/-- When each reference tells already what its events do, the replay changes nothing but the time of the last change. -/
theorem backfillBotReferenceMetadata_of_tells {P : Platform} {db : Database} {events : List BotActivityEvent}
    (hkeys : db.ReferenceKeys)
    (hnormal : ∀ r ∈ db.references, normalizeConversationId r.conversationId = r.conversationId)
    (htells : ∀ r ∈ db.references, ∀ captured, mergedCaptured (toldOf P events r.conversationId) = some captured →
      r.Tells P captured)
    (now : Int) : ∃ references, backfillBotReferenceMetadata P now events db = .ok { db with references := references } ∧
      List.Forall₂ (fun old new => ∃ time, new = { old with updatedAt := time }) db.references references := by
  have hrow : ∀ r ∈ db.references, (toldOf P events r.conversationId).foldl (applyCaptured P) r = r := by
    intro r hr
    rw [foldl_applyCaptured]
    cases hmerged : mergedCaptured (toldOf P events r.conversationId) with
    | none => rfl
    | some captured => exact applyCaptured_eq_self (htells r hr captured hmerged)
  obtain ⟨row', hfold, hrows⟩ :=
    @foldlM_backfillEvent P db.references id (fun _ => ⟨rfl, rfl⟩) hkeys.unique hkeys.conversations hnormal now events
  rw [List.map_id] at hfold
  refine ⟨_, by rw [backfillBotReferenceMetadata, hfold]; rfl, ?_⟩
  rw [List.forall₂_map_right_iff, List.forall₂_same]
  intro r hr
  obtain ⟨time, htime⟩ := hrows r
  exact ⟨time, by rw [htime, id, hrow r hr]⟩

end TeamsRehook
