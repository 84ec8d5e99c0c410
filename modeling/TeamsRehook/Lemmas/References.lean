import TeamsRehook.Lemmas.Routes
import TeamsRehook.Webhook.RestartHistory

/-!
# References and what is derived from them

What an activity leaves in the reference of its conversation, and that the two derivations of a target, the one of
`register` and the one at startup, give the target of the conversation.
-/

namespace TeamsRehook

/-! ## What is captured -/

/-- What an activity captures of its names and ids: each is empty or starts visibly, and a channel has an id. -/
structure Captured.WellFormed (P : Platform) (captured : Captured) : Prop where
  conversationId : Python.VisibleOrEmpty captured.conversationId
  teamName : Python.VisibleOrEmpty captured.teamName
  channelName : Python.VisibleOrEmpty captured.channelName
  userName : Python.VisibleOrEmpty captured.userName
  fromId : Python.VisibleOrEmpty captured.fromId
  graphUserId : Python.VisibleOrEmpty captured.graphUserId
  channel : scopeFor P captured = .channel → captured.channelId ≠ ""

/-- A string of a JSON value is empty or starts visibly. -/
theorem visibleOrEmpty_string (value : Json) : Python.VisibleOrEmpty (string value) := by
  unfold string
  split
  · exact Python.visibleOrEmpty_strip _
  · exact .inl rfl

/-- The part of a text before a message id. -/
theorem visibleOrEmpty_normalizeConversationId {value : String} (h : Python.VisibleOrEmpty value) :
    Python.VisibleOrEmpty (normalizeConversationId value) := by
  unfold normalizeConversationId
  split
  next conversationId after hsplit =>
    rcases h with rfl | h
    · nomatch hsplit
    · exact h.splitFirst hsplit
  next => exact h

/-- A conversation in a channel has the channel's id. -/
theorem channelId_of_scopeFor {P : Platform} {captured : Captured} (h : scopeFor P captured = .channel) :
    captured.channelId ≠ "" := by
  unfold scopeFor at h
  split at h
  · nomatch h
  · split at h
    next hchannel => exact hchannel.2
    next =>
      split at h
      · nomatch h
      · split at h
        · nomatch h
        · nomatch h

/-- A conversation of a team has no channel. -/
theorem channelId_of_team {P : Platform} {captured : Captured} (h : scopeFor P captured = .team) :
    captured.channelId = "" := by
  unfold scopeFor at h
  split at h
  · nomatch h
  · split at h
    · nomatch h
    next hchannel =>
      split at h
      next hteam => exact not_not.1 fun hne => hchannel ⟨hteam, hne⟩
      next =>
        split at h
        · nomatch h
        · nomatch h

theorem wellFormed_extractActivity (P : Platform) (activity : List (String × Json)) :
    (extractActivity P activity).WellFormed P where
  conversationId := visibleOrEmpty_normalizeConversationId (visibleOrEmpty_string _)
  teamName := (visibleOrEmpty_string _).clip (by decide)
  channelName :=
    ((visibleOrEmpty_string _).orElse ((visibleOrEmpty_string _).orElse (visibleOrEmpty_string _))).clip (by decide)
  userName := (visibleOrEmpty_string _).clip (by decide)
  fromId := visibleOrEmpty_string _
  graphUserId := visibleOrEmpty_string _
  channel := channelId_of_scopeFor

/-! ## References -/

/-- What is stored of a conversation: names and ids are empty or start visibly, and a channel has an id. -/
structure BotConversationReference.WellFormed (reference : BotConversationReference) : Prop where
  conversationId : Python.StartsVisibly reference.conversationId
  teamName : Python.VisibleOrEmpty reference.teamName
  channelName : Python.VisibleOrEmpty reference.channelName
  memberSummary : Python.VisibleOrEmpty reference.memberSummary
  userName : Python.VisibleOrEmpty reference.userName
  userId : Python.VisibleOrEmpty reference.userId
  graphUserId : Python.VisibleOrEmpty reference.graphUserId
  channel : reference.scope = "channel" → reference.channelId ≠ ""

/-- A reference whose names and members have changed. -/
structure BotConversationReference.SameConversation (old new : BotConversationReference) : Prop where
  id : new.id = old.id
  scope : new.scope = old.scope
  conversationId : new.conversationId = old.conversationId
  teamId : new.teamId = old.teamId
  graphTeamId : new.graphTeamId = old.graphTeamId
  channelId : new.channelId = old.channelId
  conversationType : new.conversationType = old.conversationType
  userId : new.userId = old.userId
  graphUserId : new.graphUserId = old.graphUserId
  wellFormed : old.WellFormed → new.WellFormed

namespace BotConversationReference

variable {P : Platform} {old mid new : BotConversationReference}

theorem SameConversation.refl (reference : BotConversationReference) : reference.SameConversation reference :=
  ⟨rfl, rfl, rfl, rfl, rfl, rfl, rfl, rfl, rfl, fun h => h⟩

theorem SameConversation.trans (h : old.SameConversation mid) (h' : mid.SameConversation new) :
    old.SameConversation new :=
  ⟨h'.id.trans h.id, h'.scope.trans h.scope, h'.conversationId.trans h.conversationId, h'.teamId.trans h.teamId,
    h'.graphTeamId.trans h.graphTeamId, h'.channelId.trans h.channelId, h'.conversationType.trans h.conversationType,
    h'.userId.trans h.userId, h'.graphUserId.trans h.graphUserId, h'.wellFormed ∘ h.wellFormed⟩

/-- The ids of the conversation are the same. -/
theorem SameConversation.ids (h : old.SameConversation new) : new.ids P = old.ids P := by
  unfold BotConversationReference.ids ofChat
  rw [h.scope, h.conversationId, h.graphTeamId, h.channelId, h.conversationType, h.userId, h.graphUserId]

/-- Names from Graph. -/
theorem sameConversation_resolve (G : GraphNames) (force : Bool) (reference : BotConversationReference) :
    reference.SameConversation (resolveReferenceGraphNames G force reference).1 := by
  apply resolveReferenceGraphNames_invariant (I := reference.SameConversation) G force (.refl reference)
  · intro r text hne h
    exact h.trans ⟨rfl, rfl, rfl, rfl, rfl, rfl, rfl, rfl, rfl, fun hr =>
      { hr with teamName := Python.visibleOrEmpty_strip text }⟩
  · intro r text hne h
    exact h.trans ⟨rfl, rfl, rfl, rfl, rfl, rfl, rfl, rfl, rfl, fun hr =>
      { hr with channelName := Python.visibleOrEmpty_strip text }⟩
  · intro r text hne h
    exact h.trans ⟨rfl, rfl, rfl, rfl, rfl, rfl, rfl, rfl, rfl, fun hr =>
      { hr with userName := Python.visibleOrEmpty_strip text }⟩

/-- Members that were fetched. -/
theorem sameConversation_refresh {now : Int} {force : Bool} {fetched : Except Exn ConversationMembers}
    (h : refreshReferenceChatMembers P now force fetched old = .ok new) : old.SameConversation new := by
  unfold refreshReferenceChatMembers at h
  split at h
  · split at h
    next members =>
      cases h
      exact ⟨rfl, rfl, rfl, rfl, rfl, rfl, rfl, rfl, rfl, fun hr => { hr with memberSummary := members.labelled }⟩
    next =>
      cases h
      exact ⟨rfl, rfl, rfl, rfl, rfl, rfl, rfl, rfl, rfl, fun hr => { hr with }⟩
    next =>
      cases h
      exact ⟨rfl, rfl, rfl, rfl, rfl, rfl, rfl, rfl, rfl, fun hr => { hr with }⟩
    next => nomatch h
  · cases h
    exact .refl _

/-- The row of a reference that was flushed. -/
theorem SameConversation.flushed {row : BotConversationReference} (h : old.SameConversation new) (now : Int) :
    old.SameConversation (row.flushed now new) :=
  h.trans ⟨rfl, rfl, rfl, rfl, rfl, rfl, rfl, rfl, rfl, fun hr => { hr with }⟩

end BotConversationReference

/-! ## Capturing a reference -/

/-- How the reference of a conversation is captured: not at all, in its stored row, or in a new one. -/
theorem upsertReference_cases {P : Platform} {now : Int} {names : GraphNames} {fetched : Except Exn ConversationMembers}
    {captured : Captured} {db db' : Database} {reference : Option BotConversationReference}
    (h : upsertReference P now names fetched captured db = .ok (db', reference)) :
    ((captured.conversationId = "" ∨ captured.serviceUrl = "") ∧ db' = db ∧ reference = none) ∨
    ∃ loaded found, reference = some found ∧ captured.conversationId ≠ "" ∧ captured.serviceUrl ≠ "" ∧
      (loaded.captures P now captured).SameConversation found ∧
      ((db.referenceOf captured.conversationId = some loaded ∧
          db' = { db with references := Table.update (·.id == found.id) (fun _ => found) db.references }) ∨
        (db.referenceOf captured.conversationId = none ∧ loaded.id = db.nextId ∧
          loaded.conversationId = captured.conversationId ∧ loaded.graphTeamId = "" ∧ loaded.graphUserId = "" ∧
          (captured.WellFormed P → loaded.WellFormed) ∧
          db' = { db with references := db.references ++ [found], nextId := db.nextId + 1 })) := by
  unfold upsertReference at h
  split at h
  next hmissing =>
    obtain ⟨rfl, rfl⟩ := Prod.mk.inj (Except.ok.inj h)
    exact .inl ⟨hmissing, rfl, rfl⟩
  next hgiven =>
    obtain ⟨hconversation, hservice⟩ := not_or.1 hgiven
    obtain ⟨named, hnamed, h⟩ := Except.bind_eq_ok_iff.1 h
    obtain ⟨found, hfound, h⟩ := Except.bind_eq_ok_iff.1 h
    have hsame : (((db.referenceOf captured.conversationId).getD
        { id := db.nextId, conversationId := captured.conversationId, lastSeenAt := now, updatedAt := now }).captures P
        now
          captured).SameConversation found := by
      refine .trans ?_ (BotConversationReference.sameConversation_refresh hfound)
      rw [Changed.eq_of_try hnamed]
      exact BotConversationReference.sameConversation_resolve _ _ _
    refine .inr ?_
    cases hstored : db.referenceOf captured.conversationId with
    | some loaded =>
      rw [hstored] at h hsame
      obtain ⟨rfl, rfl⟩ := Prod.mk.inj (Except.ok.inj h)
      exact ⟨loaded, found, rfl, hconversation, hservice, hsame, .inl ⟨rfl, rfl⟩⟩
    | none =>
      rw [hstored] at h hsame
      obtain ⟨rfl, rfl⟩ := Prod.mk.inj (Except.ok.inj h)
      refine ⟨_, found, rfl, hconversation, hservice, hsame, .inr ⟨rfl, rfl, rfl, rfl, rfl, fun hc => ?_, rfl⟩⟩
      exact ⟨hc.conversationId.resolve_left hconversation, .inl rfl, .inl rfl, .inl rfl, .inl rfl, .inl rfl, .inl rfl,
        fun hscope => absurd hscope (by simp)⟩

/-- What a capture leaves is well-formed. -/
theorem BotConversationReference.WellFormed.captures {P : Platform} {captured : Captured}
    {loaded : BotConversationReference} (h : loaded.WellFormed) (hc : captured.WellFormed P) (now : Int) :
    (loaded.captures P now captured).WellFormed where
  conversationId := h.conversationId
  teamName := hc.teamName.orElse h.teamName
  channelName := hc.channelName.orElse h.channelName
  memberSummary := h.memberSummary
  userName := hc.userName.orElse h.userName
  userId := hc.fromId
  graphUserId := hc.graphUserId.orElse h.graphUserId
  channel hscope := by
    apply hc.channel
    revert hscope
    cases hs : scopeFor P captured <;> simp [BotConversationReference.captures, hs, ConversationScope.value]

/-- The references: ids are unique and were drawn from the counter, a conversation has one, and each is well-formed. -/
structure Database.ReferenceKeys (db : Database) : Prop where
  unique : Table.UniqueOn (·.id) db.references
  fresh : ∀ reference ∈ db.references, reference.id < db.nextId
  conversations : Table.UniqueOn (·.conversationId) db.references
  wellFormed : ∀ reference ∈ db.references, reference.WellFormed

/-- The references after an activity: that of its conversation with the ids it tells, and those of the other
conversations. -/
structure ReferencesCaptured (P : Platform) (captured : Captured) (reference : Option BotConversationReference)
    (db db' : Database) : Prop where
  keys : db'.ReferenceKeys
  other : ∀ r ∈ db'.references, reference = some r ∨
    r ∈ db.references ∧ (captured.conversationId ≠ "" → captured.serviceUrl ≠ "" →
      r.conversationId ≠ captured.conversationId)
  found : ∀ r, reference = some r → captured.conversationId ≠ "" ∧ captured.serviceUrl ≠ "" ∧
    r.conversationId = captured.conversationId ∧ r.ids P = db.capturedIds P captured ∧
    ∃ loaded now, (BotConversationReference.captures P now captured loaded).SameConversation r

/-- The ids of a reference that was captured are those the activity tells. -/
theorem ids_of_captures {P : Platform} {now : Int} {captured : Captured} {loaded found : BotConversationReference}
    {db : Database} (h : (loaded.captures P now captured).SameConversation found)
    (hconversation : loaded.conversationId = captured.conversationId) (hteam : loaded.graphTeamId =
    ((db.referenceOf captured.conversationId).map (·.graphTeamId)).getD "") (huser : loaded.graphUserId =
      ((db.referenceOf captured.conversationId).map (·.graphUserId)).getD "") :
    found.ids P = db.capturedIds P captured := by
  rw [h.ids]
  unfold BotConversationReference.ids BotConversationReference.ofChat Database.capturedIds
  simp only [BotConversationReference.captures, hconversation, hteam, huser]
  cases scopeFor P captured <;> rfl

/-- What an activity leaves of the references. -/
theorem upsertReference_captured {P : Platform} {now : Int} {names : GraphNames}
    {fetched : Except Exn ConversationMembers} {captured : Captured} {db db' : Database}
    {reference : Option BotConversationReference} (hkeys : db.ReferenceKeys) (hc : captured.WellFormed P)
    (h : upsertReference P now names fetched captured db = .ok (db', reference)) :
    ReferencesCaptured P captured reference db db' := by
  rcases upsertReference_cases h with ⟨hmissing, rfl, rfl⟩ | ⟨loaded, found, rfl, hconversation, hservice, hsame, h⟩
  · refine ⟨hkeys, fun r hr => .inr ⟨hr, fun hconversation hservice => ?_⟩, fun r hr => by nomatch hr⟩
    exact absurd hmissing (not_or.2 ⟨hconversation, hservice⟩)
  · rcases h with ⟨hstored, rfl⟩ | ⟨hstored, hid, hof, hteam, huser, hloaded, rfl⟩
    · have hmem : loaded ∈ db.references := List.mem_of_find?_eq_some hstored
      have hof : loaded.conversationId = captured.conversationId := by simpa using List.find?_some hstored
      have hrow : ∀ r ∈ db.references, (r.id == found.id) = true → r = loaded := by
        intro r hr hrid
        exact hkeys.unique.eq_of_mem hr hmem ((beq_iff_eq.1 hrid).trans hsame.id)
      have hwellFormed : found.WellFormed := hsame.wellFormed ((hkeys.wellFormed loaded hmem).captures hc now)
      refine ⟨⟨?_, ?_, ?_, ?_⟩, ?_, ?_⟩
      · exact Table.uniqueOn_update_of_mem hkeys.unique fun r _ hrid => (beq_iff_eq.1 hrid).symm
      · exact Table.forall_mem_update hkeys.fresh fun r hr hrid => (beq_iff_eq.1 hrid) ▸ hkeys.fresh r hr
      · exact Table.uniqueOn_update_of_mem hkeys.conversations fun r hr hrid =>
          by rw [hrow r hr hrid, hsame.conversationId]; rfl
      · exact Table.forall_mem_update hkeys.wellFormed fun _ _ _ => hwellFormed
      · intro r' hr'
        obtain ⟨r, hr, rfl⟩ := Table.mem_update.1 hr'
        split
        next => exact .inl rfl
        next hne =>
          refine .inr ⟨hr, fun _ _ hsameConversation => hne ?_⟩
          rw [hkeys.conversations.eq_of_mem hr hmem (hsameConversation.trans hof.symm), beq_iff_eq, hsame.id]
          rfl
      · rintro r ⟨⟩
        refine ⟨hconversation, hservice, hsame.conversationId.trans hof, ids_of_captures hsame hof ?_ ?_,
          loaded, now, hsame⟩
        · rw [hstored]
          rfl
        · rw [hstored]
          rfl
    · have hfoundId : found.id = db.nextId := hsame.id.trans hid
      have hfoundConversation : found.conversationId = captured.conversationId := hsame.conversationId.trans hof
      have hnew : ∀ r ∈ db.references, r.conversationId ≠ captured.conversationId := by
        intro r hr hrc
        have := List.find?_eq_none.1 hstored r hr
        simp [hrc] at this
      have hwellFormed : found.WellFormed := hsame.wellFormed ((hloaded hc).captures hc now)
      refine ⟨⟨?_, ?_, ?_, ?_⟩, ?_, ?_⟩
      · refine Table.uniqueOn_append hkeys.unique fun r hr => ?_
        have := hkeys.fresh r hr
        simp only [hfoundId]
        omega
      · intro r hr
        rcases List.mem_append.1 hr with hr | hr
        · exact Nat.lt_succ_of_lt (hkeys.fresh r hr)
        · rw [List.mem_singleton.1 hr, hfoundId]
          exact Nat.lt_succ_self _
      · refine Table.uniqueOn_append hkeys.conversations fun r hr => ?_
        rw [hfoundConversation]
        exact hnew r hr
      · intro r hr
        rcases List.mem_append.1 hr with hr | hr
        · exact hkeys.wellFormed r hr
        · rw [List.mem_singleton.1 hr]
          exact hwellFormed
      · intro r hr
        rcases List.mem_append.1 hr with hr | hr
        · exact .inr ⟨hr, fun _ _ => hnew r hr⟩
        · rw [List.mem_singleton.1 hr]
          exact .inl rfl
      · rintro r ⟨⟩
        refine ⟨hconversation, hservice, hfoundConversation, ids_of_captures hsame hof ?_ ?_, loaded, now, hsame⟩
        · rw [hstored, hteam]
          rfl
        · rw [hstored, huser]
          rfl

/-! ## The two derivations -/

/-- The derivation at startup gives the target of the conversation. -/
theorem deliveryTarget_backfilledRoute {P : Platform} {reference : BotConversationReference}
    (h : reference.scope = "channel" → reference.channelId ≠ "") (route : WebhookRoute) :
    (backfilledRoute P reference route).deliveryTarget = (reference.ids P).target := by
  unfold backfilledRoute WebhookRoute.deliveryTarget BotConversationReference.ids ConversationIds.target
    referenceGraphTargetId
    referenceGraphKind
  by_cases hchat : reference.ofChat P = true
  · simp [hchat, TargetKind.value]
  · by_cases hchannel : reference.channelId = ""
    · have hscope : reference.scope ≠ "channel" := fun hscope => h hscope hchannel
      by_cases hteam : reference.scope = "team" ∨ reference.graphTeamId ≠ ""
      · simp [hchat, hchannel, hscope, hteam, TargetKind.value]
      · simp [hchat, hchannel, hscope, hteam, TargetKind.value]
    · simp [hchat, hchannel, TargetKind.value]

/-- What an activity tells, completed with the reference it left, is in the same scope. -/
theorem scopeFor_capturedWithReference {P : Platform} {now : Int} {captured : Captured}
    {loaded found : BotConversationReference} (h : (loaded.captures P now captured).SameConversation found) :
    scopeFor P (capturedWithReference captured found) = scopeFor P captured := by
  have hscope : found.scope = (scopeFor P captured).value := h.scope
  have htype : found.conversationType = captured.conversationType := h.conversationType
  have hteam : found.teamId = captured.teamId := h.teamId
  have hchannel : found.channelId = captured.channelId := h.channelId
  have hchat : (found.scope == ConversationScope.chat.value) = decide (scopeFor P captured = .chat) := by
    rw [hscope]
    cases scopeFor P captured <;> rfl
  have hgroup : isGroupConversation P (capturedWithReference captured found) =
      (isGroupConversation P captured || decide (scopeFor P captured = .chat)) := by
    simp only [isGroupConversation, capturedWithReference, htype, Python.orElse_self, hchat]
    rw [Bool.or_right_comm]
  have htypeId : (capturedWithReference captured found).conversationType = captured.conversationType := by
    simp [capturedWithReference, htype]
  have hteamId : (capturedWithReference captured found).teamId = captured.teamId := by simp [capturedWithReference, hteam]
  have hchannelId : (capturedWithReference captured found).channelId = captured.channelId :=
    by simp [capturedWithReference, hchannel]
  -- A chat of a group is one on its own account, so that the reference adds nothing.
  by_cases hpersonal : captured.conversationType = "personal"
  · simp [scopeFor, htypeId, hpersonal]
  · by_cases hinTeam : captured.teamId = ""
    · by_cases hof : isGroupConversation P captured = true
      · simp [scopeFor, hgroup, htypeId, hteamId, hpersonal, hinTeam, hof]
      · simp [scopeFor, hgroup, htypeId, hteamId, hpersonal, hinTeam, hof]
    · simp [scopeFor, htypeId, hteamId, hchannelId, hpersonal, hinTeam]

/-- The derivation of `register` gives the target of the conversation, except in a conversation of type `groupchat` that
is not in the scope of chats, and in a team whose Graph id is not known. -/
theorem deliveryTarget_registeredRoute {P : Platform} {now : Int} {captured : Captured}
    {loaded found : BotConversationReference} (h : (loaded.captures P now captured).SameConversation found)
    (hof : found.conversationId = captured.conversationId)
    (hgroup : P.lower captured.conversationType = "groupchat" → scopeFor P captured = .chat)
    (hteam : scopeFor P captured = .team → found.graphTeamId ≠ "") (huser : captured.graphUserId ≠ "") (now' : Int)
    (route : WebhookRoute) :
    (registeredRoute P now' (capturedWithReference captured found) found route).deliveryTarget =
    (found.ids P).target := by
  have hscope : found.scope = (scopeFor P captured).value := h.scope
  have htype : found.conversationType = captured.conversationType := h.conversationType
  have hchannelId : (capturedWithReference captured found).channelId = found.channelId := by
    have : found.channelId = captured.channelId := h.channelId
    simp [capturedWithReference, this]
  have hteamId : (capturedWithReference captured found).graphTeamId = found.graphTeamId := by
    have : found.graphTeamId = Python.orElse captured.graphTeamId loaded.graphTeamId := h.graphTeamId
    simp [capturedWithReference, this]
  have huserId : (capturedWithReference captured found).graphUserId = found.graphUserId := by
    have : found.graphUserId = Python.orElse captured.graphUserId loaded.graphUserId := h.graphUserId
    simp [capturedWithReference, this]
  have hfromId : (capturedWithReference captured found).fromId = found.userId := by
    have : found.userId = captured.fromId := h.userId
    simp [capturedWithReference, this]
  have hconversationId : (capturedWithReference captured found).conversationId = found.conversationId := by
    simp [capturedWithReference, hof]
  have hnamed : found.graphUserId ≠ "" := by
    have : found.graphUserId = Python.orElse captured.graphUserId loaded.graphUserId := h.graphUserId
    rw [this]
    exact Python.orElse_ne_empty huser _
  have hchat : found.ofChat P = decide (scopeFor P captured = .chat) := by
    unfold BotConversationReference.ofChat
    rw [hscope, htype]
    by_cases hc : scopeFor P captured = .chat
    · simp [hc, ConversationScope.value]
    · have hne : P.lower captured.conversationType ≠ "groupchat" := fun he => hc (hgroup he)
      cases hs : scopeFor P captured <;> simp_all [ConversationScope.value]
  have hinTeam : (found.scope == "team") = decide (scopeFor P captured = .team) := by
    rw [hscope]
    cases scopeFor P captured <;> rfl
  unfold registeredRoute WebhookRoute.deliveryTarget BotConversationReference.ids ConversationIds.target graphTargetId
    graphTargetKind
  simp only [scopeFor_capturedWithReference h, hchannelId, hteamId, huserId, hfromId, hconversationId, hchat, hinTeam]
  by_cases hc : scopeFor P captured = .chat
  · simp [hc, TargetKind.value]
  · by_cases hchannel : found.channelId = ""
    · by_cases hgraph : found.graphTeamId = ""
      · have hteam' : scopeFor P captured ≠ .team := fun ht => hteam ht hgraph
        simp [hc, hchannel, hgraph, hteam', hnamed, TargetKind.value]
      · simp [hc, hchannel, hgraph, TargetKind.value]
    · simp [hc, hchannel, TargetKind.value]

end TeamsRehook
