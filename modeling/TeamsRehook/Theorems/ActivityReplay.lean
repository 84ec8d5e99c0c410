import TeamsRehook.Lemmas.ActivityReplay
import TeamsRehook.Lemmas.Targets
import TeamsRehook.Lemmas.RowOrigins

/-!
# The replay of stored activities

The replay leaves every reference as live processing left it, in histories in which nothing that is read of an activity
was cut when it was stored, and in which no refresh from Graph corrects a name that an activity gave.
-/

namespace TeamsRehook

/-- Two rows of a reference with the same scope, ids and names. -/
structure BotConversationReference.SameMetadata (old new : BotConversationReference) : Prop where
  id : new.id = old.id
  scope : new.scope = old.scope
  conversationId : new.conversationId = old.conversationId
  tenantId : new.tenantId = old.tenantId
  teamId : new.teamId = old.teamId
  graphTeamId : new.graphTeamId = old.graphTeamId
  channelId : new.channelId = old.channelId
  userId : new.userId = old.userId
  graphUserId : new.graphUserId = old.graphUserId
  teamName : new.teamName = old.teamName
  channelName : new.channelName = old.channelName
  userName : new.userName = old.userName

/-- The replay ends without error and leaves the scope, the ids and the names of every reference. -/
def ReplayLaw (P : Platform) (h : ActivityHistory) : Prop :=
  ∀ now, ∃ db', backfillBotReferenceMetadata P now h.events h.db = .ok db' ∧
    List.Forall₂ BotConversationReference.SameMetadata h.db.references db'.references

/-- No activity has been received yet. -/
structure ActivityHistory.Fresh (h : ActivityHistory) : Prop where
  events : h.events = []
  references : h.db.references = []

/-! ## What histories are asked for -/

/-- An activity that the reference comes from gave a name. -/
def NamedByActivity (name : BotActivityEvent → String) (events : List BotActivityEvent)
    (reference : BotConversationReference) : Prop :=
  ∃ event ∈ events, event.conversationId = reference.conversationId ∧ event.serviceUrl ≠ "" ∧ name event ≠ ""

/-- A lookup gives no name but this one. -/
def NoOtherName (look : Except Exn String) (name : String) : Prop := ∀ found, look = .ok found → found = "" ∨ found = name

/-- The lookups give no other name in the place of one that an activity gave. -/
structure KeepsActivityNames (G : GraphNames) (events : List BotActivityEvent) (reference : BotConversationReference) :
    Prop where
  team : NamedByActivity (·.teamName) events reference → reference.graphTeamId ≠ "" →
    NoOtherName (safeTeamName G reference.graphTeamId) reference.teamName
  channel : NamedByActivity (·.channelName) events reference → reference.graphTeamId ≠ "" → reference.channelId ≠ "" →
    NoOtherName (safeChannelName G reference.graphTeamId reference.channelId) reference.channelName
  user : NamedByActivity (·.userName) events reference → reference.graphUserId ≠ "" →
    NoOtherName (safeUserName G reference.graphUserId) reference.userName

/-- No text that is read of the activity is cut when it is stored. -/
def Uncut (activity : List (String × Json)) : Prop :=
  ∀ value ∈ readStrings activity, string (truncate value) = string value

instance (activity : List (String × Json)) : Decidable (Uncut activity) :=
  inferInstanceAs (Decidable (∀ value ∈ readStrings activity, string (truncate value) = string value))

/-- A step stores all of what is read of an activity, and corrects no name that an activity gave. -/
def KeepsReplay (P : Platform) (h : ActivityHistory) : ActivityStep → Prop
  | .activity s run body => ∀ result activity, receiveBotActivity P s run body h.db = .ok result →
    activityOfBody P body = .ok (some activity) → Uncut activity
  | .refreshNames s now G organizationId => ∀ db', refreshWebhookRouteGraphNames s now G organizationId h.db = .ok db' →
    ∀ reference ∈ h.db.references, KeepsActivityNames G h.events reference
  | .refreshRouteNames .. => True

namespace ActivityReplayAux

variable {P : Platform}

/-! ## Names from Graph -/

/-- The name after a lookup: the old one, or one that was wanted and found. -/
def ResolvedName (wanted : Bool) (look : Except Exn String) (old new : String) : Prop :=
  new = old ∨ (wanted = true ∧ look = .ok new ∧ new ≠ "")

/-- The names of a reference after the lookups. -/
structure ResolvedNames (G : GraphNames) (force : Bool) (old new : BotConversationReference) : Prop where
  same : new = { old with teamName := new.teamName, channelName := new.channelName, userName := new.userName }
  team : ResolvedName (old.graphTeamId != "" && (force || old.teamName == ""))
    (safeTeamName G old.graphTeamId) old.teamName
    new.teamName
  channel : ResolvedName (old.graphTeamId != "" && old.channelId != "" && (force || old.channelName == ""))
    (safeChannelName G old.graphTeamId old.channelId) old.channelName new.channelName
  user : ResolvedName (old.graphUserId != "" && (force || old.userName == ""))
    (safeUserName G old.graphUserId) old.userName
    new.userName

theorem named_cases {ρ : Type} (wanted : Bool) (look : Except Exn String) (set : String → ρ) (row : ρ) :
    (named wanted look set row).1 = row ∨
      ∃ name, wanted = true ∧ look = .ok name ∧ name ≠ "" ∧ (named wanted look set row).1 = set name := by
  unfold named
  split
  next hwanted =>
    cases look with
    | error e => exact .inl rfl
    | ok name =>
      by_cases hname : name = ""
      · exact .inl (if_pos hname)
      · exact .inr ⟨name, hwanted, rfl, hname, if_neg hname⟩
  next => exact .inl rfl

/-- What the lookups for a reference do, whether or not one of them raises. -/
theorem resolvedNames (G : GraphNames) (force : Bool) (old : BotConversationReference) :
    ResolvedNames G force old (resolveReferenceGraphNames G force old).1 := by
  unfold resolveReferenceGraphNames
  refine Changed.andThen_of
    (I := fun row => ResolvedNames G force old row ∧ row.userName = old.userName) (J := ResolvedNames G force old) ?_
    (fun _ h => h.1) ?_
  · refine Changed.andThen_of
      (I := fun row => ResolvedNames G force old row ∧ row.channelName = old.channelName ∧ row.userName = old.userName)
      (J := fun row => ResolvedNames G force old row ∧ row.userName = old.userName) ?_ (fun _ h => ⟨h.1, h.2.2⟩) ?_
    · rcases named_cases (old.graphTeamId != "" && (force || old.teamName == "")) (safeTeamName G old.graphTeamId)
        (fun name => { old with teamName := name }) old with h | ⟨name, hwanted, hlook, hne, h⟩
      · rw [h]
        exact ⟨⟨rfl, .inl rfl, .inl rfl, .inl rfl⟩, rfl, rfl⟩
      · rw [h]
        exact ⟨⟨rfl, .inr ⟨hwanted, hlook, hne⟩, .inl rfl, .inl rfl⟩, rfl, rfl⟩
    · rintro row ⟨⟨hsame, hteam, -, -⟩, hchannel, huser⟩
      rw [hchannel, huser] at hsame
      generalize row.teamName = teamName at hsame hteam
      subst hsame
      rcases named_cases _ (safeChannelName G old.graphTeamId old.channelId)
        (fun name => { old with teamName := teamName, channelName := name }) { old with teamName := teamName } with
        h | ⟨name, hwanted, hlook, hne, h⟩
      · rw [h]
        exact ⟨⟨rfl, hteam, .inl rfl, .inl rfl⟩, rfl⟩
      · rw [h]
        exact ⟨⟨rfl, hteam, .inr ⟨hwanted, hlook, hne⟩, .inl rfl⟩, rfl⟩
  · rintro row ⟨⟨hsame, hteam, hchannel, -⟩, huser⟩
    rw [huser] at hsame
    generalize row.teamName = teamName at hsame hteam
    generalize row.channelName = channelName at hsame hchannel
    subst hsame
    rcases named_cases _ (safeUserName G old.graphUserId)
      (fun name => { old with teamName := teamName, channelName := channelName, userName := name })
      { old with teamName := teamName, channelName := channelName } with h | ⟨name, hwanted, hlook, hne, h⟩
    · rw [h]
      exact ⟨rfl, hteam, hchannel, .inl rfl⟩
    · rw [h]
      exact ⟨rfl, hteam, hchannel, .inr ⟨hwanted, hlook, hne⟩⟩

/-! ## One activity -/

/-- A name that is kept where an activity does not give one, and looked up only where there is none, is the last one
that was given. -/
theorem orElse_then {last first old new : String} (hold : Python.orElse first old = old)
    (hnew : Python.orElse last old ≠ "" → new = Python.orElse last old) :
    Python.orElse (Python.orElse last first) new = new := by
  by_cases hlast : last = ""
  · subst hlast
    rw [Python.orElse_empty] at hnew ⊢
    by_cases hfirst : first = ""
    · rw [hfirst, Python.orElse_empty]
    · have hof : old = first := by
        rw [Python.orElse, if_neg hfirst] at hold
        exact hold.symm
      rw [hof] at hnew
      rw [hnew hfirst, Python.orElse_self]
  · have hnew : new = last := by
      rw [Python.orElse, if_neg hlast] at hnew
      exact hnew hlast
    rw [hnew, Python.orElse_assoc]
    unfold Python.orElse
    rw [if_neg hlast]

/-- A lookup that is made only where there is no name keeps a name. -/
theorem ResolvedName.eq_of_ne {wanted : Bool} {look : Except Exn String} {old new : String}
    (h : ResolvedName (wanted && (false || old == "")) look old new) (hne : old ≠ "") : new = old := by
  rcases h with h | ⟨hwanted, -, -⟩
  · exact h
  · simp [hne] at hwanted

/-- Members that were fetched change nothing that was captured. -/
theorem tells_refresh {now : Int} {force : Bool} {fetched : Except Exn ConversationMembers} {captured : Captured}
    {old new : BotConversationReference} (htells : old.Tells P captured)
    (h : refreshReferenceChatMembers P now force fetched old = .ok new) : new.Tells P captured := by
  unfold refreshReferenceChatMembers at h
  split at h
  · split at h
    · cases h
      exact { htells with }
    · cases h
      exact { htells with }
    · cases h
      exact { htells with }
    · nomatch h
  · cases h
    exact htells

/-- A reference that was captured says what its activity and those before told. -/
theorem tells_named {G : GraphNames} {now : Int} {captured first : Captured} {old new : BotConversationReference}
    (h : ResolvedNames G false (old.captures P now captured) new)
    (hgraphTeam : Python.orElse first.graphTeamId old.graphTeamId = old.graphTeamId)
    (hteam : Python.orElse first.teamName old.teamName = old.teamName)
    (hchannel : Python.orElse first.channelName old.channelName = old.channelName)
    (huser : Python.orElse first.userName old.userName = old.userName)
    (hgraphUser : Python.orElse first.graphUserId old.graphUserId = old.graphUserId) :
    new.Tells P (first.then captured) := by
  obtain ⟨hsame, hteamName, hchannelName, huserName⟩ := h
  rw [hsame]
  refine ⟨rfl, rfl, rfl, rfl, orElse_then hgraphTeam fun _ => rfl, rfl, rfl, orElse_then hteam fun hne =>
    hteamName.eq_of_ne hne, orElse_then hchannel fun hne => hchannelName.eq_of_ne hne, rfl, orElse_then huser fun hne =>
    huserName.eq_of_ne hne, orElse_then hgraphUser fun _ => rfl, rfl⟩

/-- The last activity of a conversation, after those that the reference said already. -/
theorem tells_captures {run : BotRun} {captured : Captured} {db : Database} {found : BotConversationReference}
    {told : List Captured} (h : CapturesReference P run captured db found)
    (htells : ∀ first, mergedCaptured told = some first →
      (db.referenceToCapture run.now captured.conversationId).Tells P first) :
    ∀ merged, mergedCaptured (told ++ [captured]) = some merged → found.Tells P merged := by
  obtain ⟨named, hnamed, hfound⟩ := h.written
  have hresolved := Changed.eq_of_try hnamed ▸ resolvedNames run.referenceNames false
    ((db.referenceToCapture run.now captured.conversationId).captures P run.now captured)
  intro merged hmerged
  rw [mergedCaptured_append] at hmerged
  refine tells_refresh ?_ hfound
  cases hfirst : mergedCaptured told with
  | none =>
    rw [hfirst] at hmerged
    obtain rfl := Option.some.inj hmerged
    -- Activities of which nothing is known yet are as one that gives no names.
    have hempty : captured = Captured.then {} captured := by
      simp only [Captured.then]
      have : ∀ x : String, Python.orElse x "" = x := fun x => by
        unfold Python.orElse
        split
        next hx => exact hx.symm
        next => rfl
      simp only [this]
    rw [hempty]
    exact tells_named hresolved rfl rfl rfl rfl rfl
  | some first =>
    rw [hfirst] at hmerged
    cases hmerged
    have hold := htells first hfirst
    exact tells_named hresolved hold.graphTeamId hold.teamName hold.channelName hold.userName hold.graphUserId

/-! ## Histories -/

/-- The state of a history that the replay leaves as it is: nothing of the stored activities was cut, a conversation of
which there are activities has a reference, and every reference says what the activities of its conversation tell. -/
structure Replayable (P : Platform) (h : ActivityHistory) : Prop where
  keys : h.db.ReferenceKeys
  normal : ∀ r ∈ h.db.references, normalizeConversationId r.conversationId = r.conversationId
  uncut : ∀ event ∈ h.events, ∃ activity, event = botActivityEvent P activity ∧ Uncut activity
  covered : ∀ event ∈ h.events, event.conversationId ≠ "" → event.serviceUrl ≠ "" →
    ∃ r ∈ h.db.references, r.conversationId = event.conversationId
  tells : ∀ r ∈ h.db.references, ∀ captured, mergedCaptured (toldOf P h.events r.conversationId) = some captured →
    r.Tells P captured

theorem replayable_of_fresh {h : ActivityHistory} (hfresh : h.Fresh) : Replayable P h := by
  obtain ⟨hevents, hreferences⟩ := hfresh
  refine ⟨⟨?_, ?_, ?_, ?_⟩, ?_, ?_, ?_, ?_⟩
  · simp [hreferences, Table.UniqueOn]
  · simp [hreferences]
  · simp [hreferences, Table.UniqueOn]
  · simp [hreferences]
  · simp [hreferences]
  · simp [hevents]
  · simp [hevents]
  · simp [hreferences]

/-- What is applied of an activity that was stored without a cut. -/
theorem captured_of_uncut {activity : List (String × Json)} (h : Uncut activity) :
    (botActivityEvent P activity).captured P = { extractActivity P activity with recipientId := "" } := by
  unfold BotActivityEvent.captured
  rw [extractBotActivity_botActivityEvent h]
  rfl

/-- The law holds of such a state. -/
theorem replayLaw_of_replayable {h : ActivityHistory} (hx : Replayable P h) : ReplayLaw P h := by
  intro now
  obtain ⟨references, hreplay, hrows⟩ := backfillBotReferenceMetadata_of_tells hx.keys hx.normal hx.tells now
  refine ⟨_, hreplay, hrows.imp ?_⟩
  rintro old _ ⟨time, rfl⟩
  exact ⟨rfl, rfl, rfl, rfl, rfl, rfl, rfl, rfl, rfl, rfl, rfl, rfl⟩

/-- Activities of other conversations tell nothing. -/
theorem toldOf_other {activity : List (String × Json)} (hcut : Uncut activity) {conversationId : String}
    (hne : (extractActivity P activity).conversationId ≠ "" → (extractActivity P activity).serviceUrl ≠ "" →
      conversationId ≠ (extractActivity P activity).conversationId) :
    toldOf P [botActivityEvent P activity] conversationId = [] := by
  unfold toldOf
  rw [List.map_singleton, captured_of_uncut hcut, List.filter_cons_of_neg]
  · rfl
  · simp only [Captured.reaches, Bool.and_eq_true, beq_iff_eq, bne_iff_ne]
    exact fun h => hne h.1.2 h.2 h.1.1.symm

/-- An activity of the conversation tells what was captured of it. -/
theorem toldOf_same {activity : List (String × Json)} (hcut : Uncut activity)
    (hconversation : (extractActivity P activity).conversationId ≠ "")
    (hservice : (extractActivity P activity).serviceUrl ≠ "") :
    toldOf P [botActivityEvent P activity] (extractActivity P activity).conversationId =
      [{ extractActivity P activity with recipientId := "" }] := by
  unfold toldOf
  rw [List.map_singleton, captured_of_uncut hcut, List.filter_cons_of_pos]
  · rfl
  · simp only [Captured.reaches, Bool.and_eq_true, beq_iff_eq, bne_iff_ne]
    exact ⟨⟨trivial, hconversation⟩, hservice⟩

/-- After the reference of an activity was captured, every conversation that had a reference has one, and so does the
activity's. -/
theorem exists_upsertReference {names : GraphNames} {now : Int} {fetched : Except Exn ConversationMembers}
    {captured : Captured} {db db₁ : Database} {reference : Option BotConversationReference} (hkeys : db.ReferenceKeys)
    (h : upsertReference P now names fetched captured db = .ok (db₁, reference)) :
    (∀ r ∈ db.references, ∃ r' ∈ db₁.references, r'.conversationId = r.conversationId) ∧
      (captured.conversationId ≠ "" → captured.serviceUrl ≠ "" →
        ∃ r' ∈ db₁.references, r'.conversationId = captured.conversationId) := by
  rcases upsertReference_cases h with ⟨hmissing, rfl, -⟩ | ⟨loaded, found, -, -, -, hsame, h⟩
  · refine ⟨fun r hr => ⟨r, hr, rfl⟩, fun hconversation hservice => ?_⟩
    exact absurd hmissing (not_or.2 ⟨hconversation, hservice⟩)
  · rcases h with ⟨hstored, rfl⟩ | ⟨-, -, hof, -, -, -, rfl⟩
    · have hmem : loaded ∈ db.references := List.mem_of_find?_eq_some hstored
      have hfound : found ∈ Table.update (·.id == found.id) (fun _ => found) db.references :=
        Table.mem_update_of_pos hmem (beq_iff_eq.2 hsame.id.symm)
      have hof : found.conversationId = loaded.conversationId := hsame.conversationId
      refine ⟨fun r hr => ?_, fun _ _ => ⟨found, hfound, hof.trans (by simpa using List.find?_some hstored)⟩⟩
      by_cases hid : r.id = found.id
      · refine ⟨found, hfound, ?_⟩
        rw [hof, hkeys.unique.eq_of_mem hr hmem (hid.trans hsame.id)]
      · exact ⟨r, Table.mem_update_of_not hr (by simpa using hid), rfl⟩
    · refine ⟨fun r hr => ⟨r, List.mem_append_left _ hr, rfl⟩, fun _ _ => ⟨found, by simp, ?_⟩⟩
      exact hsame.conversationId.trans hof

/-- The references after an activity are those after its reference was captured. -/
theorem sameReferences_receiveActivity {s : Settings} {run : BotRun} {activity : List (String × Json)} {db db' : Database}
    {authorization : Option BotCommandAuthorization}
    (h : receiveActivity P s run activity db = .ok (db', authorization)) :
    ∃ db₁ reference, upsertReference P run.now run.referenceNames run.members (extractActivity P activity) db =
      .ok (db₁, reference) ∧ SameReferences db₁ db' := by
  obtain ⟨db₁, reference, hupsert, hend⟩ := receiveActivity_end h
  refine ⟨db₁, reference, hupsert, ?_⟩
  rcases hend with ⟨-, hreferences, -⟩ | ⟨db₂, command, argument, a, hrun, -, hhandle⟩
  · exact hreferences
  · obtain ⟨_, _, _, _, n, heq, hn⟩ := (handleCommand_end (strip_of_commandOf hrun.parsed) hhandle).frame
    rw [heq]
    exact ⟨hrun.references.references, hrun.references.nextId.trans hn⟩

/-- Of a conversation without a reference no activity was stored. -/
theorem toldOf_eq_nil {h : ActivityHistory} (hx : Replayable P h) {conversationId : String}
    (hnone : ∀ r ∈ h.db.references, r.conversationId ≠ conversationId) : toldOf P h.events conversationId = [] := by
  refine List.filter_eq_nil_iff.2 fun captured hcaptured hreaches => ?_
  obtain ⟨event, hevent, rfl⟩ := List.mem_map.1 hcaptured
  obtain ⟨activity, rfl, hcut⟩ := hx.uncut event hevent
  rw [captured_of_uncut hcut] at hreaches
  simp only [Captured.reaches, Bool.and_eq_true, beq_iff_eq, bne_iff_ne] at hreaches
  obtain ⟨⟨hof, hconversation⟩, hservice⟩ := hreaches
  obtain ⟨r, hr, hrc⟩ := hx.covered _ hevent hconversation hservice
  exact hnone r hr (hrc.trans hof)

/-- An activity that is stored without a cut. -/
theorem replayable_activity {h : ActivityHistory} {s : Settings} {run : BotRun} {activity : List (String × Json)}
    {db' : Database} {authorization : Option BotCommandAuthorization} (hx : Replayable P h) (hcut : Uncut activity)
    (hreceive : receiveActivity P s run activity h.db = .ok (db', authorization)) :
    Replayable P ⟨db', h.events ++ [botActivityEvent P activity]⟩ := by
  obtain ⟨db₁, reference, hupsert, hsame⟩ := sameReferences_receiveActivity hreceive
  have hcaptured := upsertReference_captured hx.keys (wellFormed_extractActivity P activity) hupsert
  obtain ⟨hkept, hcovered⟩ := exists_upsertReference hx.keys hupsert
  refine ⟨?_, ?_, ?_, ?_, ?_⟩
  · refine ⟨hsame.references ▸ hcaptured.keys.unique, ?_, hsame.references ▸ hcaptured.keys.conversations,
      hsame.references ▸ hcaptured.keys.wellFormed⟩
    exact fun r hr => lt_of_lt_of_le (hcaptured.keys.fresh r (hsame.references ▸ hr)) hsame.nextId
  · intro r hr
    rcases hcaptured.other r (hsame.references ▸ hr) with hfound | ⟨hold, -⟩
    · rw [(hcaptured.found r hfound).2.2.1]
      exact normalizeConversationId_idem _
    · exact hx.normal r hold
  · intro event hevent
    rcases List.mem_append.1 hevent with hold | hnew
    · exact hx.uncut event hold
    · exact ⟨activity, List.mem_singleton.1 hnew, hcut⟩
  · intro event hevent hconversation hservice
    show ∃ r ∈ db'.references, _
    rw [hsame.references]
    rcases List.mem_append.1 hevent with hold | hnew
    · obtain ⟨r, hr, hof⟩ := hx.covered event hold hconversation hservice
      obtain ⟨r', hr', hof'⟩ := hkept r hr
      exact ⟨r', hr', hof'.trans hof⟩
    · obtain rfl := List.mem_singleton.1 hnew
      exact hcovered hconversation hservice
  · intro r hr merged hmerged
    rw [toldOf_append] at hmerged
    rcases hcaptured.other r (hsame.references ▸ hr) with hfound | ⟨hold, hother⟩
    · obtain ⟨hconversation, hservice, hof, -, -⟩ := hcaptured.found r hfound
      rw [hof, toldOf_same hcut hconversation hservice] at hmerged
      have hcaptures := (upsertReference_captures hupsert).1 r hfound
      have hwritten : CapturesReference P run { extractActivity P activity with recipientId := "" } h.db r :=
        ⟨hcaptures.conversationId, hcaptures.serviceUrl, hcaptures.written⟩
      refine tells_captures hwritten (fun first hfirst => ?_) merged hmerged
      cases hfind : h.db.referenceOf (extractActivity P activity).conversationId with
      | some loaded =>
        have hloaded : h.db.referenceToCapture run.now (extractActivity P activity).conversationId = loaded := by
          rw [Database.referenceToCapture, hfind]
          rfl
        have hloadedOf : loaded.conversationId = (extractActivity P activity).conversationId :=
          by simpa using List.find?_some hfind
        rw [hloaded]
        exact hx.tells loaded (List.mem_of_find?_eq_some hfind) first (hloadedOf ▸ hfirst)
      | none =>
        rw [toldOf_eq_nil hx fun r hr hrc => List.find?_eq_none.1 hfind r hr (beq_iff_eq.2 hrc)] at hfirst
        nomatch hfirst
    · rw [toldOf_other hcut hother, List.append_nil] at hmerged
      exact hx.tells r hold merged hmerged

/-- A name that the merged activities give was given by one that is stored. -/
theorem namedByActivity_of_merged {h : ActivityHistory} (hx : Replayable P h) {reference : BotConversationReference}
    (field : Captured → String) {column : BotActivityEvent → String}
    (hfield : ∀ first last : Captured, field (first.then last) = Python.orElse (field last) (field first))
    (hcolumn : ∀ activity, column (botActivityEvent P activity) =
      field { extractActivity P activity with recipientId := "" })
    {merged : Captured} (hmerged : mergedCaptured (toldOf P h.events reference.conversationId) = some merged)
    (hne : field merged ≠ "") : NamedByActivity column h.events reference := by
  obtain ⟨captured, hmem, hgiven⟩ := exists_of_mergedCaptured hfield hmerged hne
  obtain ⟨hmem, hreaches⟩ := List.mem_filter.1 hmem
  obtain ⟨event, hevent, rfl⟩ := List.mem_map.1 hmem
  obtain ⟨activity, rfl, hcut⟩ := hx.uncut event hevent
  rw [captured_of_uncut hcut] at hreaches hgiven
  simp only [Captured.reaches, Bool.and_eq_true, beq_iff_eq, bne_iff_ne] at hreaches
  exact ⟨_, hevent, hreaches.1.1, hreaches.2, by rw [hcolumn]; exact hgiven⟩

/-- A name that activities gave stands when the lookup gives no other one. -/
theorem orElse_resolvedName {wanted : Bool} {look : Except Exn String} {told old new : String}
    (h : ResolvedName wanted look old new) (htold : Python.orElse told old = old)
    (hkeeps : told ≠ "" → wanted = true → NoOtherName look old) : Python.orElse told new = new := by
  by_cases hne : told = ""
  · rw [hne, Python.orElse_empty]
  · rcases h with rfl | ⟨hwanted, hlook, hnew⟩
    · exact htold
    · rcases hkeeps hne hwanted new hlook with h | rfl
      · exact absurd h hnew
      · exact htold

/-- Names from Graph that are no other ones change nothing that activities told. -/
theorem tells_resolved {G : GraphNames} {h : ActivityHistory} (hx : Replayable P h) {old new : BotConversationReference}
    (hold : old ∈ h.db.references) (hresolved : ResolvedNames G true old new) (hkeeps : KeepsActivityNames G h.events old)
    {merged : Captured} (hmerged : mergedCaptured (toldOf P h.events old.conversationId) = some merged) :
        new.Tells P merged := by
  have htells := hx.tells old hold merged hmerged
  obtain ⟨hsame, hteam, hchannel, huser⟩ := hresolved
  have hteam := orElse_resolvedName hteam htells.teamName fun hne hwanted => by
    simp only [Bool.true_or, Bool.and_true, bne_iff_ne] at hwanted
    exact hkeeps.team (namedByActivity_of_merged hx Captured.teamName (fun _ _ => rfl) (fun _ => rfl) hmerged hne) hwanted
  have hchannel := orElse_resolvedName hchannel htells.channelName fun hne hwanted => by
    simp only [Bool.true_or, Bool.and_true, Bool.and_eq_true, bne_iff_ne] at hwanted
    exact hkeeps.channel (namedByActivity_of_merged hx Captured.channelName (fun _ _ => rfl) (fun _ => rfl) hmerged hne)
      hwanted.1 hwanted.2
  have huser := orElse_resolvedName huser htells.userName fun hne hwanted => by
    simp only [Bool.true_or, Bool.and_true, bne_iff_ne] at hwanted
    exact hkeeps.user (namedByActivity_of_merged hx Captured.userName (fun _ _ => rfl) (fun _ => rfl) hmerged hne) hwanted
  rw [hsame]
  exact { htells with teamName := hteam, channelName := hchannel, userName := huser }

/-- A refresh that corrects no name that an activity gave. -/
theorem replayable_refreshNames {h : ActivityHistory} {s : Settings} {now : Int} {G : GraphNames} {organizationId : Nat}
    {db' : Database} (hx : Replayable P h)
    (hkeeps : ∀ reference ∈ h.db.references, KeepsActivityNames G h.events reference)
    (hrefresh : refreshWebhookRouteGraphNames s now G organizationId h.db = .ok db') :
        Replayable P { h with db := db' } := by
  have hkeys := (targetsKept_refreshWebhookRouteGraphNames (P := P) s now G organizationId h.db).referenceKeys hx.keys
  rw [hrefresh] at hkeys
  obtain ⟨_, -, hrefresh⟩ := Except.bind_eq_ok_iff.1 hrefresh
  obtain ⟨references, hreferences, hrefresh⟩ := Except.bind_eq_ok_iff.1 hrefresh
  obtain ⟨routes, -, hrefresh⟩ := Except.bind_eq_ok_iff.1 hrefresh
  cases hrefresh
  have hrows := Except.mapM_eq_ok_iff.1 hreferences
  have hrow : ∀ old new, (resolveReferenceGraphNames G true old).raised.map (old.flushed now) = .ok new →
      ∃ changed, ResolvedNames G true old changed ∧ new = old.flushed now changed := by
    intro old new hnew
    obtain ⟨changed, hchanged, rfl⟩ := Except.map_eq_ok_iff.1 hnew
    exact ⟨changed, Changed.eq_of_raised hchanged ▸ resolvedNames G true old, rfl⟩
  have hof : ∀ old new, (resolveReferenceGraphNames G true old).raised.map (old.flushed now) = .ok new →
      new.conversationId = old.conversationId := by
    intro old new hnew
    obtain ⟨changed, hresolved, rfl⟩ := hrow old new hnew
    show changed.conversationId = old.conversationId
    rw [hresolved.same]
  refine ⟨hkeys, ?_, hx.uncut, ?_, ?_⟩
  · intro new hnew
    obtain ⟨old, hold, hchanged⟩ := exists_of_forall₂ hrows new hnew
    rw [hof old new hchanged]
    exact hx.normal old hold
  · intro event hevent hconversation hservice
    obtain ⟨old, hold, hoff⟩ := hx.covered event hevent hconversation hservice
    obtain ⟨new, hnew, hchanged⟩ := exists_of_forall₂ hrows.flip old hold
    exact ⟨new, hnew, (hof old new hchanged).trans hoff⟩
  · intro new hnew merged hmerged
    obtain ⟨old, hold, hchanged⟩ := exists_of_forall₂ hrows new hnew
    rw [hof old new hchanged] at hmerged
    obtain ⟨changed, hresolved, rfl⟩ := hrow old new hchanged
    exact { tells_resolved hx hold hresolved (hkeeps old hold) hmerged with }

/-- Each step that keeps the replay keeps the state. -/
theorem replayable_step {h h' : ActivityHistory} {step : ActivityStep} (hx : Replayable P h)
    (hguard : KeepsReplay P h step) (hstep : activityStep P h step = some h') : Replayable P h' := by
  cases step with
  | activity s run body =>
    cases hreceive : receiveBotActivity P s run body h.db with
    | error e =>
      simp only [activityStep, hreceive] at hstep
      cases hstep
      exact hx
    | ok result =>
      obtain ⟨db', authorization⟩ := result
      simp only [activityStep, hreceive] at hstep
      cases hstep
      have hreceived := hreceive
      unfold receiveBotActivity at hreceived
      obtain ⟨activity, hbody, hreceived⟩ := Except.bind_eq_ok_iff.1 hreceived
      cases activity with
      | none =>
        obtain ⟨rfl, -⟩ := Prod.mk.inj (Except.ok.inj hreceived)
        have hnone : storedActivity P body = [] := by rw [storedActivity, hbody]
        rw [hnone, List.append_nil]
        exact hx
      | some activity =>
        have hstored : storedActivity P body = [botActivityEvent P activity] := by rw [storedActivity, hbody]
        rw [hstored]
        exact replayable_activity hx (hguard _ activity hreceive hbody) hreceived
  | refreshNames s now G organizationId =>
    cases hstep
    cases hrefresh : refreshWebhookRouteGraphNames s now G organizationId h.db with
    | error e => exact hx
    | ok db' => exact replayable_refreshNames hx (hguard db' hrefresh) hrefresh
  | refreshRouteNames s now G organizationId routeId =>
    cases hstep
    cases hrefresh : refreshSingleWebhookRouteGraphNames s now G organizationId routeId h.db with
    | error e => exact hx
    | ok db' =>
      obtain ⟨route, -, hrefresh⟩ := Except.bind_eq_ok_iff.1 hrefresh
      obtain ⟨_, -, hrefresh⟩ := Except.bind_eq_ok_iff.1 hrefresh
      obtain ⟨row, -, hrefresh⟩ := Except.bind_eq_ok_iff.1 hrefresh
      cases hrefresh
      exact ⟨⟨hx.keys.unique, hx.keys.fresh, hx.keys.conversations, hx.keys.wellFormed⟩, hx.normal, hx.uncut,
        hx.covered, hx.tells⟩

end ActivityReplayAux

open ActivityReplayAux

/-! ## The law -/

/-- After every history of activities and refreshes that cuts nothing that is read of an activity and corrects no name
that an activity gave, the replay leaves every reference as it is. -/
theorem activity_replay_of_run {P : Platform} {h h' : ActivityHistory} {steps : List ActivityStep} (hfresh : h.Fresh)
    (hmeets : Transition.Meets (activityStep P) (KeepsReplay P) h steps)
    (hrun : Transition.exec (activityStep P) h steps = some h') : ReplayLaw P h' :=
  replayLaw_of_replayable (Transition.exec_invariant_of_meets (fun _ _ _ => replayable_step)
    (replayable_of_fresh hfresh) hmeets hrun)

/-! ## Fixed inputs -/

/-- An activity in a channel of the team `Operations`. -/
def channelActivity : List (String × Json) :=
  [("type", .str "conversationUpdate"), ("serviceUrl", .str "https://smba.example/"),
    ("conversation", .obj [("id", .str "19:ops"), ("conversationType", .str "channel")]),
    ("channelData",
      .obj [("team", .obj [("id", .str "19:team"), ("aadGroupId", .str "team-1"), ("name", .str "Operations")]),
      ("channel", .obj [("id", .str "19:ops"), ("name", .str "Alerts")])]),
    ("from", .obj [("id", .str "29:ada"), ("aadObjectId", .str "ada")])]

/-- The platform on which every body that is not empty is that activity. -/
def Platform.bodyOfChannel : Platform := { Platform.plain with jsonLoadsBytes := fun _ => .ok (.obj channelActivity) }

/-- Lookups in which Graph has this name of every team. -/
def teamNames (teamName : String) : GraphNames := { GraphNames.empty with team := fun _ => .ok teamName }

/-- The activity, and a refresh for which Graph has this name of the team. -/
def channelHistory (teamName : String) : List ActivityStep :=
  [.activity {} offlineRun [0], .refreshNames {} 1 (teamNames teamName) 1]

/-- The name of the team as the activity gives it, which a refresh finds in Graph too. -/
theorem activity_replay_of_channel :
    ∃ h', Transition.exec (activityStep Platform.bodyOfChannel) ⟨adaDatabase, []⟩ (channelHistory "Operations") =
      some h' ∧ (h'.events.length, h'.db.references.map (·.teamName)) = (1, ["Operations"]) ∧
      ReplayLaw Platform.bodyOfChannel h' := by
  have hvalue : (Transition.exec (activityStep Platform.bodyOfChannel) ⟨adaDatabase, []⟩
    (channelHistory "Operations")).map
      (fun h' => (h'.events.length, h'.db.references.map (·.teamName))) = some (1, ["Operations"]) := by
    decide +kernel
  obtain ⟨h', hrun, hnames⟩ := Option.map_eq_some_iff.1 hvalue
  have hfirst : (activityStep Platform.bodyOfChannel ⟨adaDatabase, []⟩ (.activity {} offlineRun [0])).map
      (fun h => h.db.references.map (·.teamName)) = some ["Operations"] := by
    decide +kernel
  have hteam : ∀ teamId, NoOtherName (safeTeamName (teamNames "Operations") teamId) "Operations" := by
    intro teamId found hfound
    unfold safeTeamName at hfound
    split at hfound
    · exact .inl (Except.ok.inj hfound).symm
    · exact .inr ((Except.ok.inj hfound).symm.trans (by decide))
  have hchannel : ∀ teamId channelId name, NoOtherName (safeChannelName (teamNames "Operations") teamId channelId)
      name := by
    intro teamId channelId name found hfound
    unfold safeChannelName at hfound
    split at hfound
    · exact .inl (Except.ok.inj hfound).symm
    · exact .inl ((Except.ok.inj hfound).symm.trans (by decide))
  have huser : ∀ userId name, NoOtherName (safeUserName (teamNames "Operations") userId) name := by
    intro userId name found hfound
    unfold safeUserName at hfound
    split at hfound
    · exact .inl (Except.ok.inj hfound).symm
    · exact .inl ((Except.ok.inj hfound).symm.trans (by decide))
  refine ⟨h', hrun, hnames, activity_replay_of_run ⟨rfl, rfl⟩
    (?_ : Transition.Meets _ _ _ (channelHistory "Operations")) hrun⟩
  refine ⟨?_, fun h hstep => ⟨?_, fun _ _ => trivial⟩⟩
  · intro _ activity _ hbody
    obtain rfl := Option.some.inj (Except.ok.inj hbody)
    decide
  · intro _ _ reference hreference
    rw [hstep] at hfirst
    have hnames : h.db.references.map (·.teamName) = ["Operations"] := Option.some.inj hfirst
    have hname : reference.teamName ∈ h.db.references.map (·.teamName) := List.mem_map_of_mem hreference
    rw [hnames, List.mem_singleton] at hname
    refine ⟨fun _ _ => ?_, fun _ _ _ => hchannel _ _ _, fun _ _ => huser _ _⟩
    rw [hname]
    exact hteam _

/-- A refresh corrects the name of the team, and the replay brings back the one from the activity. -/
theorem refreshed_name_reverted :
    ∃ h', Transition.exec (activityStep Platform.bodyOfChannel) ⟨adaDatabase, []⟩ (channelHistory "Platform") = some h' ∧
      h'.db.references.map (·.teamName) = ["Platform"] ∧
      (backfillBotReferenceMetadata Platform.bodyOfChannel 2 h'.events h'.db).toOption.map
        (fun db => db.references.map (·.teamName)) = some ["Operations"] ∧
      ¬ReplayLaw Platform.bodyOfChannel h' := by
  have hvalue : (Transition.exec (activityStep Platform.bodyOfChannel) ⟨adaDatabase, []⟩ (channelHistory "Platform")).map
      (fun h' => (h'.db.references.map (·.teamName),
        (backfillBotReferenceMetadata Platform.bodyOfChannel 2 h'.events h'.db).toOption.map
        fun db => db.references.map (·.teamName))) = some (["Platform"], some ["Operations"]) := by
    decide +kernel
  obtain ⟨h', hrun, hnames⟩ := Option.map_eq_some_iff.1 hvalue
  obtain ⟨hlive, hreplayed⟩ := Prod.mk.inj hnames
  refine ⟨h', hrun, hlive, hreplayed, fun hlaw => ?_⟩
  obtain ⟨db', hreplay, hsame⟩ := hlaw 2
  have hteams : h'.db.references.map (·.teamName) = db'.references.map (·.teamName) := by
    rw [← List.forall₂_eq_eq_eq, List.forall₂_map_left_iff, List.forall₂_map_right_iff]
    exact hsame.imp fun _ _ h => h.teamName.symm
  rw [hreplay] at hreplayed
  exact absurd (hlive.symm.trans (hteams.trans (Option.some.inj hreplayed))) (by decide)

end TeamsRehook
