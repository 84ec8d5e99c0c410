import TeamsRehook.Delivery.Graph
import TeamsRehook.Lemmas.RowOrigins

/-!
# Stored routes can be delivered to

Every route that live operations leave has a well-formed access rule, the hash of its token, a name and a target, so
that a delivery never ends at the checks of the target.
-/

namespace TeamsRehook

/-- What every stored route is to be: its access rule is well-formed, its token hash is that of its token, and it has a
target to deliver to. -/
structure DeliverableLaw (P : Platform) (route : WebhookRoute) : Prop where
  access : StoredAccess P route.clientIpAccessMode route.clientIpAllowlist
  token : route.routeTokenHash = lookupSecretHash P route.routeToken
  named : Python.strip route.targetName ≠ ""
  backend : routeDeliveryBackend route = "bot_framework" ∨ routeDeliveryBackend route = "graph"
  bot : routeDeliveryBackend route = "bot_framework" → Python.strip route.botServiceUrl ≠ "" ∧
    Python.strip route.botConversationId ≠ ""
  graph : routeDeliveryBackend route = "graph" →
    (route.graphTargetKind = "channel" ∧ Python.strip route.graphTeamId ≠ "" ∧ Python.strip route.graphChannelId ≠ "") ∨
      (route.graphTargetKind = "chat" ∧ Python.strip route.graphTargetId ≠ "")
  /-- `_target_for_route` raises neither a `validation_error` nor an `unsupported_target`. -/
  target : routeDeliveryBackend route = "graph" → ∃ target, targetForRoute route = .ok target

/-- What the operations keep of a route. -/
structure WebhookRoute.Sound (P : Platform) (route : WebhookRoute) : Prop where
  access : StoredAccess P route.clientIpAccessMode route.clientIpAllowlist
  token : route.routeTokenHash = lookupSecretHash P route.routeToken
  kind : Python.strip route.graphTargetKind = route.graphTargetKind
  teamName : Python.VisibleOrEmpty route.graphTeamName
  valid : validateTarget route = .ok ()

namespace StoredRoutesAux

variable {P : Platform} {route row : WebhookRoute}

/-! ## Valid targets -/

/-- What a valid target is. -/
theorem of_validateTarget (h : validateTarget route = .ok ()) :
    Python.strip route.targetName ≠ "" ∧ route.targetType = "bot_conversation" ∧
      ((routeDeliveryBackend route = "bot_framework" ∧ Python.strip route.botServiceUrl ≠ "" ∧
          Python.strip route.botConversationId ≠ "") ∨
        (routeDeliveryBackend route = "graph" ∧
          ((Python.strip route.graphTargetKind = "channel" ∧ Python.strip route.graphTeamId ≠ "" ∧
              Python.strip route.graphChannelId ≠ "") ∨
            (Python.strip route.graphTargetKind = "chat" ∧ Python.strip route.graphTargetId ≠ "")))) := by
  have hname := targetName_of_validateTarget h
  have htype : route.targetType = "bot_conversation" := by
    by_contra htype
    unfold validateTarget at h
    simp only [ne_eq, htype, not_false_eq_true, if_true] at h
    split_ifs at h
  refine ⟨hname, htype, ?_⟩
  by_cases hgraph : routeDeliveryBackend route = "graph"
  · refine .inr ⟨hgraph, ?_⟩
    rcases kind_of_validateTarget hgraph h with hkind | hkind
    · refine .inl ⟨hkind, ?_⟩
      by_contra hids
      rw [not_and_or, not_not, not_not] at hids
      unfold validateTarget at h
      simp [hgraph, htype, hname, hkind, hids] at h
    · refine .inr ⟨hkind, fun hid => ?_⟩
      unfold validateTarget at h
      simp [hgraph, htype, hname, hkind, hid] at h
  · have hbot : routeDeliveryBackend route = "bot_framework" := by
      by_contra hbot
      unfold validateTarget at h
      simp [hgraph, hbot] at h
    refine .inl ⟨hbot, ?_⟩
    by_contra hconversation
    rw [← not_or, not_not] at hconversation
    unfold validateTarget at h
    simp [hbot, htype, hname, hconversation] at h

/-- A target of the bot that is valid. -/
theorem validateTarget_of_bot (hbackend : routeDeliveryBackend route = "bot_framework")
    (htype : route.targetType = "bot_conversation") (hname : Python.strip route.targetName ≠ "")
    (hservice : Python.strip route.botServiceUrl ≠ "")
    (hconversation : Python.strip route.botConversationId ≠ "") : validateTarget route = .ok () := by
  unfold validateTarget
  simp [hbackend, htype, hname, hservice, hconversation]

/-- A sound route can be delivered to. -/
theorem deliverable_of_sound (h : route.Sound P) : DeliverableLaw P route := by
  obtain ⟨hname, -, htarget⟩ := of_validateTarget h.valid
  rw [h.kind] at htarget
  refine ⟨h.access, h.token, hname, ?_, ?_, ?_, ?_⟩
  · exact htarget.imp (·.1) (·.1)
  · intro hbot
    rcases htarget with ⟨-, hconversation⟩ | ⟨hgraph, -⟩
    · exact hconversation
    · exact absurd (hbot.symm.trans hgraph) (by decide)
  · intro hgraph
    rcases htarget with ⟨hbot, -⟩ | ⟨-, hids⟩
    · exact absurd (hbot.symm.trans hgraph) (by decide)
    · exact hids
  · intro hgraph
    rcases htarget with ⟨hbot, -⟩ | ⟨-, ⟨hkind, hteam, hchannel⟩ | ⟨hkind, hid⟩⟩
    · exact absurd (hbot.symm.trans hgraph) (by decide)
    · have hstripped : Python.strip route.graphTargetKind = "channel" := h.kind.trans hkind
      unfold targetForRoute
      simp [hstripped, hteam, hchannel]
    · have hstripped : Python.strip route.graphTargetKind = "chat" := h.kind.trans hkind
      unfold targetForRoute
      simp [hstripped, hid]

/-! ## Names from Graph -/

/-- Names from Graph leave a team's name that starts visibly, and a route with a name. -/
theorem named_resolve (G : GraphNames) (force : Bool) (hteam : Python.VisibleOrEmpty route.graphTeamName) :
    Python.VisibleOrEmpty (resolveRouteGraphNames G force route).1.graphTeamName ∧
      (Python.strip route.targetName ≠ "" → Python.strip (resolveRouteGraphNames G force route).1.targetName ≠ "") := by
  let I (row : WebhookRoute) : Prop :=
    Python.VisibleOrEmpty row.graphTeamName ∧ (Python.strip route.targetName ≠ "" → Python.strip row.targetName ≠ "")
  suffices h : I (resolveRouteGraphNames G force route).1 from h
  unfold resolveRouteGraphNames
  apply Changed.andThen_invariant
  · apply named_invariant (I := I) ⟨hteam, id⟩
    intro name hlook hne
    obtain ⟨text, rfl⟩ := eq_strip_of_lookup hlook hne
    exact ⟨Python.visibleOrEmpty_strip text, id⟩
  · rintro row ⟨hteam, hname⟩
    dsimp only
    split
    · unfold resolveTargetName
      split
      · exact ⟨hteam, fun _ => strip_slashed _ _⟩
      · split
        next hnamed => exact ⟨hteam, fun _ => (hteam.resolve_left hnamed.2).strip_ne⟩
        next =>
          apply named_invariant (I := I) ⟨hteam, hname⟩
          intro name hlook hne
          obtain ⟨text, rfl⟩ := eq_strip_of_lookup hlook hne
          exact ⟨hteam, fun _ => ((Python.visibleOrEmpty_strip text).resolve_left hne).strip_ne⟩
    · exact ⟨hteam, hname⟩

/-- Names from Graph leave a route sound. -/
theorem sound_resolve (G : GraphNames) (force : Bool) (h : route.Sound P) :
    (resolveRouteGraphNames G force route).1.Sound P := by
  obtain ⟨hteam, hname⟩ := named_resolve G force h.teamName
  have hname := hname (targetName_of_validateTarget h.valid)
  obtain ⟨teamName, name, hrow⟩ := resolveRouteGraphNames_renamed G force route
  rw [hrow] at hname hteam ⊢
  exact ⟨h.access, h.token, h.kind, hteam, validateTarget_of_same h.valid rfl rfl rfl rfl rfl hname⟩

/-- Members that were fetched leave a route sound. -/
theorem sound_refreshRouteMembers {now : Int} {fetched : Except Exn ConversationMembers} {valueErrorText : String}
    (h : route.Sound P) (hrow : refreshRouteMembers now fetched valueErrorText route = .ok row) : row.Sound P := by
  have hnamed := targetName_of_validateTarget h.valid
  unfold refreshRouteMembers at hrow
  split at hrow
  · split at hrow
    next members =>
      cases hrow
      refine ⟨h.access, h.token, h.kind, h.teamName, validateTarget_of_same h.valid rfl rfl rfl rfl rfl ?_⟩
      dsimp only
      split
      next => exact hnamed
      next hsummary => exact ((members.labelled.resolve_left hsummary).clip (by decide)).strip_ne
    next e =>
      split at hrow
      · cases hrow
        exact ⟨h.access, h.token, h.kind, h.teamName, validateTarget_of_same h.valid rfl rfl rfl rfl rfl hnamed⟩
      · nomatch hrow
  · cases hrow
    exact ⟨h.access, h.token, h.kind, h.teamName, validateTarget_of_same h.valid rfl rfl rfl rfl rfl hnamed⟩

/-! ## Registered routes -/

/-- A reference that an activity captured is well-formed. -/
theorem wellFormed_of_captures {run : BotRun} {captured : Captured} {db : Database} {found : BotConversationReference}
    (hreferences : ∀ reference ∈ db.references, reference.WellFormed) (hcaptured : captured.WellFormed P)
    (h : CapturesReference P run captured db found) : found.WellFormed := by
  obtain ⟨named, hnamed, hfound⟩ := h.written
  have hwellFormed : (db.referenceToCapture run.now captured.conversationId).WellFormed := by
    rcases (db.referenceToCapture_cases run.now captured.conversationId).1 with hold | hnew
    · exact hreferences _ hold
    · rw [hnew]
      exact ⟨hcaptured.conversationId.resolve_left h.conversationId, .inl rfl, .inl rfl, .inl rfl, .inl rfl,
        .inl rfl, .inl rfl, fun hscope => absurd hscope (by simp)⟩
  have hsame := (BotConversationReference.sameConversation_resolve run.referenceNames false _).trans
    (Changed.eq_of_try hnamed ▸ BotConversationReference.sameConversation_refresh hfound)
  exact hsame.wellFormed (hwellFormed.captures hcaptured run.now)

/-- The name of a captured conversation starts visibly. -/
theorem startsVisibly_targetName {captured : Captured} (hteam : Python.VisibleOrEmpty captured.teamName)
    (hchannel : Python.VisibleOrEmpty captured.channelName) (hsummary : Python.VisibleOrEmpty captured.memberSummary)
    (huser : Python.VisibleOrEmpty captured.userName) (hgraphUser : Python.VisibleOrEmpty captured.graphUserId)
    (hfrom : Python.VisibleOrEmpty captured.fromId) (hconversation : Python.VisibleOrEmpty captured.conversationId) :
    Python.StartsVisibly (targetName P captured) := by
  have hlabel : ∀ {text : String}, Python.VisibleOrEmpty text → text ≠ "" → Python.StartsVisibly (Python.clip text 200) :=
    fun htext hne => (htext.resolve_left hne).clip (by decide)
  unfold targetName
  split
  next hnames => exact ((hteam.resolve_left hnames.1).append _ |>.append _).clip (by decide)
  · split
    next hne => exact hlabel hchannel hne
    · split
      next hne => exact hlabel hteam hne
      · split
        next hne => exact hlabel hsummary hne
        · split
          · exact ⟨'G', rfl, rfl⟩
          · refine hlabel
              (huser.orElse (hgraphUser.orElse (hfrom.orElse (hconversation.orElse (.inr ⟨'T', rfl, rfl⟩))))) ?_
            unfold Python.orElse
            split_ifs
            · decide
            all_goals assumption

/-- A route that `register` turns to a conversation is sound when its access rule and its token are. -/
theorem sound_registeredRoute {effective : Captured} {now : Int} {reference : BotConversationReference}
    (haccess : StoredAccess P route.clientIpAccessMode route.clientIpAllowlist)
    (htoken : route.routeTokenHash = lookupSecretHash P route.routeToken) (htype : route.targetType = "bot_conversation")
    (hname : Python.StartsVisibly (targetName P effective)) (hteam : Python.VisibleOrEmpty effective.teamName)
    (hservice : Python.strip effective.serviceUrl ≠ "") (hconversation : Python.strip effective.conversationId ≠ "") :
    (registeredRoute P now effective reference route).Sound P := by
  have hkind : Python.strip (graphTargetKind P effective).value = (graphTargetKind P effective).value := by
    cases graphTargetKind P effective <;> decide
  have hbackend : routeDeliveryBackend (registeredRoute P now effective reference route) = "bot_framework" :=
    (by decide : Python.orElse (Python.strip "bot_framework") "bot_framework" = "bot_framework")
  exact ⟨haccess, htoken, hkind, hteam.clip (by decide),
    validateTarget_of_bot hbackend htype hname.strip_ne hservice hconversation⟩

/-- The route that `register` leaves is sound when it was, or is new. -/
theorem sound_registered {run : BotRun} {db : Database} {captured : Captured} {found : BotConversationReference}
    (hcaptured : captured.WellFormed P) (hservice : Python.VisibleOrEmpty captured.serviceUrl)
    (hsummary : captured.memberSummary = "") (hwellFormed : found.WellFormed)
    (hfound : CapturesReference P run captured db found) (hroute : route.Sound P ∨
      ∃ id organizationId name targetName, route =
      { id := id, organizationId := organizationId, name := name, routeTokenHash := lookupSecretHash P run.routeToken,
        routeToken := run.routeToken, targetName := targetName }) :
    (registeredRoute P run.now (capturedWithReference captured found) found route).Sound P := by
  obtain ⟨haccess, htoken, htype⟩ : StoredAccess P route.clientIpAccessMode route.clientIpAllowlist ∧
      route.routeTokenHash = lookupSecretHash P route.routeToken ∧ route.targetType = "bot_conversation" := by
    rcases hroute with hsound | ⟨_, _, _, _, rfl⟩
    · exact ⟨hsound.access, hsound.token, (of_validateTarget hsound.valid).2.1⟩
    · exact ⟨.inl ⟨rfl, rfl⟩, rfl, rfl⟩
  have hname : Python.StartsVisibly (targetName P (capturedWithReference captured found)) :=
    startsVisibly_targetName (hcaptured.teamName.orElse hwellFormed.teamName)
      (hcaptured.channelName.orElse hwellFormed.channelName)
      (Python.VisibleOrEmpty.orElse (.inl hsummary) hwellFormed.memberSummary)
      (hcaptured.userName.orElse hwellFormed.userName)
      (hcaptured.graphUserId.orElse hwellFormed.graphUserId) (hcaptured.fromId.orElse hwellFormed.userId)
      (hcaptured.conversationId.orElse (.inr hwellFormed.conversationId))
  refine sound_registeredRoute haccess htoken htype hname (hcaptured.teamName.orElse hwellFormed.teamName) ?_ ?_
  · show Python.strip (Python.orElse captured.serviceUrl found.serviceUrl) ≠ ""
    rw [Python.orElse_of_ne hfound.serviceUrl]
    exact (hservice.resolve_left hfound.serviceUrl).strip_ne
  · show Python.strip (Python.orElse captured.conversationId found.conversationId) ≠ ""
    rw [Python.orElse_of_ne hfound.conversationId]
    exact (hcaptured.conversationId.resolve_left hfound.conversationId).strip_ne

/-! ## Created and edited routes -/

/-- What the administration's checks need of a route: the hash of its token, a kind and a team name without blanks
around them. -/
structure Prepared (P : Platform) (route : WebhookRoute) : Prop where
  token : route.routeTokenHash = lookupSecretHash P route.routeToken
  kind : Python.strip route.graphTargetKind = route.graphTargetKind
  teamName : Python.VisibleOrEmpty route.graphTeamName

/-- A kind of the schema has no blanks around it. -/
theorem strip_kind (kind : Option GraphTargetKind) {default : String} (h : Python.strip default = default) :
    Python.strip ((kind.map (·.value)).getD default) = (kind.map (·.value)).getD default := by
  have hvalue : ∀ kind : GraphTargetKind, Python.strip kind.value = kind.value := by
    intro kind
    cases kind <;> decide
  rcases kind with _ | kind
  · exact h
  · exact hvalue kind

/-- The route that a request asks for. -/
theorem prepared_create (run : RouteRun) (organizationId id : Nat) (payload : WebhookRouteCreate) :
    Prepared P (payload.route P run organizationId id) :=
  ⟨rfl, strip_kind payload.graphTargetKind (by decide), Python.visibleOrEmpty_strip payload.graphTeamName⟩

/-- A sound route with the fields that a request gives. -/
theorem prepared_update (payload : WebhookRouteUpdate) (h : route.Sound P) : Prepared P (payload.apply route) := by
  refine ⟨h.token, strip_kind payload.graphTargetKind h.kind, ?_⟩
  show Python.VisibleOrEmpty ((payload.graphTeamName.map Python.strip).getD route.graphTeamName)
  rcases payload.graphTeamName with _ | name
  · exact h.teamName
  · exact Python.visibleOrEmpty_strip name

/-- What the checks keep, with the access rule they settled. -/
structure Admitted (P : Platform) (route : WebhookRoute) : Prop extends Prepared P route where
  access : StoredAccess P route.clientIpAccessMode route.clientIpAllowlist

/-- A chat with a user keeps what the checks need. -/
theorem admitted_materialize {run : RouteRun} (h : Admitted P route)
    (hrow : materializeGraphUserTarget run route = .ok row) : Admitted P row := by
  unfold materializeGraphUserTarget at hrow
  split at hrow
  · cases hrow
    exact h
  · dsimp only at hrow
    split at hrow
    · nomatch hrow
    · split at hrow
      · nomatch hrow
      · nomatch hrow
      · cases hrow
        exact ⟨⟨h.token, (by decide : Python.strip "chat" = "chat"), .inl rfl⟩, h.access⟩

/-- Settled members keep what the checks need. -/
theorem admitted_settleMembers (old : WebhookRoute) {edited : WebhookRoute} (h : Admitted P edited) :
    Admitted P (settleMembers old edited) := by
  unfold settleMembers
  split
  · exact ⟨⟨h.token, h.kind, h.teamName⟩, h.access⟩
  · exact h

/-- Names from Graph keep what the checks need. -/
theorem admitted_resolve (G : GraphNames) (force : Bool) (h : Admitted P route) :
    Admitted P (resolveRouteGraphNames G force route).1 := by
  have hteam := (named_resolve G force h.teamName).1
  obtain ⟨teamName, name, hrow⟩ := resolveRouteGraphNames_renamed G force route
  rw [hrow] at hteam ⊢
  exact ⟨⟨h.token, h.kind, hteam⟩, h.access⟩

/-- The checks of the administration leave a sound route. -/
theorem sound_checkedRoute {s : Settings} {run : RouteRun} {settled : WebhookRoute → WebhookRoute}
    (hsettled : ∀ route, Admitted P route → Admitted P (settled route)) (h : Prepared P route)
    (hrow : checkedRoute P s run settled route = .ok row) : row.Sound P := by
  obtain ⟨mode, allowlist, chat, haccess, hchat, hnamed, hvalid⟩ := checkedRoute_eq_ok hrow
  have hadmitted : Admitted P { route with clientIpAccessMode := mode, clientIpAllowlist := allowlist } :=
    ⟨⟨h.token, h.kind, h.teamName⟩, haccess⟩
  have hsettledChat := hsettled chat (admitted_materialize hadmitted hchat)
  have hrow : Admitted P row := by
    rcases hnamed with ⟨-, rfl⟩ | rfl
    · exact admitted_resolve run.names false hsettledChat
    · exact hsettledChat
  exact ⟨hrow.access, hrow.token, hrow.kind, hrow.teamName, hvalid⟩

/-! ## Runs -/

/-- What live operations keep: every route is sound, and every reference is well-formed. -/
structure StoredSound (P : Platform) (db : Database) : Prop where
  routes : ∀ route ∈ db.routes, route.Sound P
  references : ∀ reference ∈ db.references, reference.WellFormed

/-- The moment of a change does not matter to a route. -/
theorem sound_updatedAt (t : Int) (h : route.Sound P) : WebhookRoute.Sound P { route with updatedAt := t } :=
  ⟨h.access, h.token, h.kind, h.teamName, validateTarget_of_same h.valid rfl rfl rfl rfl rfl
    (targetName_of_validateTarget h.valid)⟩

/-- What a reference comes from leaves it well-formed. -/
theorem wellFormed_of_origin {db : Database} {step : LiveStep} {reference : BotConversationReference}
    (h : StoredSound P db) (horigin : ReferenceOrigin P db step reference) : reference.WellFormed := by
  cases horigin with
  | kept hold => exact h.references _ hold
  | @captured _ _ _ activity _ _ hcaptures =>
    exact wellFormed_of_captures h.references (wellFormed_extractActivity P activity) hcaptures
  | membersRefreshed t hold hchanged =>
    have hwellFormed := (BotConversationReference.sameConversation_refresh hchanged).wellFormed (h.references _ hold)
    exact { hwellFormed with conversationId := hwellFormed.conversationId }
  | @namesRefreshed _ _ G _ _ t hold =>
    have hwellFormed := (BotConversationReference.sameConversation_resolve G true _).wellFormed (h.references _ hold)
    exact { hwellFormed with conversationId := hwellFormed.conversationId }

/-- What a route comes from leaves it sound. -/
theorem sound_of_origin {db : Database} {step : LiveStep} (h : StoredSound P db) (horigin : RouteOrigin P db step route) :
    route.Sound P := by
  cases horigin with
  | kept hold => exact h.routes _ hold
  | @activated _ _ _ old isActive t hold =>
    have hsound := h.routes old hold
    exact ⟨hsound.access, hsound.token, hsound.kind, hsound.teamName,
      validateTarget_of_same hsound.valid rfl rfl rfl rfl rfl (targetName_of_validateTarget hsound.valid)⟩
  | @accessSet _ _ _ old _ _ t hold haccess =>
    have hsound := h.routes old hold
    exact ⟨haccess, hsound.token, hsound.kind, hsound.teamName,
      validateTarget_of_same hsound.valid rfl rfl rfl rfl rfl (targetName_of_validateTarget hsound.valid)⟩
  | @registered _ run _ activity found _ old row t hbody _ hfound hroute hrow =>
    have hcaptured := wellFormed_extractActivity P activity
    have hsound := sound_registered hcaptured (visibleOrEmpty_string (item "serviceUrl" activity)) rfl
      (wellFormed_of_captures h.references hcaptured hfound) hfound (hroute.imp (h.routes old) id)
    rw [Changed.eq_of_try hrow]
    exact sound_updatedAt t (sound_resolve _ _ hsound)
  | created t _ hrow => exact sound_updatedAt t (sound_checkedRoute (fun _ h => h) (prepared_create _ _ _ _) hrow)
  | @updated _ _ _ _ _ old _ t hold _ _ hrow =>
    exact sound_updatedAt t (sound_checkedRoute (fun _ => admitted_settleMembers old)
      (prepared_update _ (h.routes old hold)) hrow)
  | membersRefreshed t hold hrow => exact sound_updatedAt t (sound_refreshRouteMembers (h.routes _ hold) hrow)
  | namesRefreshed t hold _ => exact sound_updatedAt t (sound_resolve _ _ (h.routes _ hold))
  | routeNamesRefreshed t hold _ => exact sound_updatedAt t (sound_resolve _ _ (h.routes _ hold))
  | @regenerated _ _ _ old t hold =>
    have hsound := h.routes old hold
    exact ⟨hsound.access, rfl, hsound.kind, hsound.teamName,
      validateTarget_of_same hsound.valid rfl rfl rfl rfl rfl (targetName_of_validateTarget hsound.valid)⟩

/-- A step keeps what is stored sound. -/
theorem storedSound_step {db db' : Database} {step : LiveStep} (h : StoredSound P db)
    (hstep : liveStep P db step = some db') : StoredSound P db' :=
  have horigins := rowOrigins_of_step hstep
  ⟨fun route hroute => sound_of_origin h (horigins.routes route hroute),
    fun reference hreference => wellFormed_of_origin h (horigins.references reference hreference)⟩

end StoredRoutesAux

open StoredRoutesAux Transition

/-- After every sequence of live operations from tables without routes and references, every stored route can be
delivered to. -/
theorem stored_routes_deliverable_of_run {P : Platform} {db db' : Database} {steps : List LiveStep}
    (hroutes : db.routes = []) (hreferences : db.references = []) (h : exec (liveStep P) db steps = some db') :
    ∀ route ∈ db'.routes, DeliverableLaw P route := by
  have hstart : StoredSound P db := ⟨by simp [hroutes], by simp [hreferences]⟩
  have hend := exec_invariant (I := StoredSound P) (fun _ _ _ hsound hstep => storedSound_step hsound hstep) hstart h
  exact fun route hroute => deliverable_of_sound (hend.routes route hroute)

/-! ## Fixed inputs -/

/-- Ada registers a route in her personal conversation, an admin lets it deliver to a channel through Graph, and its URL
is regenerated. -/
theorem stored_routes_deliverable_edited :
    ∃ db', exec (liveStep (.bodyOfAda "register alerts")) adaDatabase
        [.routes (.activity {} offlineRun [0]),
          .routes (.update {} { now := 1, oneOnOneChat := fun _ _ _ => .error .valueError } 1 4
            { deliveryBackend := some .graph, graphTargetKind := some .channel, graphTeamId := some " team ",
              graphChannelId := some "19:ops" }),
          .regenerate 2 4 "new-token"] = some db' ∧
      db'.routes.map (·.deliveryTarget) = [⟨"channel", "ada", "team", "19:ops"⟩] ∧
      ∀ route ∈ db'.routes, DeliverableLaw (.bodyOfAda "register alerts") route := by
  obtain ⟨db', h⟩ : ∃ db', exec (liveStep (.bodyOfAda "register alerts")) adaDatabase
      [.routes (.activity {} offlineRun [0]),
        .routes (.update {} { now := 1, oneOnOneChat := fun _ _ _ => .error .valueError } 1 4
          { deliveryBackend := some .graph, graphTargetKind := some .channel, graphTeamId := some " team ",
            graphChannelId := some "19:ops" }),
        .regenerate 2 4 "new-token"] = some db' := ⟨_, rfl⟩
  have hlaw := stored_routes_deliverable_of_run rfl rfl h
  cases h
  exact ⟨_, rfl, rfl, hlaw⟩

end TeamsRehook
