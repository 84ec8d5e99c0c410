import TeamsRehook.Lemmas.Targets

/-!
# Restarts do not move routes

The derivation of targets at startup leaves every target as it is, in histories whose operations store the target that
the conversation of a route has, and whose activities tell nothing else of a conversation with routes.
-/

namespace TeamsRehook

/-- What a restart leaves: the target of every route, and targets in Graph that are valid. -/
structure RestartLaw (P : Platform) (now : Int) (db : Database) : Prop where
  unmoved : (backfillWebhookRouteTargets P now db).routes.map (fun route => (route.id, route.deliveryTarget)) =
    db.routes.map fun route => (route.id, route.deliveryTarget)
  valid : ∀ route ∈ (backfillWebhookRouteTargets P now db).routes, routeDeliveryBackend route = "graph" →
    validateTarget route = .ok ()

/-- A route from a conversation that has a reference delivers to the conversation. -/
def WebhookRoute.Placed (P : Platform) (references : List BotConversationReference) (route : WebhookRoute) : Prop :=
  route.fromConversation = true → ∀ reference ∈ references, reference.conversationId = route.botConversationId →
    route.deliveryTarget = (reference.ids P).target

/-! ## What histories are asked for -/

/-- The activity is a `register` with a name that is allowed. -/
def RegistersName (P : Platform) (activity : List (String × Json)) (authorization : Option BotCommandAuthorization)
    (name : String) : Prop :=
  commandOf P activity = some (.register, name) ∧ name ≠ "" ∧ name.length ≤ 200 ∧ ∃ a, authorization = some a ∧
  a.allowed = true

/-- What an activity that captures a reference tells of its conversation is what the routes from there deliver to,
except the one it registers; and it registers no route in a conversation of type `groupchat` outside the scope of chats,
nor in a team without a known id in Graph. -/
structure CapturesTargets (P : Platform) (s : Settings) (activity : List (String × Json))
    (authorization : Option BotCommandAuthorization) (db : Database) : Prop where
  linked : ∀ route ∈ db.routes, route.fromConversation = true →
    route.botConversationId = (extractActivity P activity).conversationId →
    (∃ name organization, RegistersName P activity authorization name ∧
      db.organizations.find? (·.slug == s.defaultOrgSlug) = some organization ∧
        db.botRouteNamed organization.id name = some route) ∨
    route.deliveryTarget = (db.capturedIds P (extractActivity P activity)).target
  registered : ∀ name, RegistersName P activity authorization name →
    (P.lower (extractActivity P activity).conversationType = "groupchat" →
      scopeFor P (extractActivity P activity) = .chat) ∧
    (scopeFor P (extractActivity P activity) = .team → (db.capturedIds P (extractActivity P activity)).graphTeamId ≠ "")

/-- A step stores no target but the one a conversation has, and tells of no other one. -/
def KeepsPlaces (P : Platform) (db : Database) : RouteStep → Prop
  | .activity s run body => ∀ activity db' authorization, activityOfBody P body = .ok (some activity) →
    receiveActivity P s run activity db = .ok (db', authorization) →
    (extractActivity P activity).conversationId ≠ "" → (extractActivity P activity).serviceUrl ≠ "" →
    CapturesTargets P s activity authorization db
  | .create s run organizationId payload => ∀ db', createWebhookRoute P s run organizationId payload db = .ok db' →
    (payload.route P run organizationId db.nextId).targetsGraphUser = true ∨
      (payload.route P run organizationId db.nextId).Placed P db.references
  | .update s run organizationId routeId payload =>
    ∀ db', updateWebhookRoute P s run organizationId routeId payload db = .ok db' →
    ∀ route ∈ db.routes, route.id = routeId →
      (payload.apply route).targetsGraphUser = true ∨ (payload.apply route).Placed P db.references
  | _ => True

/-- The tables: every route from a conversation delivers to it, and every target in Graph is valid. -/
structure Database.RestartSafe (P : Platform) (db : Database) : Prop where
  routeIds : db.RouteIds
  references : db.ReferenceKeys
  placed : ∀ route ∈ db.routes, route.Placed P db.references
  valid : ∀ route ∈ db.routes, routeDeliveryBackend route = "graph" → validateTarget route = .ok ()

namespace RestartTargetsAux

variable {P : Platform} {db db' : Database}

/-! ## Operations that keep targets -/

/-- Routes that keep their targets, in conversations of which nothing else becomes known. -/
theorem restartSafe_of_kept (hx : db.RestartSafe P) (h : TargetsKept P db db') : db'.RestartSafe P := by
  refine ⟨h.routeIds hx.routeIds, h.referenceKeys hx.references, ?_, ?_⟩
  · intro new hnew hfrom reference hreference hconversation
    obtain ⟨old, hold, hkeeps⟩ := h.routes new hnew
    obtain ⟨r, hr, hrc, hids⟩ := h.references reference hreference
    have hfrom : old.fromConversation = true := by
      unfold WebhookRoute.fromConversation at hfrom ⊢
      rw [← hkeeps.source]
      exact hfrom
    rw [hkeeps.target, hids]
    exact hx.placed old hold hfrom r hr (by rw [← hrc, hconversation, hkeeps.conversation])
  · intro new hnew
    obtain ⟨old, hold, hkeeps⟩ := h.routes new hnew
    exact hkeeps.valid (hx.valid old hold)

/-- The name of a reference starts visibly. -/
theorem startsVisibly_referenceTargetName {reference : BotConversationReference} (h : reference.WellFormed) :
    Python.StartsVisibly (referenceTargetName P reference) := by
  have hlabel : ∀ {text : String}, Python.VisibleOrEmpty text → text ≠ "" → Python.StartsVisibly (Python.clip text 200) :=
    fun htext hne => (htext.resolve_left hne).clip (by decide)
  unfold referenceTargetName
  split
  next hnames => exact ((h.teamName.resolve_left hnames.1).append _ |>.append _).clip (by decide)
  · split
    next hchannel => exact hlabel h.channelName hchannel
    · split
      next hteam => exact hlabel h.teamName hteam
      · split
        next hsummary => exact hlabel h.memberSummary hsummary
        · split
          · exact ⟨'G', rfl, rfl⟩
          · refine hlabel (h.userName.orElse (h.graphUserId.orElse (h.userId.orElse (.inr h.conversationId)))) ?_
            unfold Python.orElse
            split
            · split
              · split
                · exact h.conversationId.ne_empty
                · assumption
              · assumption
            · assumption

/-- A restart keeps the target of a route that delivers to its conversation. -/
theorem keepsTarget_backfillRoute (hx : db.RestartSafe P) {route : WebhookRoute}
    (hroute : route ∈ db.routes) (now : Int) : route.KeepsTarget (backfillRoute P now db route) := by
  unfold backfillRoute
  split
  next hfrom =>
    split
    next reference hreference =>
      have hmem : reference ∈ db.references := List.mem_reverse.1 (List.mem_of_find?_eq_some hreference)
      have hconversation : reference.conversationId = route.botConversationId := by simpa using List.find?_some hreference
      have hwellFormed := hx.references.wellFormed reference hmem
      have hkeeps : route.KeepsTarget (backfilledRoute P reference route) := by
        refine ⟨rfl, rfl, rfl, rfl, rfl, ?_, fun _ _ => (startsVisibly_referenceTargetName hwellFormed).strip_ne⟩
        rw [deliveryTarget_backfilledRoute hwellFormed.channel]
        exact (hx.placed route hroute hfrom reference hmem hconversation).symm
      exact hkeeps.flushed now
    next => exact .refl route
  next => exact .refl route

/-- A restart keeps the id of a route. -/
theorem id_backfillRoute (now : Int) (route : WebhookRoute) : (backfillRoute P now db route).id = route.id := by
  unfold backfillRoute
  split
  · split <;> rfl
  · rfl

theorem targetsKept_backfill (hx : db.RestartSafe P) (now : Int) :
    TargetsKept P db (backfillWebhookRouteTargets P now db) := by
  refine .of_routes rfl (le_refl _) (fun h => ⟨?_, ?_⟩) ?_
  · show ((db.routes.map (backfillRoute P now db)).map (·.id)).Nodup
    rw [List.map_map]
    have hids : ((·.id) ∘ backfillRoute P now db : WebhookRoute → Nat) = (·.id) :=
      funext fun route => id_backfillRoute now route
    rw [hids]
    exact h.unique
  · intro new hnew
    obtain ⟨old, hold, rfl⟩ := List.mem_map.1 hnew
    exact (id_backfillRoute now old) ▸ h.fresh old hold
  · intro new hnew
    obtain ⟨old, hold, rfl⟩ := List.mem_map.1 hnew
    exact ⟨old, hold, keepsTarget_backfillRoute hx hold now⟩

/-- Tables that are safe for restarts keep the law. -/
theorem restartLaw_of_safe (hx : db.RestartSafe P) (now : Int) : RestartLaw P now db := by
  refine ⟨?_, (restartSafe_of_kept hx (targetsKept_backfill hx now)).valid⟩
  show (db.routes.map (backfillRoute P now db)).map _ = _
  rw [List.map_map]
  apply List.map_congr_left
  intro route hroute
  simp only [Function.comp, id_backfillRoute, (keepsTarget_backfillRoute hx hroute now).target]

/-! ## Stored routes -/

/-- A stored route that is placed and valid, among others that are. -/
theorem restartSafe_storeRoute {now : Int} {changed : WebhookRoute} (hids : db.RouteIds) (hreferences : db.ReferenceKeys)
    (hother : ∀ route ∈ db.routes, route.id ≠ changed.id → route.Placed P db.references)
    (hvalid : ∀ route ∈ db.routes, routeDeliveryBackend route = "graph" → validateTarget route = .ok ())
    (hplaced : changed.Placed P db.references)
    (hchanged : routeDeliveryBackend changed = "graph" → validateTarget changed = .ok ()) :
    (storeRoute now changed db).RestartSafe P := by
  refine ⟨routeIds_storeRoute hids, ⟨hreferences.unique, hreferences.fresh, hreferences.conversations,
    hreferences.wellFormed⟩,
    ?_, ?_⟩
  · intro new hnew
    obtain ⟨row, hrow, rfl⟩ := Table.mem_update.1 hnew
    split
    next => exact hplaced
    next hne => exact hother row hrow fun hid => hne (beq_iff_eq.2 hid)
  · intro new hnew
    rcases mem_routes_storeRoute hnew with hnew | ⟨row, -, -, rfl⟩
    · exact hvalid new hnew
    · exact hchanged

/-- An inserted route that is placed and valid. -/
theorem restartSafe_insertRoute {now : Int} {row : WebhookRoute} (hx : db.RestartSafe P) (hid : row.id = db.nextId)
    (hplaced : row.Placed P db.references) (hvalid : routeDeliveryBackend row = "graph" → validateTarget row = .ok ())
    (h : insertRoute now row db = .ok db') : db'.RestartSafe P := by
  have hids := (KeepsUrls.insertRoute hid h).ids hx.routeIds
  unfold insertRoute at h
  split at h
  · nomatch h
  · cases h
    refine ⟨hids, ⟨hx.references.unique, fun r hr => Nat.lt_succ_of_lt (hx.references.fresh r hr),
      hx.references.conversations, hx.references.wellFormed⟩, ?_, ?_⟩
    · intro new hnew
      rcases List.mem_append.1 hnew with hnew | hnew
      · exact hx.placed new hnew
      · rw [List.mem_singleton.1 hnew]
        exact hplaced
    · intro new hnew
      rcases List.mem_append.1 hnew with hnew | hnew
      · exact hx.valid new hnew
      · rw [List.mem_singleton.1 hnew]
        exact hvalid

/-- A route that passed the checks is placed when the one that was asked for is: no reference is of a conversation
without an id. -/
theorem placed_of_checked {route row : WebhookRoute} (hreferences : db.ReferenceKeys) (h : route.Checked row)
    (hplaced : route.targetsGraphUser = true ∨ route.Placed P db.references) : row.Placed P db.references := by
  intro hfrom reference hreference hconversation
  cases huser : route.targetsGraphUser with
  | true =>
    have hempty := hconversation.trans (h.materialized huser)
    exact absurd hempty (hreferences.wellFormed reference hreference).conversationId.ne_empty
  | false =>
    obtain ⟨hsource, hof, htarget⟩ := h.kept huser
    rw [htarget]
    refine hplaced.resolve_left (by simp [huser]) ?_ reference hreference (hconversation.trans hof)
    unfold WebhookRoute.fromConversation at hfrom ⊢
    rw [← hsource]
    exact hfrom

/-- A route that is created with the target of its conversation. -/
theorem restartSafe_create {s : Settings} {run : RouteRun} {organizationId : Nat} {payload : WebhookRouteCreate}
    (hx : db.RestartSafe P) (hguard : (payload.route P run organizationId db.nextId).targetsGraphUser = true ∨
      (payload.route P run organizationId db.nextId).Placed P db.references)
    (h : createWebhookRoute P s run organizationId payload db = .ok db') : db'.RestartSafe P := by
  obtain ⟨row, hchecked, hinsert⟩ := createWebhookRoute_eq_ok h
  have hrow := checked_of_checkedRoute (fun r => ⟨rfl, .refl r⟩) hchecked
  exact restartSafe_insertRoute hx hrow.id (placed_of_checked hx.references hrow hguard) (fun _ => hrow.valid) hinsert

/-- A route that is edited to the target of its conversation. -/
theorem restartSafe_update {s : Settings} {run : RouteRun} {organizationId routeId : Nat} {payload : WebhookRouteUpdate}
    (hx : db.RestartSafe P) (hguard : ∀ route ∈ db.routes, route.id = routeId →
      (payload.apply route).targetsGraphUser = true ∨ (payload.apply route).Placed P db.references)
    (h : updateWebhookRoute P s run organizationId routeId payload db = .ok db') : db'.RestartSafe P := by
  obtain ⟨route, hroute, hid, row, hchecked, rfl⟩ := updateWebhookRoute_eq_ok h
  have hrow := checked_of_checkedRoute (settleMembers_keeps route) hchecked
  exact restartSafe_storeRoute hx.routeIds hx.references (fun r hr _ => hx.placed r hr) hx.valid
    (placed_of_checked hx.references hrow (hguard route hroute hid)) fun _ => hrow.valid

/-! ## Activities -/

/-- A route stays placed when the activity tells of its conversation what it delivers to. -/
theorem placed_of_captured {captured : Captured} {reference : Option BotConversationReference} {route : WebhookRoute}
    (hcaptured : ReferencesCaptured P captured reference db db') (hplaced : route.Placed P db.references)
    (hlinked : captured.conversationId ≠ "" → captured.serviceUrl ≠ "" → route.fromConversation = true →
      route.botConversationId = captured.conversationId → route.deliveryTarget = (db.capturedIds P captured).target) :
    route.Placed P db'.references := by
  intro hfrom r hr hconversation
  rcases hcaptured.other r hr with hfound | ⟨hold, hother⟩
  · obtain ⟨hgiven, hservice, hof, hids, -⟩ := hcaptured.found r hfound
    rw [hids]
    exact hlinked hgiven hservice hfrom (hconversation.symm.trans hof)
  · exact hplaced hfrom r hold hconversation

/-- The references of the same table are as well-formed. -/
theorem referenceKeys_of_same (h : db.ReferenceKeys) (hsame : SameReferences db db') : db'.ReferenceKeys := by
  refine ⟨hsame.references ▸ h.unique, ?_, hsame.references ▸ h.conversations, hsame.references ▸ h.wellFormed⟩
  exact fun r hr => lt_of_lt_of_le (h.fresh r (hsame.references ▸ hr)) hsame.nextId

/-- The ids of the same routes. -/
theorem routeIds_of_same (h : db.RouteIds) (hsame : SameRoutes db db') : db'.RouteIds :=
  (KeepsUrls.of_routes hsame.routes hsame.nextId).ids h

/-- The same routes, placed for the references that were captured. -/
theorem restartSafe_of_captured {db₁ : Database} (hx : db.RestartSafe P) (hkeys : db₁.ReferenceKeys)
    (hroutes : SameRoutes db db') (hreferences : SameReferences db₁ db')
    (hplaced : ∀ route ∈ db.routes, route.Placed P db₁.references) : db'.RestartSafe P := by
  refine ⟨routeIds_of_same hx.routeIds hroutes, referenceKeys_of_same hkeys hreferences, ?_, ?_⟩
  · intro route hroute
    rw [hreferences.references]
    exact hplaced route (hroutes.routes ▸ hroute)
  · intro route hroute
    exact hx.valid route (hroutes.routes ▸ hroute)

/-- The route that `register` leaves is placed: its target is the one of the reference that was captured. -/
theorem placed_of_registered {G : GraphNames} {force : Bool} {now : Int} {captured : Captured}
    {found : BotConversationReference} {route row : WebhookRoute}
    (hcaptured : ReferencesCaptured P captured (some found) db db')
    (hgroup : P.lower captured.conversationType = "groupchat" → scopeFor P captured = .chat)
    (hteam : scopeFor P captured = .team → (db.capturedIds P captured).graphTeamId ≠ "")
    (huser : captured.graphUserId ≠ "") (hrow : tryResolveRouteGraphNames G force
      (registeredRoute P now (capturedWithReference captured found) found route) = .ok row) :
    row.Placed P db'.references := by
  obtain ⟨hgiven, hservice, hof, hids, loaded, captureTime, hsame⟩ := hcaptured.found found rfl
  have hteam : scopeFor P captured = .team → found.graphTeamId ≠ "" := fun h => by
    have hteamId : (found.ids P).graphTeamId = (db.capturedIds P captured).graphTeamId := by rw [hids]
    exact (show found.graphTeamId = _ from hteamId) ▸ hteam h
  have htarget := deliveryTarget_registeredRoute hsame hof hgroup hteam huser now route
  have hkeeps := Changed.eq_of_try hrow ▸ keepsTarget_resolve G force
    (registeredRoute P now (capturedWithReference captured found) found route)
  intro _ r hr hconversation
  have hconversation : r.conversationId = captured.conversationId := by
    rw [hconversation, hkeeps.conversation]
    simp [registeredRoute, capturedWithReference, hof]
  rcases hcaptured.other r hr with hfound | ⟨-, hother⟩
  · obtain rfl := Option.some.inj hfound
    exact hkeeps.target.trans htarget
  · exact absurd hconversation (hother hgiven hservice)

/-- What `register` leaves: the route of its name is at the conversation, and the others where they were. -/
theorem restartSafe_register {s : Settings} {run : BotRun} {captured : Captured} {found : BotConversationReference}
    {argument : String} {permissions : BotPermissions} {db₁ db₂ : Database} (hx : db.RestartSafe P)
    (hcaptured : ReferencesCaptured P captured (some found) db db₁) (hroutes : SameRoutes db db₂)
    (hreferences : SameReferences db₁ db₂)
    (hgroup : P.lower captured.conversationType = "groupchat" → scopeFor P captured = .chat)
    (hteam : scopeFor P captured = .team → (db.capturedIds P captured).graphTeamId ≠ "")
    (huser : captured.graphUserId ≠ "") (hother : ∀ route ∈ db.routes,
      db.botRouteNamed (defaultOrganization s db₂).2.id argument ≠ some route →
      route.Placed P db₁.references)
    (hchecked : ¬(argument = "" ∨ 200 < argument.length ∨ captured.serviceUrl = "" ∨ captured.conversationId = ""))
    (h : registerRouteFromCommand P s run captured argument (some found) permissions db₂ =
        .ok db') : db'.RestartSafe P := by
  rw [registerRouteFromCommand_eq hchecked] at h
  obtain ⟨row, hrow, h⟩ := Except.bind_eq_ok_iff.1 h
  obtain ⟨db₄, hstore, h⟩ := Except.bind_eq_ok_iff.1 h
  obtain rfl := Except.ok.inj h
  have hplaced := placed_of_registered hcaptured hgroup hteam huser hrow
  have hkeeps := Changed.eq_of_try hrow ▸ keepsTarget_resolve run.routeNames false (registeredRoute P run.now
    (capturedWithReference captured found) found (routeToRegister P run (defaultOrganization s db₂).2.id argument
      (capturedWithReference captured found) (defaultOrganization s db₂).1))
  have hbackend : routeDeliveryBackend row ≠ "graph" := by
    rw [hkeeps.backend_eq]
    exact (by decide : Python.orElse (Python.strip "bot_framework") "bot_framework" ≠ "graph")
  obtain ⟨_, _, hid⟩ := tryResolveRouteGraphNames_renamed hrow
  -- The default organization may be made first, which changes neither routes nor references.
  have hstart : SameRoutes db (defaultOrganization s db₂).1 ∧ SameReferences db₁ (defaultOrganization s db₂).1 := by
    obtain ⟨_, _, heq, hn⟩ := defaultOrganization_eq s db₂
    rw [heq]
    exact ⟨⟨hroutes.routes, hroutes.events, hroutes.reveals, hroutes.nextId.trans hn⟩,
      ⟨hreferences.references, hreferences.nextId.trans hn⟩⟩
  obtain ⟨hsame, hsameReferences⟩ := hstart
  have hnamed : (defaultOrganization s db₂).1.botRouteNamed (defaultOrganization s db₂).2.id argument =
      db.botRouteNamed (defaultOrganization s db₂).2.id argument := by
    unfold Database.botRouteNamed
    rw [hsame.routes]
  have hstored : db₄.RestartSafe P := by
    unfold storeRegistered at hstore
    split at hstore
    next route hroute =>
      cases hstore
      have hrowId : row.id = route.id := by
        rw [hid]
        simp only [registeredRoute, routeToRegister, hroute]
      refine restartSafe_storeRoute (routeIds_of_same hx.routeIds hsame)
        (referenceKeys_of_same hcaptured.keys hsameReferences) ?_
        (fun r hr => hx.valid r (hsame.routes ▸ hr)) (hsameReferences.references ▸ hplaced) fun h => absurd h hbackend
      intro r hr hne
      rw [hsameReferences.references]
      refine hother r (hsame.routes ▸ hr) fun hr' => hne ?_
      rw [hrowId, ← Option.some.inj (hr'.symm.trans (hnamed.symm.trans hroute))]
    next hroute =>
      have hrowId : row.id = (defaultOrganization s db₂).1.nextId := by
        rw [hid]
        simp only [registeredRoute, routeToRegister, hroute]
      refine restartSafe_insertRoute (restartSafe_of_captured hx hcaptured.keys hsame hsameReferences
        fun r hr => ?_) hrowId
        (hsameReferences.references ▸ hplaced) (fun h => absurd h hbackend) hstore
      exact hother r hr (by rw [← hnamed, hroute]; exact fun h => by cases h)
  split
  · exact restartSafe_of_kept hstored (targetsKept_issueWebhookRevealUrls 0 [row] db₄)
  · exact hstored

/-- An activity keeps the tables safe when it tells of a conversation what its routes deliver to. -/
theorem restartSafe_activity (hlower : P.lower "" = "") {s : Settings} {run : BotRun} {activity : List (String × Json)}
    {authorization : Option BotCommandAuthorization} (hx : db.RestartSafe P)
    (hguard : (extractActivity P activity).conversationId ≠ "" → (extractActivity P activity).serviceUrl ≠ "" →
      CapturesTargets P s activity authorization db)
    (h : receiveActivity P s run activity db = .ok (db', authorization)) : db'.RestartSafe P := by
  obtain ⟨db₁, reference, hupsert, hend⟩ := receiveActivity_end h
  have hcaptured := upsertReference_captured hx.references (wellFormed_extractActivity P activity) hupsert
  rcases hend with ⟨hroutes, hreferences, hdenied⟩ | ⟨db₂, command, argument, a, hrun, rfl, hhandle⟩
  · refine restartSafe_of_captured hx hcaptured.keys hroutes hreferences fun route hroute => ?_
    refine placed_of_captured hcaptured (hx.placed route hroute) fun hgiven hservice hfrom hof => ?_
    rcases (hguard hgiven hservice).linked route hroute hfrom hof with ⟨_, _, ⟨_, _, _, a, ha, hallowed⟩, -, -⟩ | htarget
    · rw [(hdenied a ha).1] at hallowed
      nomatch hallowed
    · exact htarget
  · -- Which route a `register` that is carried out works on, in the tables before it.
    have hregisters : ∀ route, ∀ name organization, RegistersName P activity (some a) name →
        db.organizations.find? (·.slug == s.defaultOrgSlug) = some organization →
        db.botRouteNamed organization.id name = some route →
        command = .register ∧ argument = name ∧ db.botRouteNamed (defaultOrganization s db₂).2.id argument =
        some route := by
      rintro route name organization ⟨hcommand, -, -, -⟩ hfind hroute
      rw [hrun.parsed] at hcommand
      obtain ⟨rfl, rfl⟩ := Prod.mk.inj (Option.some.inj hcommand)
      refine ⟨rfl, rfl, ?_⟩
      rcases hrun.organization with ⟨o, ho, hid⟩ | ⟨hnone, -⟩
      · rw [← hid, ← Option.some.inj (hfind.symm.trans ho)]
        exact hroute
      · exact absurd (hfind.symm.trans hnone) nofun
    by_cases hregister : command = .register ∧ ¬(argument = "" ∨ 200 < argument.length ∨
        (extractActivity P activity).serviceUrl = "" ∨ (extractActivity P activity).conversationId = "")
    · obtain ⟨rfl, hchecked⟩ := hregister
      simp only [not_or, not_lt] at hchecked
      obtain ⟨hname, hlength, hservice, hgiven⟩ := hchecked
      have hcaptures := hguard hgiven hservice
      obtain ⟨found, rfl⟩ := upsertReference_isSome hupsert hgiven hservice
      obtain ⟨hgroup, hteam⟩ := hcaptures.registered argument ⟨hrun.parsed, hname, hlength, a, rfl, hrun.allowed⟩
      have huser : (extractActivity P activity).graphUserId ≠ "" :=
        fun hempty => hrun.sender (by rw [hempty]; exact hlower)
      refine restartSafe_register (s := s) hx hcaptured hrun.routes hrun.references hgroup hteam huser ?_ ?_ hhandle
      · intro route hroute hother
        refine placed_of_captured hcaptured (hx.placed route hroute) fun _ _ hfrom hof => ?_
        rcases hcaptures.linked route hroute hfrom hof with ⟨name, organization, hregisters', hfind, hnamed⟩ | htarget
        · exact absurd (hregisters route name organization hregisters' hfind hnamed).2.2 hother
        · exact htarget
      · simp only [not_or, not_lt]
        exact ⟨hname, hlength, hservice, hgiven⟩
    · have hplaced : ∀ route ∈ db.routes, route.Placed P db₁.references := by
        intro route hroute
        refine placed_of_captured hcaptured (hx.placed route hroute) fun hgiven hservice hfrom hof => ?_
        rcases (hguard hgiven hservice).linked route hroute hfrom hof with ⟨name, organization, hname, hfind,
          hnamed⟩ | htarget
        · obtain ⟨rfl, rfl, -⟩ := hregisters route name organization hname hfind hnamed
          obtain ⟨-, hne, hlength, -⟩ := hname
          refine absurd ⟨rfl, ?_⟩ hregister
          simp only [not_or, not_lt]
          exact ⟨hne, hlength, hservice, hgiven⟩
        · exact htarget
      have hbefore := restartSafe_of_captured hx hcaptured.keys hrun.routes hrun.references hplaced
      by_cases hcommand : command = .register
      · subst hcommand
        have hrefused : argument = "" ∨ 200 < argument.length ∨ (extractActivity P activity).serviceUrl = "" ∨
            (extractActivity P activity).conversationId = "" := by
          by_contra hchecked
          exact hregister ⟨rfl, hchecked⟩
        have hsame : registerRouteFromCommand P s run (extractActivity P activity) argument reference a.permissions
            db₂ = .ok db₂ := by
          unfold registerRouteFromCommand
          cases reference with
          | none => rfl
          | some found => simp only [hrefused, if_true]
        obtain rfl := Except.ok.inj (hsame.symm.trans hhandle)
        exact hbefore
      · have hcommandEnd := handleCommand_end (strip_of_commandOf hrun.parsed) hhandle
        exact restartSafe_of_kept hbefore (hcommandEnd.targetsKept hbefore.routeIds hcommand)

/-- A step that stores the targets of conversations keeps the tables safe for restarts. -/
theorem restartSafe_step (hlower : P.lower "" = "") (step : RouteStep) (hx : db.RestartSafe P)
    (hguard : KeepsPlaces P db step) (h : routeStep P db step = some db') : db'.RestartSafe P := by
  cases step with
  | activity s run body =>
    obtain rfl := Option.some.inj h
    cases hreceive : receiveBotActivity P s run body db with
    | error e => exact hx
    | ok result =>
      obtain ⟨db', authorization⟩ := result
      unfold receiveBotActivity at hreceive
      obtain ⟨activity, hbody, hreceive⟩ := Except.bind_eq_ok_iff.1 hreceive
      cases activity with
      | none =>
        obtain ⟨rfl, -⟩ := Prod.mk.inj (Except.ok.inj hreceive)
        exact hx
      | some activity => exact restartSafe_activity hlower hx (hguard activity db' authorization hbody hreceive) hreceive
  | create s run organizationId payload =>
    obtain rfl := Option.some.inj h
    cases hcreate : createWebhookRoute P s run organizationId payload db with
    | error e => exact hx
    | ok db' => exact restartSafe_create hx (hguard db' hcreate) hcreate
  | update s run organizationId routeId payload =>
    obtain rfl := Option.some.inj h
    cases hupdate : updateWebhookRoute P s run organizationId routeId payload db with
    | error e => exact hx
    | ok db' => exact restartSafe_update hx (hguard db' hupdate) hupdate
  | refreshMembers now fetched valueErrorText organizationId routeId =>
    obtain rfl := Option.some.inj h
    exact restartSafe_of_kept hx (targetsKept_refreshWebhookRouteMembers hx.routeIds now fetched valueErrorText
      organizationId routeId)
  | refreshReferenceMembers now force fetched referenceId =>
    obtain rfl := Option.some.inj h
    exact restartSafe_of_kept hx (targetsKept_refreshBotConversationReferenceMembers hx.references now force
      fetched referenceId)
  | refreshNames s now G organizationId =>
    obtain rfl := Option.some.inj h
    exact restartSafe_of_kept hx (targetsKept_refreshWebhookRouteGraphNames s now G organizationId db)
  | refreshRouteNames s now G organizationId routeId =>
    obtain rfl := Option.some.inj h
    exact restartSafe_of_kept hx (targetsKept_refreshSingleWebhookRouteGraphNames hx.routeIds s now G
      organizationId routeId)
  | deleteRoute organizationId routeId =>
    obtain rfl := Option.some.inj h
    exact restartSafe_of_kept hx (targetsKept_deleteWebhookRoute organizationId routeId db)
  | deleteReference organizationId referenceId deleteLinkedRoutes =>
    obtain rfl := Option.some.inj h
    exact restartSafe_of_kept hx (targetsKept_deleteBotConversationReference organizationId referenceId
      deleteLinkedRoutes db)
  | restart now =>
    obtain rfl := Option.some.inj h
    exact restartSafe_of_kept hx (targetsKept_backfill hx now)

end RestartTargetsAux

open RestartTargetsAux Transition

/-- In every history whose steps store the targets of conversations and tell no other ones, a restart after any step
leaves every target, and targets in Graph stay valid. -/
theorem targets_unmoved_of_run {P : Platform} (hlower : P.lower "" = "") {db db' : Database} {steps : List RouteStep}
    (hroutes : db.routes = []) (hreferences : db.references = []) (hmeets : Meets (routeStep P) (KeepsPlaces P) db steps)
    (h : exec (routeStep P) db steps = some db') (now : Int) : RestartLaw P now db' := by
  have hstart : db.RestartSafe P := by
    refine ⟨⟨?_, by simp [hroutes]⟩, ⟨?_, by simp [hreferences], ?_, by simp [hreferences]⟩, by simp [hroutes],
      by simp [hroutes]⟩
    · rw [hroutes]
      exact List.nodup_nil
    · rw [hreferences]
      exact List.nodup_nil
    · rw [hreferences]
      exact List.nodup_nil
  exact restartLaw_of_safe
    (exec_invariant_of_meets (I := Database.RestartSafe P) (fun _ step _ hx hg => restartSafe_step hlower step hx hg)
      hstart hmeets h) now

/-! ## Fixed inputs -/

/-- Ada registers a route in her personal conversation, and the service restarts. -/
theorem targets_unmoved_registered :
    ∃ db', exec (routeStep (.bodyOfAda "register alerts")) adaDatabase [.activity {} offlineRun [0], .restart 1] =
      some db' ∧ db'.routes.map (·.deliveryTarget) = [⟨"user", "ada", "", ""⟩] ∧
      RestartLaw (.bodyOfAda "register alerts") 2 db' := by
  obtain ⟨db', h⟩ : ∃ db', exec (routeStep (.bodyOfAda "register alerts")) adaDatabase
      [.activity {} offlineRun [0], .restart 1] = some db' := ⟨_, rfl⟩
  have hmeets : Meets (routeStep (.bodyOfAda "register alerts")) (KeepsPlaces (.bodyOfAda "register alerts")) adaDatabase
      [.activity {} offlineRun [0], .restart 1] := by
    refine ⟨?_, fun _ _ => ⟨trivial, fun _ _ => trivial⟩⟩
    rintro activity db₁ authorization hbody - - -
    obtain rfl : personalMessageOfAda "register alerts" = activity := by
      cases hbody
      rfl
    refine ⟨fun _ hroute => (nomatch hroute), fun name _ => ⟨fun hgroup => ?_, fun hteam => ?_⟩⟩
    · exact absurd hgroup (by decide)
    · exact absurd hteam (by decide)
  have hlaw := targets_unmoved_of_run rfl rfl rfl hmeets h 2
  cases h
  exact ⟨_, rfl, rfl, hlaw⟩

/-- Ada registers a route in her personal conversation and an admin lets it deliver to a chat through Graph: the next
restart points it at Ada again, which is no target that Graph delivers to. -/
theorem edited_route_moved :
    ∃ db', exec (routeStep (.bodyOfAda "register alerts")) adaDatabase
        [.activity {} offlineRun [0],
          .update {} { now := 1, oneOnOneChat := fun _ _ _ => .error .valueError } 1 4
            { deliveryBackend := some .graph, graphTargetKind := some .chat, graphTargetId := some "19:ops" }] =
            some db' ∧
      db'.routes.map (·.deliveryTarget) = [⟨"chat", "19:ops", "", ""⟩] ∧
      (backfillWebhookRouteTargets (.bodyOfAda "register alerts") 2 db').routes.map (·.deliveryTarget) =
      [⟨"user", "ada", "", ""⟩] ∧ (backfillWebhookRouteTargets (.bodyOfAda "register alerts") 2 db').routes.map
      (fun route => (validateTarget route).toOption) =
        [none] ∧
      ¬RestartLaw (.bodyOfAda "register alerts") 2 db' := by
  refine ⟨_, rfl, rfl, rfl, rfl, fun hlaw => ?_⟩
  have hunmoved := hlaw.unmoved
  revert hunmoved
  decide

end TeamsRehook
