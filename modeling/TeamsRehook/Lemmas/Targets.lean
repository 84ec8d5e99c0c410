import TeamsRehook.Lemmas.References

/-!
# Operations that keep targets

Which operations leave the target of every route, and what is known of the conversations, as they are: all but the
handling of an activity, and creating and editing a route.
-/

namespace TeamsRehook

/-! ## Valid targets -/

/-- The name of a valid target is not blank. -/
theorem targetName_of_validateTarget {route : WebhookRoute} (h : validateTarget route = .ok ()) :
    Python.strip route.targetName ≠ "" := by
  intro hname
  unfold validateTarget at h
  simp only [hname, if_true] at h
  split_ifs at h

/-- A target stays valid when only its name changes, to one that is not blank. -/
theorem validateTarget_of_same {old new : WebhookRoute} (h : validateTarget old = .ok ())
    (hbackend : new.deliveryBackend = old.deliveryBackend) (htype : new.targetType = old.targetType)
    (hservice : new.botServiceUrl = old.botServiceUrl) (hconversation : new.botConversationId = old.botConversationId)
    (htarget : new.deliveryTarget = old.deliveryTarget) (hname : Python.strip new.targetName ≠ "") :
        validateTarget new = .ok () := by
  obtain ⟨hkind, hid, hteam, hchannel⟩ := DeliveryTarget.mk.inj htarget
  have hold := targetName_of_validateTarget h
  unfold validateTarget routeDeliveryBackend at h ⊢
  simp only [hold, if_false] at h
  simp only [hbackend, htype, hservice, hconversation, hkind, hid, hteam, hchannel, hname, if_false]
  exact h

/-- The kind of a valid target in Graph. -/
theorem kind_of_validateTarget {route : WebhookRoute} (hgraph : routeDeliveryBackend route = "graph")
    (h : validateTarget route = .ok ()) :
    Python.strip route.graphTargetKind = "channel" ∨ Python.strip route.graphTargetKind = "chat" := by
  by_contra hkind
  obtain ⟨hchannel, hchat⟩ := not_or.1 hkind
  unfold validateTarget at h
  simp only [hgraph, hchannel, hchat] at h
  split_ifs at h
  simp_all

/-! ## Routes -/

/-- A route keeps its target and where it came from; its name may change, but not to a blank one when the target is
valid in Graph. -/
structure WebhookRoute.KeepsTarget (old new : WebhookRoute) : Prop where
  source : new.botTargetSource = old.botTargetSource
  backend : new.deliveryBackend = old.deliveryBackend
  type : new.targetType = old.targetType
  service : new.botServiceUrl = old.botServiceUrl
  conversation : new.botConversationId = old.botConversationId
  target : new.deliveryTarget = old.deliveryTarget
  name : routeDeliveryBackend old = "graph" → validateTarget old = .ok () → Python.strip new.targetName ≠ ""

namespace WebhookRoute

variable {old mid new : WebhookRoute}

theorem KeepsTarget.backend_eq (h : old.KeepsTarget new) : routeDeliveryBackend new = routeDeliveryBackend old := by
  unfold routeDeliveryBackend
  rw [h.backend]

/-- A target that is kept stays valid in Graph. -/
theorem KeepsTarget.valid (h : old.KeepsTarget new)
    (hold : routeDeliveryBackend old = "graph" → validateTarget old = .ok ()) :
    routeDeliveryBackend new = "graph" → validateTarget new = .ok () := by
  intro hgraph
  have hgraph := h.backend_eq ▸ hgraph
  exact validateTarget_of_same (hold hgraph) h.backend h.type h.service h.conversation h.target
    (h.name hgraph (hold hgraph))

/-- A route with its name keeps its target. -/
theorem KeepsTarget.of_name (hsource : new.botTargetSource = old.botTargetSource)
    (hbackend : new.deliveryBackend = old.deliveryBackend) (htype : new.targetType = old.targetType)
    (hservice : new.botServiceUrl = old.botServiceUrl) (hconversation : new.botConversationId = old.botConversationId)
    (htarget : new.deliveryTarget = old.deliveryTarget) (hname : new.targetName = old.targetName) : old.KeepsTarget new :=
  ⟨hsource, hbackend, htype, hservice, hconversation, htarget, fun _ h => hname ▸ targetName_of_validateTarget h⟩

theorem KeepsTarget.refl (route : WebhookRoute) : route.KeepsTarget route := .of_name rfl rfl rfl rfl rfl rfl rfl

theorem KeepsTarget.trans (h : old.KeepsTarget mid) (h' : mid.KeepsTarget new) : old.KeepsTarget new := by
  refine ⟨h'.source.trans h.source, h'.backend.trans h.backend, h'.type.trans h.type, h'.service.trans h.service,
    h'.conversation.trans h.conversation, h'.target.trans h.target, fun hgraph hvalid => ?_⟩
  have hmid := h.backend_eq.trans hgraph
  exact h'.name hmid (h.valid (fun _ => hvalid) hmid)

/-- The row of a route that was flushed. -/
theorem KeepsTarget.flushed {row : WebhookRoute} (h : old.KeepsTarget new) (now : Int) :
    old.KeepsTarget (row.flushed now new) :=
  ⟨h.source, h.backend, h.type, h.service, h.conversation, h.target, h.name⟩

end WebhookRoute

/-- The name a route gets from Graph: its own, one with its team and its channel, or another one when it delivers to a
team or a user. -/
theorem targetName_resolveRouteGraphNames (G : GraphNames) (force : Bool) (route : WebhookRoute) :
    let row := (resolveRouteGraphNames G force route).1
    row.targetName = route.targetName ∨ (∃ team channel, row.targetName = team ++ " / " ++ channel) ∨
      route.graphTargetKind = "team" ∨ route.graphTargetKind = "user" := by
  let I (row : WebhookRoute) : Prop := row.graphTargetKind = route.graphTargetKind ∧
    (row.targetName = route.targetName ∨ (∃ team channel, row.targetName = team ++ " / " ++ channel) ∨
      route.graphTargetKind = "team" ∨ route.graphTargetKind = "user")
  suffices h : I (resolveRouteGraphNames G force route).1 from h.2
  unfold resolveRouteGraphNames
  apply Changed.andThen_invariant
  · exact named_invariant (I := I) ⟨rfl, .inl rfl⟩ fun name _ _ => ⟨rfl, .inl rfl⟩
  · rintro row ⟨hkind, hname⟩
    dsimp only
    split
    · unfold resolveTargetName
      split
      · exact ⟨hkind, .inr (.inl ⟨_, _, rfl⟩)⟩
      · split
        next hteam => exact ⟨hkind, .inr (.inr (.inl (hkind ▸ hteam.1)))⟩
        next =>
          unfold named
          split
          next hwanted =>
            have huser : route.graphTargetKind = "user" := by
              simp only [Bool.and_eq_true, beq_iff_eq] at hwanted
              exact hkind ▸ hwanted.1.1
            split
            · split
              · exact ⟨hkind, hname⟩
              · exact ⟨hkind, .inr (.inr (.inr huser))⟩
            · exact ⟨hkind, hname⟩
          next => exact ⟨hkind, hname⟩
    · exact ⟨hkind, hname⟩

/-- A name with a slash is not blank. -/
theorem strip_slashed (team channel : String) : Python.strip (team ++ " / " ++ channel) ≠ "" := by
  intro h
  have hslash : '/' ∈ (team ++ " / " ++ channel).toList := by simp
  nomatch Python.strip_eq_empty_iff.1 h '/' hslash

/-- Names from Graph keep the target. -/
theorem keepsTarget_resolve (G : GraphNames) (force : Bool) (route : WebhookRoute) :
    route.KeepsTarget (resolveRouteGraphNames G force route).1 := by
  have hname := targetName_resolveRouteGraphNames G force route
  obtain ⟨teamName, name, hrow⟩ := resolveRouteGraphNames_renamed G force route
  rw [hrow] at hname ⊢
  refine ⟨rfl, rfl, rfl, rfl, rfl, rfl, fun hgraph hvalid => ?_⟩
  rcases hname with hsame | ⟨team, channel, hslashed⟩ | hkind | hkind
  · exact hsame ▸ targetName_of_validateTarget hvalid
  · rw [hslashed]
    exact strip_slashed team channel
  · have := kind_of_validateTarget hgraph hvalid
    rw [hkind] at this
    exact absurd this (by decide)
  · have := kind_of_validateTarget hgraph hvalid
    rw [hkind] at this
    exact absurd this (by decide)

/-- Members that were fetched keep the target. -/
theorem keepsTarget_refreshRouteMembers {now : Int} {fetched : Except Exn ConversationMembers} {valueErrorText : String}
    {route row : WebhookRoute} (h : refreshRouteMembers now fetched valueErrorText route = .ok row) :
    route.KeepsTarget row := by
  unfold refreshRouteMembers at h
  split at h
  · split at h
    next members =>
      cases h
      refine ⟨rfl, rfl, rfl, rfl, rfl, rfl, fun _ hvalid => ?_⟩
      dsimp only
      split
      next => exact targetName_of_validateTarget hvalid
      next hsummary => exact ((members.labelled.resolve_left hsummary).clip (by decide)).strip_ne
    next e =>
      split at h
      · cases h
        exact .of_name rfl rfl rfl rfl rfl rfl rfl
      · nomatch h
  · cases h
    exact .of_name rfl rfl rfl rfl rfl rfl rfl

/-! ## Tables -/

/-- No route gets another target, no route is added, and nothing else becomes known of a conversation. -/
structure TargetsKept (P : Platform) (db db' : Database) : Prop where
  routeIds : db.RouteIds → db'.RouteIds
  referenceKeys : db.ReferenceKeys → db'.ReferenceKeys
  routes : ∀ new ∈ db'.routes, ∃ old ∈ db.routes, old.KeepsTarget new
  references : ∀ new ∈ db'.references, ∃ old ∈ db.references, new.conversationId = old.conversationId ∧
    new.ids P = old.ids P

section Tables

variable {P : Platform} {db db' : Database}

theorem TargetsKept.refl (db : Database) : TargetsKept P db db :=
  ⟨id, id, fun route h => ⟨route, h, .refl route⟩, fun reference h => ⟨reference, h, rfl, rfl⟩⟩

theorem TargetsKept.trans {db₁ : Database} (h : TargetsKept P db db₁) (h' : TargetsKept P db₁ db') :
    TargetsKept P db db' := by
  refine ⟨h'.routeIds ∘ h.routeIds, h'.referenceKeys ∘ h.referenceKeys, ?_, ?_⟩
  · intro new hnew
    obtain ⟨mid, hmid, hkeeps'⟩ := h'.routes new hnew
    obtain ⟨old, hold, hkeeps⟩ := h.routes mid hmid
    exact ⟨old, hold, hkeeps.trans hkeeps'⟩
  · intro new hnew
    obtain ⟨mid, hmid, hconversation', hids'⟩ := h'.references new hnew
    obtain ⟨old, hold, hconversation, hids⟩ := h.references mid hmid
    exact ⟨old, hold, hconversation'.trans hconversation, hids'.trans hids⟩

/-- The same references. -/
theorem TargetsKept.of_routes (hreferences : db'.references = db.references) (hn : db.nextId ≤ db'.nextId)
    (hids : db.RouteIds → db'.RouteIds) (hroutes : ∀ new ∈ db'.routes, ∃ old ∈ db.routes, old.KeepsTarget new) :
    TargetsKept P db db' := by
  refine ⟨hids, fun h => ?_, hroutes, ?_⟩
  · refine ⟨hreferences ▸ h.unique, ?_, hreferences ▸ h.conversations, hreferences ▸ h.wellFormed⟩
    exact fun r hr => lt_of_lt_of_le (h.fresh r (hreferences ▸ hr)) hn
  · exact fun r hr => ⟨r, hreferences ▸ hr, rfl, rfl⟩

/-- A stored route that keeps its target. -/
theorem targetsKept_storeRoute {now : Int} {route changed : WebhookRoute} (hids : db.RouteIds)
    (hroute : route ∈ db.routes) (hid : changed.id = route.id) (hkeeps : route.KeepsTarget changed) :
    TargetsKept P db (storeRoute now changed db) := by
  refine .of_routes rfl (le_refl _) routeIds_storeRoute fun new hnew => ?_
  rcases mem_routes_storeRoute hnew with hnew | ⟨row, hrow, hrowid, rfl⟩
  · exact ⟨new, hnew, .refl new⟩
  · refine ⟨row, hrow, ?_⟩
    rw [hids.unique.eq_of_mem hrow hroute (hrowid.trans hid)]
    exact hkeeps.flushed now

/-- Deleting a route keeps the targets of the others. -/
theorem targetsKept_deleteRoute (routeId : Nat) (db : Database) : TargetsKept P db (deleteRoute routeId db) :=
  .of_routes rfl (le_refl _) (KeepsUrls.deleteRoute routeId db).ids fun new hnew =>
    ⟨new, (Table.mem_delete.1 hnew).1, .refl new⟩

theorem targetsKept_foldl_deleteRoute (routes : List WebhookRoute) (db : Database) :
    TargetsKept P db (routes.foldl (fun db route => deleteRoute route.id db) db) := by
  induction routes generalizing db with
  | nil => exact .refl db
  | cons route routes ih => exact (targetsKept_deleteRoute route.id db).trans (ih _)

/-- Deleting a route keeps the targets of the others. -/
theorem targetsKept_deleteWebhookRoute (organizationId routeId : Nat) (db : Database) :
    TargetsKept P db (committed db (deleteWebhookRoute organizationId routeId db)) := by
  unfold deleteWebhookRoute
  cases getOrgRoute organizationId routeId db with
  | error e => exact .refl db
  | ok route => exact targetsKept_deleteRoute route.id db

/-- Deleting a reference keeps the targets of the routes that are left. -/
theorem targetsKept_deleteBotConversationReference (organizationId referenceId : Nat) (deleteLinkedRoutes : Bool)
    (db : Database) : TargetsKept P db (committed db (deleteBotConversationReference organizationId referenceId
      deleteLinkedRoutes db)) := by
  unfold deleteBotConversationReference
  split
  · exact .refl db
  next reference _ =>
    dsimp only
    split
    · exact .refl db
    · refine (targetsKept_foldl_deleteRoute (findRoutesForConversationReference organizationId reference db) db).trans ?_
      refine ⟨fun h => ⟨h.unique, h.fresh⟩, fun h => ?_, fun new hnew => ⟨new, hnew, .refl new⟩, ?_⟩
      · exact ⟨Table.uniqueOn_delete h.unique, fun r hr => h.fresh r (Table.mem_delete.1 hr).1,
          Table.uniqueOn_delete h.conversations, fun r hr => h.wellFormed r (Table.mem_delete.1 hr).1⟩
      · exact fun r hr => ⟨r, (Table.mem_delete.1 hr).1, rfl, rfl⟩

/-- The route an endpoint works on is stored. -/
theorem mem_of_getOrgRoute {organizationId routeId : Nat} {route : WebhookRoute}
    (h : getOrgRoute organizationId routeId db = .ok route) : route ∈ db.routes ∧ route.id = routeId := by
  unfold getOrgRoute at h
  split at h
  next found hfound =>
    cases h
    have hmatches := List.find?_some hfound
    simp only [Bool.and_eq_true, beq_iff_eq] at hmatches
    exact ⟨List.mem_of_find?_eq_some hfound, hmatches.1⟩
  next => nomatch h

/-- A route that was refreshed keeps its id. -/
theorem id_refreshRouteMembers {now : Int} {fetched : Except Exn ConversationMembers} {valueErrorText : String}
    {route row : WebhookRoute} (h : refreshRouteMembers now fetched valueErrorText route = .ok row) :
    row.id = route.id := by
  unfold refreshRouteMembers at h
  split at h
  · split at h
    · cases h
      rfl
    · split at h
      · cases h
        rfl
      · nomatch h
  · cases h
    rfl

/-- Refreshing the members of a route keeps the targets. -/
theorem targetsKept_refreshWebhookRouteMembers (hids : db.RouteIds) (now : Int) (fetched : Except Exn ConversationMembers)
    (valueErrorText : String) (organizationId routeId : Nat) :
    TargetsKept P db (committed db (refreshWebhookRouteMembers now fetched valueErrorText organizationId
      routeId db)) := by
  cases h : refreshWebhookRouteMembers now fetched valueErrorText organizationId routeId db with
  | error e => exact .refl db
  | ok db' =>
    obtain ⟨route, hroute, h⟩ := Except.bind_eq_ok_iff.1 h
    obtain ⟨row, hrow, h⟩ := Except.bind_eq_ok_iff.1 h
    cases h
    exact targetsKept_storeRoute hids (mem_of_getOrgRoute hroute).1 (id_refreshRouteMembers hrow)
      (keepsTarget_refreshRouteMembers hrow)

/-- A stored reference of the same conversation. -/
theorem targetsKept_storeReference {now : Int} {reference changed : BotConversationReference} (hkeys : db.ReferenceKeys)
    (hreference : reference ∈ db.references) (hsame : reference.SameConversation changed) :
    TargetsKept P db (storeReference now changed db) := by
  have hrow : ∀ row ∈ db.references, (row.id == changed.id) = true → row.SameConversation (row.flushed now changed) := by
    intro row hrow hid
    rw [hkeys.unique.eq_of_mem hrow hreference ((beq_iff_eq.1 hid).trans hsame.id)]
    exact hsame.flushed now
  refine ⟨fun h => ⟨h.unique, h.fresh⟩, fun _ => ⟨?_, ?_, ?_, ?_⟩, fun new hnew => ⟨new, hnew, .refl new⟩, ?_⟩
  · exact Table.uniqueOn_update_of_mem hkeys.unique fun row hr hid => (hrow row hr hid).id
  · exact Table.forall_mem_update hkeys.fresh fun row hr hid => (hrow row hr hid).id ▸ hkeys.fresh row hr
  · exact Table.uniqueOn_update_of_mem hkeys.conversations fun row hr hid => (hrow row hr hid).conversationId
  · exact Table.forall_mem_update hkeys.wellFormed fun row hr hid =>
      (hrow row hr hid).wellFormed (hkeys.wellFormed row hr)
  · intro new hnew
    obtain ⟨row, hr, rfl⟩ := Table.mem_update.1 hnew
    split
    next hid => exact ⟨row, hr, (hrow row hr hid).conversationId, (hrow row hr hid).ids⟩
    next => exact ⟨row, hr, rfl, rfl⟩

/-- Refreshing the members of a conversation keeps the targets. -/
theorem targetsKept_refreshBotConversationReferenceMembers (hkeys : db.ReferenceKeys) (now : Int) (force : Bool)
    (fetched : Except Exn ConversationMembers) (referenceId : Nat) :
    TargetsKept P db (committed db (refreshBotConversationReferenceMembers P now force fetched referenceId db)) := by
  unfold refreshBotConversationReferenceMembers
  split
  · exact .refl db
  next reference hreference =>
    cases hrefreshed : refreshReferenceChatMembers P now force fetched reference with
    | error e => exact .refl db
    | ok changed =>
      exact targetsKept_storeReference hkeys (List.mem_of_find?_eq_some hreference)
        (BotConversationReference.sameConversation_refresh hrefreshed)

/-- The row that a lookup changed, when it raised nothing. -/
theorem Changed.eq_of_raised {ρ : Type} {x : Changed ρ} {row : ρ} (h : x.raised = .ok row) : row = x.1 := by
  unfold Changed.raised at h
  split at h
  · exact (Except.ok.inj h).symm
  · nomatch h

/-- Rows computed one by one from the rows of a table have the keys of the table when each one has its row's. -/
theorem map_eq_of_forall₂ {ρ κ : Type} {R : ρ → ρ → Prop} {key : ρ → κ} {rows rows' : List ρ}
    (h : List.Forall₂ R rows rows') (hkey : ∀ row row', R row row' → key row' = key row) :
    rows'.map key = rows.map key := by
  induction h with
  | nil => rfl
  | cons hrow _ ih => rw [List.map_cons, List.map_cons, hkey _ _ hrow, ih]

/-- Every computed row comes from a row of the table. -/
theorem exists_of_forall₂ {ρ : Type} {R : ρ → ρ → Prop} {rows rows' : List ρ} (h : List.Forall₂ R rows rows') :
    ∀ row' ∈ rows', ∃ row ∈ rows, R row row' := by
  induction h with
  | nil => exact fun _ h => nomatch h
  | cons hrow _ ih =>
    intro row' hrow'
    rcases List.mem_cons.1 hrow' with rfl | hrow'
    · exact ⟨_, List.mem_cons_self, hrow⟩
    · obtain ⟨row, hmem, hR⟩ := ih row' hrow'
      exact ⟨row, List.mem_cons_of_mem _ hmem, hR⟩

/-- Refreshing all names keeps the targets. -/
theorem targetsKept_refreshWebhookRouteGraphNames (s : Settings) (now : Int) (G : GraphNames) (organizationId : Nat)
    (db : Database) : TargetsKept P db (committed db (refreshWebhookRouteGraphNames s now G organizationId db)) := by
  cases h : refreshWebhookRouteGraphNames s now G organizationId db with
  | error e => exact .refl db
  | ok db' =>
    obtain ⟨_, -, h⟩ := Except.bind_eq_ok_iff.1 h
    obtain ⟨references, hreferences, h⟩ := Except.bind_eq_ok_iff.1 h
    obtain ⟨routes, hroutes, h⟩ := Except.bind_eq_ok_iff.1 h
    cases h
    have hreferences := Except.mapM_eq_ok_iff.1 hreferences
    have hroutes := Except.mapM_eq_ok_iff.1 hroutes
    have hreference : ∀ row row', (resolveReferenceGraphNames G true row).raised.map (row.flushed now) = .ok row' →
        row.SameConversation row' := by
      intro row row' h
      obtain ⟨changed, hchanged, rfl⟩ := Except.map_eq_ok_iff.1 h
      rw [Changed.eq_of_raised hchanged]
      exact (BotConversationReference.sameConversation_resolve G true row).flushed now
    have hroute : ∀ row row', (if row.organizationId = organizationId then
        (resolveRouteGraphNames G true row).raised.map (row.flushed now) else .ok row) = .ok row' →
        row'.id = row.id ∧ row.KeepsTarget row' := by
      intro row row' h
      split at h
      · obtain ⟨changed, hchanged, rfl⟩ := Except.map_eq_ok_iff.1 h
        rw [Changed.eq_of_raised hchanged]
        refine ⟨?_, (keepsTarget_resolve G true row).flushed now⟩
        obtain ⟨_, _, heq⟩ := resolveRouteGraphNames_renamed G true row
        rw [heq]
        rfl
      · cases h
        exact ⟨rfl, .refl row⟩
    have hrouteIds : routes.map (·.id) = db.routes.map (·.id) :=
      map_eq_of_forall₂ hroutes fun row row' h => (hroute row row' h).1
    have hreferenceIds : references.map (·.id) = db.references.map (·.id) :=
      map_eq_of_forall₂ hreferences fun row row' h => (hreference row row' h).id
    have hconversationIds : references.map (·.conversationId) = db.references.map (·.conversationId) :=
      map_eq_of_forall₂ hreferences fun row row' h => (hreference row row' h).conversationId
    refine ⟨fun h => ⟨?_, ?_⟩, fun h => ⟨?_, ?_, ?_, ?_⟩, ?_, ?_⟩
    · show (routes.map (·.id)).Nodup
      rw [hrouteIds]
      exact h.unique
    · intro new hnew
      obtain ⟨old, hold, hrow⟩ := exists_of_forall₂ hroutes new hnew
      exact (hroute old new hrow).1 ▸ h.fresh old hold
    · show (references.map (·.id)).Nodup
      rw [hreferenceIds]
      exact h.unique
    · intro new hnew
      obtain ⟨old, hold, hrow⟩ := exists_of_forall₂ hreferences new hnew
      exact (hreference old new hrow).id ▸ h.fresh old hold
    · show (references.map (·.conversationId)).Nodup
      rw [hconversationIds]
      exact h.conversations
    · intro new hnew
      obtain ⟨old, hold, hrow⟩ := exists_of_forall₂ hreferences new hnew
      exact (hreference old new hrow).wellFormed (h.wellFormed old hold)
    · intro new hnew
      obtain ⟨old, hold, hrow⟩ := exists_of_forall₂ hroutes new hnew
      exact ⟨old, hold, (hroute old new hrow).2⟩
    · intro new hnew
      obtain ⟨old, hold, hrow⟩ := exists_of_forall₂ hreferences new hnew
      exact ⟨old, hold, (hreference old new hrow).conversationId, (hreference old new hrow).ids⟩

/-- Refreshing the names of a route keeps the targets. -/
theorem targetsKept_refreshSingleWebhookRouteGraphNames (hids : db.RouteIds) (s : Settings) (now : Int) (G : GraphNames)
    (organizationId routeId : Nat) :
    TargetsKept P db (committed db (refreshSingleWebhookRouteGraphNames s now G organizationId routeId db)) := by
  cases h : refreshSingleWebhookRouteGraphNames s now G organizationId routeId db with
  | error e => exact .refl db
  | ok db' =>
    obtain ⟨route, hroute, h⟩ := Except.bind_eq_ok_iff.1 h
    obtain ⟨_, -, h⟩ := Except.bind_eq_ok_iff.1 h
    obtain ⟨row, hrow, h⟩ := Except.bind_eq_ok_iff.1 h
    cases h
    rw [Changed.eq_of_raised hrow]
    have hid : (resolveRouteGraphNames G true route).1.id = route.id := by
      obtain ⟨_, _, heq⟩ := resolveRouteGraphNames_renamed G true route
      rw [heq]
    exact targetsKept_storeRoute hids (mem_of_getOrgRoute hroute).1 hid (keepsTarget_resolve G true route)

end Tables

/-! ## Commands other than `register` -/

section Commands

variable {P : Platform} {s : Settings} {run : BotRun} {db db' : Database}

/-- The default organization changes no target. -/
theorem targetsKept_defaultOrganization (s : Settings) (db : Database) :
    TargetsKept P db (defaultOrganization s db).1 := by
  obtain ⟨_, _, heq, hn⟩ := defaultOrganization_eq s db
  rw [heq]
  exact .of_routes rfl hn (fun h => ⟨h.unique, fun route hr => lt_of_lt_of_le (h.fresh route hr) hn⟩)
    fun route hr => ⟨route, hr, .refl route⟩

/-- Reveal tokens change no target. -/
theorem targetsKept_issueWebhookRevealUrls (n : Nat) (revealed : List WebhookRoute) (db : Database) :
    TargetsKept P db (issueWebhookRevealUrls P s run n revealed db) := by
  obtain ⟨_, _, heq, hn⟩ := issueWebhookRevealUrls_eq P s run n revealed db
  rw [heq]
  exact .of_routes rfl hn (fun h => ⟨h.unique, fun route hr => lt_of_lt_of_le (h.fresh route hr) hn⟩)
    fun route hr => ⟨route, hr, .refl route⟩

/-- A command other than `register` keeps the targets. -/
theorem CommandEnd.targetsKept {captured : Captured} {reference : Option BotConversationReference} {command : BotCommand}
    {argument : String} {permissions : BotPermissions} (hids : db.RouteIds) (hcommand : command ≠ .register)
    (h : CommandEnd P s run captured reference command argument permissions db db') : TargetsKept P db db' := by
  obtain ⟨db₁, db₂, n, revealed, hstart, heffect, rfl, -, -⟩ := h.exists_effect
  have hstarted : TargetsKept P db db₁ := by
    rcases hstart with rfl | rfl
    · exact .refl db₁
    · exact targetsKept_defaultOrganization s db
  refine (hstarted.trans ?_).trans (targetsKept_issueWebhookRevealUrls n revealed db₂)
  have hids₁ := hstarted.routeIds hids
  cases heffect with
  | unchanged => exact .refl db₁
  | setActive isActive _ hroute => exact targetsKept_storeRoute hids₁ hroute rfl (.of_name rfl rfl rfl rfl rfl rfl rfl)
  | setAccess mode allowlist hroute =>
    exact targetsKept_storeRoute hids₁ hroute rfl (.of_name rfl rfl rfl rfl rfl rfl rfl)
  | delete => exact targetsKept_deleteRoute _ db₁
  | update => exact absurd rfl hcommand
  | create => exact absurd rfl hcommand

end Commands

/-! ## Created and edited routes -/

/-- What the checks of an endpoint leave of a route: its target is valid, and it is the one that was asked for, or the
chat with a user, which has no conversation of the bot. -/
structure WebhookRoute.Checked (route row : WebhookRoute) : Prop where
  id : row.id = route.id
  valid : validateTarget row = .ok ()
  materialized : route.targetsGraphUser = true → row.botConversationId = ""
  kept : route.targetsGraphUser = false → row.botTargetSource = route.botTargetSource ∧
    row.botConversationId = route.botConversationId ∧ row.deliveryTarget = route.deliveryTarget

/-- What a check gives when its `ValueError` is answered. -/
theorem eq_ok_of_orBadRequest {α : Type} {detail : String} {x : Except Exn α} {a : α}
    (h : orBadRequest detail x = .ok a) : x = .ok a := by
  unfold orBadRequest at h
  split at h
  · nomatch h
  · exact h

/-- The checks of an access rule change the rule only, to one in its stored form. -/
theorem validateClientIpAccess_eq {P : Platform} {route row : WebhookRoute}
    (h : validateClientIpAccess P route = .ok row) :
    ∃ mode allowlist, StoredAccess P mode allowlist ∧
      row = { route with clientIpAccessMode := mode, clientIpAllowlist := allowlist } := by
  obtain ⟨mode, hmode, h⟩ := Except.bind_eq_ok_iff.1 h
  obtain ⟨allowlist, hallowlist, h⟩ := Except.bind_eq_ok_iff.1 h
  split at h
  next hpublic => exact ⟨mode, "", .inl ⟨hpublic, rfl⟩, (Except.ok.inj h).symm⟩
  next hother =>
    split at h
    · nomatch h
    next hgiven =>
      refine ⟨mode, allowlist, .inr ⟨?_, hgiven, _, eq_ok_of_orBadRequest hallowlist⟩, (Except.ok.inj h).symm⟩
      have hmode := eq_ok_of_orBadRequest hmode
      unfold normalizeClientIpAccessMode at hmode
      dsimp only at hmode
      split at hmode
      next hknown =>
        obtain rfl := Except.ok.inj hmode
        exact hknown.resolve_left hother
      next => nomatch hmode

/-- A user becomes a chat without a conversation of the bot; another target stays. -/
theorem materializeGraphUserTarget_cases {run : RouteRun} {route row : WebhookRoute}
    (h : materializeGraphUserTarget run route = .ok row) :
    row.id = route.id ∧ (route.targetsGraphUser = true → row.botConversationId = "") ∧
    (route.targetsGraphUser = false → row = route) := by
  unfold materializeGraphUserTarget at h
  split at h
  next hother =>
    cases h
    exact ⟨rfl, fun huser => absurd (hother.symm.trans huser) Bool.false_ne_true, fun _ => rfl⟩
  next huser =>
    dsimp only at h
    split at h
    · nomatch h
    · split at h
      · nomatch h
      · nomatch h
      · cases h
        exact ⟨rfl, fun _ => rfl, fun hother => absurd hother huser⟩

/-- The checks of an endpoint, one after the other. -/
theorem checkedRoute_eq_ok {P : Platform} {s : Settings} {run : RouteRun} {settled : WebhookRoute → WebhookRoute}
    {route row : WebhookRoute} (h : checkedRoute P s run settled route = .ok row) :
    ∃ mode allowlist chat, StoredAccess P mode allowlist ∧
      materializeGraphUserTarget run { route with clientIpAccessMode := mode, clientIpAllowlist := allowlist } =
      .ok chat ∧ (s.graphLookupEnabled = true ∧ row = (resolveRouteGraphNames run.names false (settled chat)).1 ∨
        row = settled chat) ∧
      validateTarget row = .ok () := by
  obtain ⟨_, -, h⟩ := Except.bind_eq_ok_iff.1 h
  obtain ⟨admitted, hadmitted, h⟩ := Except.bind_eq_ok_iff.1 h
  obtain ⟨mode, allowlist, haccess, rfl⟩ := validateClientIpAccess_eq hadmitted
  obtain ⟨chat, hchat, h⟩ := Except.bind_eq_ok_iff.1 h
  refine ⟨mode, allowlist, chat, haccess, hchat, ?_⟩
  dsimp only at h
  split at h
  next hlookup =>
    obtain ⟨named, hnamed, h⟩ := Except.bind_eq_ok_iff.1 h
    obtain ⟨_, hvalid, h⟩ := Except.bind_eq_ok_iff.1 h
    cases h
    exact ⟨.inl ⟨hlookup, Changed.eq_of_try hnamed⟩, hvalid⟩
  next =>
    obtain ⟨named, hnamed, h⟩ := Except.bind_eq_ok_iff.1 h
    obtain ⟨_, hvalid, h⟩ := Except.bind_eq_ok_iff.1 h
    cases hnamed
    cases h
    exact ⟨.inr rfl, hvalid⟩

/-- What the checks of an endpoint leave, when the members are settled without another target. -/
theorem checked_of_checkedRoute {P : Platform} {s : Settings} {run : RouteRun} {settled : WebhookRoute → WebhookRoute}
    {route row : WebhookRoute} (hsettled : ∀ r, (settled r).id = r.id ∧ r.KeepsTarget (settled r))
    (h : checkedRoute P s run settled route = .ok row) : route.Checked row := by
  obtain ⟨mode, allowlist, chat, -, hchat, hnamed, hvalid⟩ := checkedRoute_eq_ok h
  obtain ⟨hid, huser, hother⟩ := materializeGraphUserTarget_cases hchat
  have hkeeps : row.id = chat.id ∧ chat.KeepsTarget row := by
    rcases hnamed with ⟨-, rfl⟩ | rfl
    · obtain ⟨_, _, heq⟩ := resolveRouteGraphNames_renamed run.names false (settled chat)
      refine ⟨?_, (hsettled chat).2.trans (keepsTarget_resolve _ _ _)⟩
      rw [heq]
      exact (hsettled chat).1
    · exact hsettled chat
  refine ⟨hkeeps.1.trans hid, hvalid, fun h => hkeeps.2.conversation.trans (huser h), fun h => ?_⟩
  obtain rfl := hother h
  exact ⟨hkeeps.2.source, hkeeps.2.conversation, hkeeps.2.target⟩

/-- A route whose members are settled keeps its target. -/
theorem settleMembers_keeps (route edited : WebhookRoute) :
    (settleMembers route edited).id = edited.id ∧ edited.KeepsTarget (settleMembers route edited) := by
  unfold settleMembers
  split
  · exact ⟨rfl, .of_name rfl rfl rfl rfl rfl rfl rfl⟩
  · exact ⟨rfl, .refl edited⟩

/-- How a route is created. -/
theorem createWebhookRoute_eq_ok {P : Platform} {s : Settings} {run : RouteRun} {organizationId : Nat}
    {payload : WebhookRouteCreate} {db db' : Database}
    (h : createWebhookRoute P s run organizationId payload db = .ok db') :
    ∃ row, checkedRoute P s run id (payload.route P run organizationId db.nextId) = .ok row ∧
      insertRoute run.now row db = .ok db' := by
  obtain ⟨row, hrow, h⟩ := Except.bind_eq_ok_iff.1 h
  obtain ⟨_, -, h⟩ := Except.bind_eq_ok_iff.1 h
  refine ⟨row, hrow, ?_⟩
  split at h
  · nomatch h
  · exact h

/-- How a route is edited. -/
theorem updateWebhookRoute_eq_ok {P : Platform} {s : Settings} {run : RouteRun} {organizationId routeId : Nat}
    {payload : WebhookRouteUpdate} {db db' : Database}
    (h : updateWebhookRoute P s run organizationId routeId payload db = .ok db') :
    ∃ route ∈ db.routes, route.id = routeId ∧
      ∃ row, checkedRoute P s run (settleMembers route) (payload.apply route) = .ok row ∧
      db' = storeRoute run.now row db := by
  obtain ⟨route, hroute, h⟩ := Except.bind_eq_ok_iff.1 h
  obtain ⟨_, -, h⟩ := Except.bind_eq_ok_iff.1 h
  obtain ⟨row, hrow, h⟩ := Except.bind_eq_ok_iff.1 h
  obtain ⟨_, -, h⟩ := Except.bind_eq_ok_iff.1 h
  cases h
  obtain ⟨hmem, hid⟩ := mem_of_getOrgRoute hroute
  exact ⟨route, hmem, hid, row, hrow, rfl⟩

end TeamsRehook
