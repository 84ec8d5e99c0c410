import TeamsRehook.Lemmas.Targets
import TeamsRehook.Webhook.LiveHistory

/-!
# Where a row comes from

Every route and every conversation reference after a step of a live history is one from before, or what the step writes.
The two inductive types list the writers once, each with what it writes; an invariant of all rows is then a case
analysis.
-/

namespace TeamsRehook

/-! ## Captured references -/

/-- The reference of a conversation, or the new one. -/
def Database.referenceToCapture (db : Database) (now : Int) (conversationId : String) : BotConversationReference :=
  (db.referenceOf conversationId).getD
    { id := db.nextId, conversationId := conversationId, lastSeenAt := now, updatedAt := now }

/-- The reference to capture is stored, or new. -/
theorem Database.referenceToCapture_cases (db : Database) (now : Int) (conversationId : String) :
    (db.referenceToCapture now conversationId ∈ db.references ∨ db.referenceToCapture now conversationId =
      { id := db.nextId, conversationId := conversationId, lastSeenAt := now, updatedAt := now }) ∧
      (db.referenceToCapture now conversationId).conversationId = conversationId := by
  unfold Database.referenceToCapture
  cases hstored : db.referenceOf conversationId with
  | some loaded => exact ⟨.inl (List.mem_of_find?_eq_some hstored), by simpa using List.find?_some hstored⟩
  | none => exact ⟨.inr rfl, rfl⟩

/-- The reference that an activity leaves for its conversation: the stored one or a new one, with what was captured,
named and refreshed. -/
structure CapturesReference (P : Platform) (run : BotRun) (captured : Captured) (db : Database)
    (found : BotConversationReference) : Prop where
  conversationId : captured.conversationId ≠ ""
  serviceUrl : captured.serviceUrl ≠ ""
  written : ∃ named,
    tryResolveReferenceGraphNames run.referenceNames false
      ((db.referenceToCapture run.now captured.conversationId).captures P run.now captured) = .ok named ∧
    refreshReferenceChatMembers P run.now false run.members named = .ok found

/-- What capturing a reference writes. -/
theorem upsertReference_captures {P : Platform} {run : BotRun} {captured : Captured} {db db₁ : Database}
    {reference : Option BotConversationReference}
    (h : upsertReference P run.now run.referenceNames run.members captured db = .ok (db₁, reference)) :
    (∀ found, reference = some found → CapturesReference P run captured db found) ∧
      ∀ r ∈ db₁.references, r ∈ db.references ∨ CapturesReference P run captured db r := by
  unfold upsertReference at h
  split at h
  · obtain ⟨rfl, rfl⟩ := Prod.mk.inj (Except.ok.inj h)
    exact ⟨fun _ h => (nomatch h), fun r hr => .inl hr⟩
  next hgiven =>
    obtain ⟨hconversation, hservice⟩ := not_or.1 hgiven
    obtain ⟨named, hnamed, h⟩ := Except.bind_eq_ok_iff.1 h
    obtain ⟨found, hfound, h⟩ := Except.bind_eq_ok_iff.1 h
    have hcaptures : CapturesReference P run captured db found := ⟨hconversation, hservice, named, hnamed, hfound⟩
    split at h
    · obtain ⟨rfl, rfl⟩ := Prod.mk.inj (Except.ok.inj h)
      refine ⟨fun _ heq => Option.some.inj heq ▸ hcaptures, fun r hr => ?_⟩
      obtain ⟨old, hold, rfl⟩ := Table.mem_update.1 hr
      split
      · exact .inr hcaptures
      · exact .inl hold
    · obtain ⟨rfl, rfl⟩ := Prod.mk.inj (Except.ok.inj h)
      refine ⟨fun _ heq => Option.some.inj heq ▸ hcaptures, fun r hr => ?_⟩
      rcases List.mem_append.1 hr with hr | hr
      · exact .inl hr
      · exact .inr (List.mem_singleton.1 hr ▸ hcaptures)

/-! ## Origins -/

/-- How a reference after a step of a live history came about. -/
inductive ReferenceOrigin (P : Platform) (db : Database) : LiveStep → BotConversationReference → Prop where
  | kept {step : LiveStep} {reference : BotConversationReference} (h : reference ∈ db.references) :
    ReferenceOrigin P db step reference
  | captured {s : Settings} {run : BotRun} {body : Bytes} {activity : List (String × Json)}
      {reference : BotConversationReference} (hbody : activityOfBody P body = .ok (some activity))
      (hcaptures : CapturesReference P run (extractActivity P activity) db reference) :
      ReferenceOrigin P db (.routes (.activity s run body)) reference
  | membersRefreshed {now : Int} {force : Bool} {fetched : Except Exn ConversationMembers} {referenceId : Nat}
      {old changed : BotConversationReference} (t : Int) (hold : old ∈ db.references)
      (hchanged : refreshReferenceChatMembers P now force fetched old = .ok changed) :
      ReferenceOrigin P db (.routes (.refreshReferenceMembers now force fetched referenceId))
      { changed with updatedAt := t }
  | namesRefreshed {s : Settings} {now : Int} {G : GraphNames} {organizationId : Nat}
      {old : BotConversationReference} (t : Int) (hold : old ∈ db.references) :
      ReferenceOrigin P db (.routes (.refreshNames s now G organizationId))
        { (resolveReferenceGraphNames G true old).1 with updatedAt := t }

/-- How a route after a step of a live history came about. -/
inductive RouteOrigin (P : Platform) (db : Database) : LiveStep → WebhookRoute → Prop where
  | kept {step : LiveStep} {route : WebhookRoute} (h : route ∈ db.routes) : RouteOrigin P db step route
  | activated {s : Settings} {run : BotRun} {body : Bytes} {old : WebhookRoute} (isActive : Bool) (t : Int)
      (hold : old ∈ db.routes) :
      RouteOrigin P db (.routes (.activity s run body)) { old with isActive := isActive, updatedAt := t }
  | accessSet {s : Settings} {run : BotRun} {body : Bytes} {old : WebhookRoute} {mode allowlist : String} (t : Int)
      (hold : old ∈ db.routes) (haccess : StoredAccess P mode allowlist) :
      RouteOrigin P db (.routes (.activity s run body))
        { old with clientIpAccessMode := mode, clientIpAllowlist := allowlist, updatedAt := t }
  | registered {s : Settings} {run : BotRun} {body : Bytes} {activity : List (String × Json)}
      {found : BotConversationReference}
      {argument : String} {route row : WebhookRoute} (t : Int) (hbody : activityOfBody P body = .ok (some activity))
      (hcommand : commandOf P activity = some (.register, argument))
      (hfound : CapturesReference P run (extractActivity P activity) db found)
      (hroute : route ∈ db.routes ∨ ∃ id organizationId name targetName, route =
        { id := id, organizationId := organizationId, name := name, routeTokenHash := lookupSecretHash P run.routeToken,
          routeToken := run.routeToken, targetName := targetName })
      (hrow : tryResolveRouteGraphNames run.routeNames false
        (registeredRoute P run.now (capturedWithReference (extractActivity P activity) found) found route) = .ok row) :
      RouteOrigin P db (.routes (.activity s run body)) { row with updatedAt := t }
  | created {s : Settings} {run : RouteRun} {organizationId : Nat} {payload : WebhookRouteCreate}
      {row : WebhookRoute} (t : Int) (haccepted : payload.accepted = true)
      (hrow : checkedRoute P s run id (payload.route P run organizationId db.nextId) = .ok row) :
      RouteOrigin P db (.routes (.create s run organizationId payload)) { row with updatedAt := t }
  | updated {s : Settings} {run : RouteRun} {organizationId routeId : Nat} {payload : WebhookRouteUpdate}
      {old row : WebhookRoute}
      (t : Int) (hold : old ∈ db.routes) (hid : old.id = routeId) (haccepted : payload.accepted = true)
      (hrow : checkedRoute P s run (settleMembers old) (payload.apply old) = .ok row) :
      RouteOrigin P db (.routes (.update s run organizationId routeId payload)) { row with updatedAt := t }
  | membersRefreshed {now : Int} {fetched : Except Exn ConversationMembers} {valueErrorText : String}
      {organizationId routeId : Nat} {old row : WebhookRoute} (t : Int) (hold : old ∈ db.routes)
      (hrow : refreshRouteMembers now fetched valueErrorText old = .ok row) :
      RouteOrigin P db (.routes (.refreshMembers now fetched valueErrorText organizationId routeId))
      { row with updatedAt := t }
  | namesRefreshed {s : Settings} {now : Int} {G : GraphNames} {organizationId : Nat} {old : WebhookRoute} (t : Int)
      (hold : old ∈ db.routes) (horganization : old.organizationId = organizationId) :
      RouteOrigin P db (.routes (.refreshNames s now G organizationId))
      { (resolveRouteGraphNames G true old).1 with updatedAt := t }
  | routeNamesRefreshed {s : Settings} {now : Int} {G : GraphNames} {organizationId routeId : Nat}
      {old : WebhookRoute} (t : Int) (hold : old ∈ db.routes) (hid : old.id = routeId) :
      RouteOrigin P db (.routes (.refreshRouteNames s now G organizationId routeId))
        { (resolveRouteGraphNames G true old).1 with updatedAt := t }
  | regenerated {now : Int} {routeId : Nat} {routeToken : String} {old : WebhookRoute} (t : Int)
      (hold : old ∈ db.routes) :
      RouteOrigin P db (.regenerate now routeId routeToken)
        { old with routeToken := routeToken, routeTokenHash := lookupSecretHash P routeToken, updatedAt := t }

/-- The rows after a step are what the step can have written. -/
structure RowOrigins (P : Platform) (db : Database) (step : LiveStep) (db' : Database) : Prop where
  routes : ∀ route ∈ db'.routes, RouteOrigin P db step route
  references : ∀ reference ∈ db'.references, ReferenceOrigin P db step reference

/-- Deleting routes adds none. -/
theorem routes_foldl_deleteRoute (routes : List WebhookRoute) (db : Database) :
    (routes.foldl (fun db route => deleteRoute route.id db) db).routes ⊆ db.routes := by
  induction routes generalizing db with
  | nil => exact fun _ h => h
  | cons route routes ih => exact fun _ h => (Table.mem_delete.1 (ih _ h)).1

/-- Deleting routes leaves the references. -/
theorem references_foldl_deleteRoute (routes : List WebhookRoute) (db : Database) :
    (routes.foldl (fun db route => deleteRoute route.id db) db).references = db.references := by
  induction routes generalizing db with
  | nil => rfl
  | cons route routes ih => exact ih _

section Origins

variable {P : Platform} {db db' : Database} {step : LiveStep}

/-- A step that adds no row and changes none. -/
theorem RowOrigins.of_subset (hroutes : db'.routes ⊆ db.routes) (hreferences : db'.references ⊆ db.references) :
    RowOrigins P db step db' :=
  ⟨fun _ h => .kept (hroutes h), fun _ h => .kept (hreferences h)⟩

/-- A step that stores one route. -/
theorem RowOrigins.storeRoute {now : Int} {changed : WebhookRoute}
    (h : ∀ t, RouteOrigin P db step { changed with updatedAt := t }) :
    RowOrigins P db step (storeRoute now changed db) := by
  refine ⟨fun route hroute => ?_, fun _ h => .kept h⟩
  rcases mem_routes_storeRoute hroute with hold | ⟨row, -, -, rfl⟩
  · exact .kept hold
  · exact h _

/-- A step that inserts one route. -/
theorem RowOrigins.insertRoute {now : Int} {row : WebhookRoute}
    (h : ∀ t, RouteOrigin P db step { row with updatedAt := t }) (hinsert : insertRoute now row db = .ok db') :
    RowOrigins P db step db' := by
  unfold TeamsRehook.insertRoute at hinsert
  split at hinsert
  · nomatch hinsert
  · cases hinsert
    refine ⟨fun route hroute => ?_, fun _ h => .kept h⟩
    rcases List.mem_append.1 hroute with hold | hnew
    · exact .kept hold
    · exact List.mem_singleton.1 hnew ▸ h _

/-! ## Activities -/

/-- What a command writes. -/
theorem routeOrigin_of_effect {s : Settings} {run : BotRun} {body : Bytes} {activity : List (String × Json)}
    {organizationId : Nat} {reference : Option BotConversationReference} {argument : String} {command : BotCommand}
    {db₁ db₂ : Database} (hbody : activityOfBody P body = .ok (some activity))
    (hcommand : commandOf P activity = some (command, argument))
    (hroutes : db₁.routes = db.routes)
    (hfound : ∀ found, reference = some found → CapturesReference P run (extractActivity P activity) db found)
    (h : RouteEffect P run organizationId (extractActivity P activity) reference argument db₁ command db₂) :
    ∀ route ∈ db₂.routes, RouteOrigin P db (.routes (.activity s run body)) route := by
  have hstored : ∀ {changed : WebhookRoute},
    (∀ t, RouteOrigin P db (.routes (.activity s run body)) { changed with updatedAt := t }) →
      ∀ route ∈ (storeRoute run.now changed db₁).routes, RouteOrigin P db (.routes (.activity s run body)) route := by
    intro changed h route hroute
    rcases mem_routes_storeRoute hroute with hold | ⟨row, -, -, rfl⟩
    · exact .kept (hroutes ▸ hold)
    · exact h _
  cases h with
  | unchanged => exact fun route hroute => .kept (hroutes ▸ hroute)
  | @setActive _ old isActive _ hroute =>
    have horigin : ∀ t, RouteOrigin P db (.routes (.activity s run body))
        { old with isActive := isActive, updatedAt := t } :=
      fun t => .activated isActive t (hroutes ▸ hroute)
    exact hstored horigin
  | @setAccess old mode allowlist hroute _ haccess =>
    have horigin : ∀ t, RouteOrigin P db (.routes (.activity s run body))
        { old with clientIpAccessMode := mode, clientIpAllowlist := allowlist, updatedAt := t } :=
      fun t => .accessSet t (hroutes ▸ hroute) haccess
    exact hstored horigin
  | delete => exact fun route hroute => .kept (hroutes ▸ (Table.mem_delete.1 hroute).1)
  | update hreference _ hroute hrow =>
    exact hstored fun t => .registered t hbody hcommand (hfound _ hreference)
      (.inl (hroutes ▸ List.mem_of_find?_eq_some hroute)) hrow
  | create hreference hroute hrow hinsert =>
    intro route hmem
    rw [(routes_insertRoute hinsert).1] at hmem
    rcases List.mem_append.1 hmem with hold | hnew
    · exact .kept (hroutes ▸ hold)
    · rw [List.mem_singleton.1 hnew]
      refine .registered _ hbody hcommand (hfound _ hreference) (.inr ?_) hrow
      unfold routeToRegister
      rw [hroute]
      exact ⟨_, _, _, _, rfl⟩

/-- What an activity writes. -/
theorem rowOrigins_receiveActivity {s : Settings} {run : BotRun} {body : Bytes} {activity : List (String × Json)}
    {authorization : Option BotCommandAuthorization} (hbody : activityOfBody P body = .ok (some activity))
    (h : receiveActivity P s run activity db = .ok (db', authorization)) :
    RowOrigins P db (.routes (.activity s run body)) db' := by
  obtain ⟨db₁, reference, hupsert, hend⟩ := receiveActivity_end h
  obtain ⟨hfound, hcaptured⟩ := upsertReference_captures hupsert
  have hreference : ∀ r ∈ db₁.references, ReferenceOrigin P db (.routes (.activity s run body)) r := by
    intro r hr
    rcases hcaptured r hr with hold | hcaptures
    · exact .kept hold
    · exact .captured hbody hcaptures
  rcases hend with ⟨hsame, hreferences, -⟩ | ⟨db₂, command, argument, a, hrun, -, hhandle⟩
  · refine ⟨fun route hroute => .kept (hsame.routes ▸ hroute), fun r hr => hreference r ?_⟩
    rw [← hreferences.references]
    exact hr
  · have hcommandEnd := handleCommand_end (strip_of_commandOf hrun.parsed) hhandle
    refine ⟨?_, fun r hr => hreference r ?_⟩
    · obtain ⟨db₃, db₄, n, revealed, hstart, heffect, rfl, -, -⟩ := hcommandEnd.exists_effect
      obtain ⟨_, _, heq, -⟩ := issueWebhookRevealUrls_eq P s run n revealed db₄
      have horigins :=
        routeOrigin_of_effect (s := s) hbody hrun.parsed (hstart.sameRoutes.routes.trans hrun.routes.routes)
        hfound heffect
      rw [heq]
      exact horigins
    · obtain ⟨_, _, _, _, _, heq, -⟩ := hcommandEnd.frame
      rw [heq] at hr
      exact hrun.references.references ▸ hr

/-! ## Steps -/

/-- A request that raises writes nothing. -/
theorem rowOrigins_committed {result : Except Exn Database} (h : ∀ db', result = .ok db' → RowOrigins P db step db') :
    RowOrigins P db step (committed db result) := by
  cases hresult : result with
  | ok db' => exact h db' hresult
  | error e => exact .of_subset (fun _ h => h) fun _ h => h

/-- What the steps of a running service write. -/
theorem rowOrigins_routeStep {step : RouteStep} (hlive : step.live = true) (h : routeStep P db step = some db') :
    RowOrigins P db (.routes step) db' := by
  cases step with
  | activity s run body =>
    obtain rfl := Option.some.inj h
    refine rowOrigins_committed fun db' hreceive => ?_
    obtain ⟨⟨db'', authorization⟩, hreceived, rfl⟩ := Except.map_eq_ok_iff.1 hreceive
    unfold receiveBotActivity at hreceived
    obtain ⟨activity, hbody, hreceived⟩ := Except.bind_eq_ok_iff.1 hreceived
    cases activity with
    | none =>
      obtain ⟨rfl, -⟩ := Prod.mk.inj (Except.ok.inj hreceived)
      exact .of_subset (fun _ h => h) fun _ h => h
    | some activity => exact rowOrigins_receiveActivity hbody hreceived
  | create s run organizationId payload =>
    obtain rfl := Option.some.inj h
    refine rowOrigins_committed fun db' hcreate => ?_
    obtain ⟨row, hrow, hinsert⟩ := createWebhookRoute_eq_ok hcreate
    exact .insertRoute (fun t => .created t hlive hrow) hinsert
  | update s run organizationId routeId payload =>
    obtain rfl := Option.some.inj h
    refine rowOrigins_committed fun db' hupdate => ?_
    obtain ⟨old, hold, hid, row, hrow, rfl⟩ := updateWebhookRoute_eq_ok hupdate
    exact .storeRoute fun t => .updated t hold hid hlive hrow
  | refreshMembers now fetched valueErrorText organizationId routeId =>
    obtain rfl := Option.some.inj h
    refine rowOrigins_committed fun db' hrefresh => ?_
    obtain ⟨old, hold, hrefresh⟩ := Except.bind_eq_ok_iff.1 hrefresh
    obtain ⟨row, hrow, hrefresh⟩ := Except.bind_eq_ok_iff.1 hrefresh
    cases hrefresh
    exact .storeRoute fun t => .membersRefreshed t (mem_of_getOrgRoute hold).1 hrow
  | refreshReferenceMembers now force fetched referenceId =>
    obtain rfl := Option.some.inj h
    refine rowOrigins_committed fun db' hrefresh => ?_
    unfold refreshBotConversationReferenceMembers at hrefresh
    split at hrefresh
    · cases hrefresh
    next old hold =>
      obtain ⟨changed, hchanged, hrefresh⟩ := Except.bind_eq_ok_iff.1 hrefresh
      cases hrefresh
      refine ⟨fun _ h => .kept h, fun reference hreference => ?_⟩
      obtain ⟨row, hrow, rfl⟩ := Table.mem_update.1 hreference
      split
      · exact .membersRefreshed _ (List.mem_of_find?_eq_some hold) hchanged
      · exact .kept hrow
  | refreshNames s now G organizationId =>
    obtain rfl := Option.some.inj h
    refine rowOrigins_committed fun db' hrefresh => ?_
    obtain ⟨_, -, hrefresh⟩ := Except.bind_eq_ok_iff.1 hrefresh
    obtain ⟨references, hreferences, hrefresh⟩ := Except.bind_eq_ok_iff.1 hrefresh
    obtain ⟨routes, hroutes, hrefresh⟩ := Except.bind_eq_ok_iff.1 hrefresh
    cases hrefresh
    refine ⟨fun route hroute => ?_, fun reference hreference => ?_⟩
    · obtain ⟨old, hold, hrow⟩ := exists_of_forall₂ (Except.mapM_eq_ok_iff.1 hroutes) route hroute
      split at hrow
      next horganization =>
        obtain ⟨changed, hchanged, rfl⟩ := Except.map_eq_ok_iff.1 hrow
        rw [Changed.eq_of_raised hchanged]
        exact .namesRefreshed _ hold horganization
      next =>
        cases hrow
        exact .kept hold
    · obtain ⟨old, hold, hrow⟩ := exists_of_forall₂ (Except.mapM_eq_ok_iff.1 hreferences) reference hreference
      obtain ⟨changed, hchanged, rfl⟩ := Except.map_eq_ok_iff.1 hrow
      rw [Changed.eq_of_raised hchanged]
      exact .namesRefreshed _ hold
  | refreshRouteNames s now G organizationId routeId =>
    obtain rfl := Option.some.inj h
    refine rowOrigins_committed fun db' hrefresh => ?_
    obtain ⟨old, hold, hrefresh⟩ := Except.bind_eq_ok_iff.1 hrefresh
    obtain ⟨_, -, hrefresh⟩ := Except.bind_eq_ok_iff.1 hrefresh
    obtain ⟨changed, hchanged, hrefresh⟩ := Except.bind_eq_ok_iff.1 hrefresh
    cases hrefresh
    rw [Changed.eq_of_raised hchanged]
    obtain ⟨hmem, hid⟩ := mem_of_getOrgRoute hold
    exact .storeRoute fun t => .routeNamesRefreshed t hmem hid
  | deleteRoute organizationId routeId =>
    obtain rfl := Option.some.inj h
    refine rowOrigins_committed fun db' hdelete => ?_
    obtain ⟨route, -, hdelete⟩ := Except.bind_eq_ok_iff.1 hdelete
    cases hdelete
    exact .of_subset (fun _ h => (Table.mem_delete.1 h).1) fun _ h => h
  | deleteReference organizationId referenceId deleteLinkedRoutes =>
    obtain rfl := Option.some.inj h
    refine rowOrigins_committed fun db' hdelete => ?_
    unfold deleteBotConversationReference at hdelete
    split at hdelete
    · cases hdelete
    · dsimp only at hdelete
      split at hdelete
      · cases hdelete
      · cases hdelete
        exact .of_subset (routes_foldl_deleteRoute _ db) fun _ h => by
          have := (Table.mem_delete.1 h).1
          rwa [references_foldl_deleteRoute] at this
  | restart now => cases hlive

/-- What a step of a live history writes. -/
theorem rowOrigins_of_step (h : liveStep P db step = some db') : RowOrigins P db step db' := by
  cases step with
  | routes step =>
    simp only [liveStep] at h
    split at h
    next hlive => exact rowOrigins_routeStep hlive h
    next => nomatch h
  | regenerate now routeId routeToken =>
    simp only [liveStep, regenerateWebhookRouteUrl] at h
    split at h
    · nomatch h
    · obtain rfl := Option.some.inj h
      refine ⟨fun route hroute => ?_, fun _ h => .kept h⟩
      obtain ⟨old, hold, rfl⟩ := Table.mem_update.1 hroute
      have horigin : ∀ t, RouteOrigin P db (.regenerate now routeId routeToken)
          { old with routeToken := routeToken, routeTokenHash := lookupSecretHash P routeToken, updatedAt := t } :=
        fun t => .regenerated t hold
      split
      · exact horigin _
      · exact .kept hold

end Origins

end TeamsRehook
