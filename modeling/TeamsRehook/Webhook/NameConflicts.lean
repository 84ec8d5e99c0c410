import TeamsRehook.Lib.Processes
import TeamsRehook.Webhook.Administration

/-!
# Route names in concurrent sessions

Requests that create and edit routes and `register` commands of the bot, each handled in a session of its own on one
database. A session reads what is committed. Its first flush that writes the row checks the unique constraint on
organization, name and backend, and from then on to the end of the transaction another session that writes the same name
waits; so the flush and what follows are one step.

`create_webhook_route` flushes in a `try` that answers an `IntegrityError`. `update_webhook_route` answers one of its
commit, but its row is flushed before: in `record_audit`, or by the token refresh of `_materialize_graph_user_target`,
which flushes the whole session. `_register_route_from_command` answers none.

The default organization is there, as a start leaves it, and the route tokens that are drawn are new. What a `register`
issues after its flush is left out.
-/

namespace TeamsRehook

/-- The columns of `uq_webhook_routes_org_name_backend`. -/
structure RouteName where
  organizationId : Nat
  name : String
  deliveryBackend : String
  deriving DecidableEq, Repr

/-- The name of a route, with its organization and its backend. -/
def WebhookRoute.routeName (route : WebhookRoute) : RouteName := ⟨route.organizationId, route.name, route.deliveryBackend⟩

/-- A route has the name; when an id is given, another route than the one with this id. -/
def nameTaken (routes : List WebhookRoute) (routeId : Option Nat) (name : RouteName) : Bool :=
  routes.any fun route => route.routeName == name && routeId != some route.id

/-! ## Requests -/

/-- A request, with what its lookups do. `lookupFlushes` says whether `create_or_get_one_on_one_chat` comes to the flush
of the token refresh, which it does once the token endpoint has answered. -/
inductive RouteRequest where
  /-- `create_webhook_route`. -/
  | create (s : Settings) (run : RouteRun) (organizationId : Nat) (payload : WebhookRouteCreate)
  /-- `update_webhook_route`. -/
  | update (s : Settings) (run : RouteRun) (lookupFlushes : Bool) (organizationId routeId : Nat)
      (payload : WebhookRouteUpdate)
  /-- `_register_route_from_command`, with the id of the default organization. -/
  | register (run : BotRun) (captured : Captured) (reference : Option BotConversationReference) (organizationId : Nat)
      (name : String)

/-- A request of an administrator. -/
def RouteRequest.admin : RouteRequest → Bool
  | .create .. | .update .. => true
  | .register .. => false

/-- The row that a session is about to flush: a new one, or the changes to one that it has loaded. -/
inductive RouteWrite where
  | insert (now : Int) (row : WebhookRoute)
  | change (now : Int) (loaded edited : WebhookRoute)
  deriving DecidableEq, Repr

/-- How a request ends: with its commit, with an answer or another exception, or with an `IntegrityError` of its flush
that nothing answers. -/
inductive SessionEnd where
  | done
  | error (e : Exn)
  | integrityError

/-- Where a request is. -/
inductive RoutePhase where
  | ready
  /-- An edit has loaded its route. -/
  | loaded (route : WebhookRoute)
  /-- The checks are passed, and the row is not flushed yet. -/
  | checked (write : RouteWrite)
  | ended (result : SessionEnd)

/-! ## Flushes -/

/-- The row that the flush of a loaded and edited row leaves of the stored one. -/
def mergedRoute (loaded edited stored : WebhookRoute) : WebhookRoute where
  id := stored.id
  organizationId := Table.ormWrite loaded.organizationId edited.organizationId stored.organizationId
  name := Table.ormWrite loaded.name edited.name stored.name
  isActive := Table.ormWrite loaded.isActive edited.isActive stored.isActive
  routeTokenHash := Table.ormWrite loaded.routeTokenHash edited.routeTokenHash stored.routeTokenHash
  routeToken := Table.ormWrite loaded.routeToken edited.routeToken stored.routeToken
  deliveryBackend := Table.ormWrite loaded.deliveryBackend edited.deliveryBackend stored.deliveryBackend
  clientIpAccessMode := Table.ormWrite loaded.clientIpAccessMode edited.clientIpAccessMode stored.clientIpAccessMode
  clientIpAllowlist := Table.ormWrite loaded.clientIpAllowlist edited.clientIpAllowlist stored.clientIpAllowlist
  targetType := Table.ormWrite loaded.targetType edited.targetType stored.targetType
  targetName := Table.ormWrite loaded.targetName edited.targetName stored.targetName
  botServiceUrl := Table.ormWrite loaded.botServiceUrl edited.botServiceUrl stored.botServiceUrl
  botConversationId := Table.ormWrite loaded.botConversationId edited.botConversationId stored.botConversationId
  graphTargetKind := Table.ormWrite loaded.graphTargetKind edited.graphTargetKind stored.graphTargetKind
  graphTargetId := Table.ormWrite loaded.graphTargetId edited.graphTargetId stored.graphTargetId
  graphTeamId := Table.ormWrite loaded.graphTeamId edited.graphTeamId stored.graphTeamId
  graphTeamName := Table.ormWrite loaded.graphTeamName edited.graphTeamName stored.graphTeamName
  graphChannelId := Table.ormWrite loaded.graphChannelId edited.graphChannelId stored.graphChannelId
  graphUserId := Table.ormWrite loaded.graphUserId edited.graphUserId stored.graphUserId
  graphUserDisplayName :=
    Table.ormWrite loaded.graphUserDisplayName edited.graphUserDisplayName stored.graphUserDisplayName
  graphUserPrincipalName :=
    Table.ormWrite loaded.graphUserPrincipalName edited.graphUserPrincipalName stored.graphUserPrincipalName
  botTargetSource := Table.ormWrite loaded.botTargetSource edited.botTargetSource stored.botTargetSource
  botRegisteredById := Table.ormWrite loaded.botRegisteredById edited.botRegisteredById stored.botRegisteredById
  botRegisteredAt := Table.ormWrite loaded.botRegisteredAt edited.botRegisteredAt stored.botRegisteredAt
  memberSummary := Table.ormWrite loaded.memberSummary edited.memberSummary stored.memberSummary
  memberCount := Table.ormWrite loaded.memberCount edited.memberCount stored.memberCount
  memberListJson := Table.ormWrite loaded.memberListJson edited.memberListJson stored.memberListJson
  membersRefreshedAt := Table.ormWrite loaded.membersRefreshedAt edited.membersRefreshedAt stored.membersRefreshedAt
  membersLookupError := Table.ormWrite loaded.membersLookupError edited.membersLookupError stored.membersLookupError
  lastDeliveryStatus := Table.ormWrite loaded.lastDeliveryStatus edited.lastDeliveryStatus stored.lastDeliveryStatus
  lastDeliveryAt := Table.ormWrite loaded.lastDeliveryAt edited.lastDeliveryAt stored.lastDeliveryAt
  updatedAt := stored.updatedAt

/-- The flush writes a name that another route has. A row in which nothing has changed is not written. -/
def RouteWrite.conflicts (db : Database) : RouteWrite → Bool
  | .insert _ row => nameTaken db.routes none row.routeName
  | .change _ loaded edited =>
    if edited = loaded then false
    else
      match db.routes.find? (·.id == loaded.id) with
      | some stored => nameTaken db.routes (some stored.id) (mergedRoute loaded edited stored).routeName
      | none => false

/-- A flush that the unique constraint lets pass. -/
def RouteWrite.store (db : Database) : RouteWrite → Except Exn Database
  | .insert now row =>
    .ok { db with routes := db.routes ++ [{ row with id := db.nextId, updatedAt := now }], nextId := db.nextId + 1 }
  | .change now loaded edited =>
    if edited = loaded then .ok db
    else
      match db.routes.find? (·.id == loaded.id) with
      | some stored =>
        .ok { db with
          routes := Table.update (·.id == stored.id) (fun _ =>
            { mergedRoute loaded edited stored with updatedAt := now }) db.routes }
      | none => .error .staleDataError

/-- How a request ends whose flush meets the unique constraint. -/
def RouteRequest.conflictEnd : RouteRequest → SessionEnd
  | .create .. => .error (.http 409 "Webhook route name already exists")
  | .update .. | .register .. => .integrityError

/-- The last flush of a request, and its commit. -/
def flushRoute (request : RouteRequest) (write : RouteWrite) (db : Database) : Database × SessionEnd :=
  if write.conflicts db then (db, request.conflictEnd)
  else
    match write.store db with
    | .ok db' => (db', .done)
    | .error e => (db, .error e)

/-! ## Steps -/

/-- The row that the token refresh of `_materialize_graph_user_target` flushes, when an edit comes to it. -/
def flushedByLookup (P : Platform) (s : Settings) (lookupFlushes : Bool) (payload : WebhookRouteUpdate)
    (route : WebhookRoute) : Option WebhookRoute :=
  match ensureDeliveryBackendFeatureEnabled (routeDeliveryBackend (payload.apply route)) s,
    validateClientIpAccess P (payload.apply route) with
  | .ok (), .ok edited =>
    if lookupFlushes = true ∧ edited.targetsGraphUser = true ∧
        Python.orElse (Python.strip edited.graphUserId) (Python.strip edited.graphTargetId) ≠ "" then
      some edited
    else none
  | _, _ => none

/-- The checks of an edit, from the name of the backend on. -/
def checkedUpdate (P : Platform) (s : Settings) (run : RouteRun) (organizationId : Nat) (payload : WebhookRouteUpdate)
    (route : WebhookRoute) (db : Database) : Except Exn WebhookRoute := do
  let edited ← checkedRoute P s run (settleMembers route) (payload.apply route)
  ensureRouteNameAvailable organizationId edited.name (routeDeliveryBackend edited) (some edited.id) db
  return edited

/-- An edit whose lookup flushes the row: the checks that follow are made in the transaction that holds the name. -/
def finishFlushedUpdate (P : Platform) (s : Settings) (run : RouteRun) (organizationId : Nat)
    (payload : WebhookRouteUpdate) (route flushed : WebhookRoute) (db : Database) : Database × SessionEnd :=
  if (RouteWrite.change run.now route flushed).conflicts db then (db, .integrityError)
  else
    match (RouteWrite.change run.now route flushed).store db with
    | .error e => (db, .error e)
    | .ok db₁ =>
      match checkedUpdate P s run organizationId payload route db₁ with
      | .error e => (db, .error e)
      | .ok edited =>
        if (RouteWrite.change run.now flushed edited).conflicts db₁ then (db, .integrityError)
        else
          match (RouteWrite.change run.now flushed edited).store db₁ with
          | .ok db₂ => (db₂, .done)
          | .error e => (db, .error e)

/-- An edit from its loaded route on, to its last flush. -/
def updateLoadedRoute (P : Platform) (s : Settings) (run : RouteRun) (lookupFlushes : Bool) (organizationId : Nat)
    (payload : WebhookRouteUpdate) (route : WebhookRoute) (db : Database) : Database × RoutePhase :=
  match ensureDeliveryBackendFeatureEnabled ((payload.deliveryBackend.map (·.value)).getD (routeDeliveryBackend route))
      s with
  | .error e => (db, .ended (.error e))
  | .ok () =>
    match flushedByLookup P s lookupFlushes payload route with
    | some flushed =>
      let r := finishFlushedUpdate P s run organizationId payload route flushed db
      (r.1, .ended r.2)
    | none =>
      match checkedUpdate P s run organizationId payload route db with
      | .error e => (db, .ended (.error e))
      | .ok edited => (db, .checked (.change run.now route edited))

/-- The checks of a new route. -/
def checkedCreate (P : Platform) (s : Settings) (run : RouteRun) (organizationId : Nat) (payload : WebhookRouteCreate)
    (db : Database) : Except Exn WebhookRoute := do
  let route ← checkedRoute P s run id (payload.route P run organizationId db.nextId)
  ensureRouteNameAvailable organizationId route.name (routeDeliveryBackend route) none db
  return route

/-- `register`, to its flush. -/
def registerLoadedRoute (P : Platform) (run : BotRun) (captured : Captured) (reference : Option BotConversationReference)
    (organizationId : Nat) (name : String) (db : Database) : RoutePhase :=
  match reference with
  | none => .ended .done
  | some reference =>
    if name = "" ∨ 200 < name.length ∨ captured.serviceUrl = "" ∨ captured.conversationId = "" then .ended .done
    else
      let effective := capturedWithReference captured reference
      match tryResolveRouteGraphNames run.routeNames false
          (registeredRoute P run.now effective reference (routeToRegister P run organizationId name effective db)) with
      | .error e => .ended (.error e)
      | .ok row =>
        match db.botRouteNamed organizationId name with
        | some loaded => .checked (.change run.now loaded row)
        | none => .checked (.insert run.now row)

/-- The first step of a request. -/
def beginRequest (P : Platform) (db : Database) : RouteRequest → RoutePhase
  | .create s run organizationId payload =>
    match checkedCreate P s run organizationId payload db with
    | .error e => .ended (.error e)
    | .ok row => .checked (.insert run.now row)
  | .update _ _ _ organizationId routeId _ =>
    match getOrgRoute organizationId routeId db with
    | .error e => .ended (.error e)
    | .ok route => .loaded route
  | .register run captured reference organizationId name =>
    registerLoadedRoute P run captured reference organizationId name db

/-- The next step of a request. -/
def routeSessionStep (P : Platform) {ι : Type} (requests : ι → RouteRequest) (i : ι) (db : Database) :
    RoutePhase → Option (Database × RoutePhase)
  | .ready => some (db, beginRequest P db (requests i))
  | .loaded route =>
    match requests i with
    | .update s run lookupFlushes organizationId _ payload =>
      some (updateLoadedRoute P s run lookupFlushes organizationId payload route db)
    | .create .. | .register .. => none
  | .checked write =>
    let r := flushRoute (requests i) write db
    some (r.1, .ended r.2)
  | .ended _ => none

/-- The sessions: the committed tables, and where each request is. -/
abbrev RouteSessions (ι : Type) := Processes.World Database ι RoutePhase

/-- One step of one request. -/
def routeSessionsStep (P : Platform) {ι : Type} [DecidableEq ι] (requests : ι → RouteRequest) :
    RouteSessions ι → Processes.Act ι Empty → Option (RouteSessions ι) :=
  Processes.World.step (routeSessionStep P requests) fun _ e => e.elim

end TeamsRehook
