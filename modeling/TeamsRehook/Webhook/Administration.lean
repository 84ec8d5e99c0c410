import TeamsRehook.ClientIpAllowlist
import TeamsRehook.Webhook.Receive
import TeamsRehook.Webhook.RouteDeletion

/-!
# Administration of routes

The endpoints that create and edit routes and bring the members and names of routes and conversation references up to date
(`routers/webhook_routes.py`, `routers/bot_messages.py`). An endpoint raises, or gives the tables it commits.
-/

namespace TeamsRehook

/-! ## Requests -/

/-- `DeliveryBackend`. -/
inductive DeliveryBackend where
  | botFramework | graph
  deriving DecidableEq, Repr

/-- The text of a backend. -/
def DeliveryBackend.value : DeliveryBackend → String
  | .botFramework => "bot_framework"
  | .graph => "graph"

/-- `ClientIpAccessMode`. -/
inductive ClientIpAccessMode where
  | publicAccess | restricted
  deriving DecidableEq, Repr

/-- The text of a mode. -/
def ClientIpAccessMode.value : ClientIpAccessMode → String
  | .publicAccess => "public"
  | .restricted => "restricted"

/-- `WebhookTargetType`. -/
inductive WebhookTargetType where
  | botConversation
  deriving DecidableEq, Repr

/-- The text of a type. -/
def WebhookTargetType.value : WebhookTargetType → String
  | .botConversation => "bot_conversation"

/-- `GraphTargetKind`. -/
inductive GraphTargetKind where
  | user | team | channel | chat | group
  deriving DecidableEq, Repr

/-- The text of a kind. -/
def GraphTargetKind.value : GraphTargetKind → String
  | .user => "user"
  | .team => "team"
  | .channel => "channel"
  | .chat => "chat"
  | .group => "group"

/-- `WebhookRouteCreate`. -/
structure WebhookRouteCreate where
  name : String
  isActive : Bool := true
  deliveryBackend : DeliveryBackend := .botFramework
  clientIpAccessMode : ClientIpAccessMode := .publicAccess
  clientIpAllowlist : String := ""
  targetType : WebhookTargetType := .botConversation
  targetName : String
  botServiceUrl : String := ""
  botConversationId : String := ""
  graphTargetKind : Option GraphTargetKind := none
  graphTargetId : String := ""
  graphTeamId : String := ""
  graphTeamName : String := ""
  graphChannelId : String := ""
  graphUserId : String := ""
  graphUserDisplayName : String := ""
  graphUserPrincipalName : String := ""
  botTargetSource : String := ""
  deriving DecidableEq, Repr

/-- `WebhookRouteUpdate`: the fields that are given. -/
structure WebhookRouteUpdate where
  name : Option String := none
  isActive : Option Bool := none
  deliveryBackend : Option DeliveryBackend := none
  clientIpAccessMode : Option ClientIpAccessMode := none
  clientIpAllowlist : Option String := none
  targetType : Option WebhookTargetType := none
  targetName : Option String := none
  botServiceUrl : Option String := none
  botConversationId : Option String := none
  graphTargetKind : Option GraphTargetKind := none
  graphTargetId : Option String := none
  graphTeamId : Option String := none
  graphTeamName : Option String := none
  graphChannelId : Option String := none
  graphUserId : Option String := none
  graphUserDisplayName : Option String := none
  graphUserPrincipalName : Option String := none
  botTargetSource : Option String := none
  deriving DecidableEq, Repr

/-- Whether the schema accepts the lengths of a request for a new route. -/
def WebhookRouteCreate.accepted (payload : WebhookRouteCreate) : Bool :=
  1 ≤ payload.name.length && payload.name.length ≤ 200 && payload.clientIpAllowlist.length ≤ 4000 &&
    1 ≤ payload.targetName.length && payload.targetName.length ≤ 200 && payload.botServiceUrl.length ≤ 2000 &&
    payload.botConversationId.length ≤ 2000 && payload.graphTargetId.length ≤ 2000 && payload.graphTeamId.length ≤ 2000 &&
    payload.graphTeamName.length ≤ 200 && payload.graphChannelId.length ≤ 2000 && payload.graphUserId.length ≤ 2000 &&
    payload.graphUserDisplayName.length ≤ 255 && payload.graphUserPrincipalName.length ≤ 255 &&
      payload.botTargetSource.length ≤ 40

/-- Whether the schema accepts the lengths of the fields that a request for an edit gives; it asks for at least one
field. -/
def WebhookRouteUpdate.accepted (payload : WebhookRouteUpdate) : Bool :=
  payload != {} && payload.name.all (fun text => 1 ≤ text.length && text.length ≤ 200) &&
    payload.clientIpAllowlist.all (·.length ≤ 4000) && payload.targetName.all (fun text => 1 ≤ text.length &&
      text.length ≤ 200) &&
    payload.botServiceUrl.all (·.length ≤ 2000) && payload.botConversationId.all (·.length ≤ 2000) &&
    payload.graphTargetId.all (·.length ≤ 2000) && payload.graphTeamId.all (·.length ≤ 2000) &&
    payload.graphTeamName.all (·.length ≤ 200) && payload.graphChannelId.all (·.length ≤ 2000) &&
    payload.graphUserId.all (·.length ≤ 2000) && payload.graphUserDisplayName.all (·.length ≤ 255) &&
    payload.graphUserPrincipalName.all (·.length ≤ 255) && payload.botTargetSource.all (·.length ≤ 40)

/-- `DelegatedGraphOneOnOneChat`. -/
structure DelegatedGraphOneOnOneChat where
  id : String
  userId : String
  userDisplayName : String := ""
  userPrincipalName : String := ""
  deriving DecidableEq, Repr

/-- What the services do while a route is created or edited, and the secret that is drawn: `oneOnOneChat` is
`create_or_get_one_on_one_chat`, of a user id, a display name and a principal name. -/
structure RouteRun where
  now : Int
  names : GraphNames := .empty
  oneOnOneChat : String → String → String → Except Exn DelegatedGraphOneOnOneChat
  routeToken : String := ""

/-! ## Checks of a route -/

/-- `_ensure_delivery_backend_feature_enabled`. -/
def ensureDeliveryBackendFeatureEnabled (backend : String) (s : Settings) : Except Exn Unit :=
  let message := deliveryBackendDisabledMessage backend s
  if message = "" then .ok () else .error (.http 409 message)

/-- A `ValueError` turned into a `400` with its text. -/
def orBadRequest {α : Type} (detail : String) : Except Exn α → Except Exn α
  | .error .valueError => .error (.http 400 detail)
  | r => r

/-- `_validate_client_ip_access`: the route with its access rule in normal form. -/
def validateClientIpAccess (P : Platform) (route : WebhookRoute) : Except Exn WebhookRoute := do
  let mode ← orBadRequest "Client IP access mode must be public or restricted"
    (normalizeClientIpAccessMode P route.clientIpAccessMode)
  let allowlist ← orBadRequest "Client IP allowlist must contain only IP addresses or CIDR ranges"
    (normalizeClientIpAllowlist P route.clientIpAllowlist)
  if mode = "public" then return { route with clientIpAccessMode := mode, clientIpAllowlist := "" }
  else if allowlist = "" then .error (.http 400 "Restricted routes require at least one client IP or CIDR range")
  else return { route with clientIpAccessMode := mode, clientIpAllowlist := allowlist }

/-- Whether a route is to deliver to a user through Graph, before its chat is known. -/
def WebhookRoute.targetsGraphUser (route : WebhookRoute) : Bool :=
  routeDeliveryBackend route == "graph" && Python.strip route.graphTargetKind == "user"

/-- `_materialize_graph_user_target`: a user becomes the chat with the user. -/
def materializeGraphUserTarget (run : RouteRun) (route : WebhookRoute) : Except Exn WebhookRoute :=
  if route.targetsGraphUser = false then .ok route
  else
    let userId := Python.orElse (Python.strip route.graphUserId) (Python.strip route.graphTargetId)
    if userId = "" then .error (.http 400 "Graph one-on-one routes require a user ID")
    else
      match run.oneOnOneChat userId (Python.orElse route.graphUserDisplayName route.targetName)
          route.graphUserPrincipalName with
      | .error (.graphDelegatedLookup message) => .error (.http 502 message)
      | .error e => .error e
      | .ok chat =>
        .ok { route with
          graphTargetKind := "chat"
          graphTargetId := chat.id
          graphUserId := chat.userId
          graphUserDisplayName := chat.userDisplayName
          graphUserPrincipalName := chat.userPrincipalName
          graphTeamId := ""
          graphTeamName := ""
          graphChannelId := ""
          botServiceUrl := ""
          botConversationId := ""
          botTargetSource := if Python.strip route.botTargetSource = "" then "graph_user_lookup"
            else route.botTargetSource }

/-- `_validate_target`. -/
def validateTarget (route : WebhookRoute) : Except Exn Unit :=
  let backend := routeDeliveryBackend route
  let kind := Python.strip route.graphTargetKind
  if backend ≠ "bot_framework" ∧ backend ≠ "graph" then .error (.http 400 "Unsupported delivery backend")
  else if route.targetType ≠ "bot_conversation" then .error (.http 400 "Unsupported target type")
  else if Python.strip route.targetName = "" then .error (.http 400 "Target name is required")
  else if backend = "bot_framework" ∧ (Python.strip route.botServiceUrl = "" ∨
    Python.strip route.botConversationId = "") then
    .error (.http 400 "Bot service URL and conversation ID are required")
  else if backend = "graph" then
    if kind = "channel" ∧ (Python.strip route.graphTeamId = "" ∨ Python.strip route.graphChannelId = "") then
      .error (.http 400 "Graph channel routes require a team ID and channel ID")
    else if kind = "chat" ∧ Python.strip route.graphTargetId = "" then
      .error (.http 400 "Graph chat routes require an existing chat ID")
    else if kind ≠ "channel" ∧ kind ≠ "chat" then
      .error (.http 400 "Graph delivery supports channel and existing chat targets in V1")
    else .ok ()
  else .ok ()

/-- `_ensure_route_name_available`: no other route of the organization has the name with the backend. -/
def ensureRouteNameAvailable (organizationId : Nat) (name deliveryBackend : String) (routeId : Option Nat)
    (db : Database) : Except Exn Unit :=
  if db.routes.any fun route => route.organizationId == organizationId && route.name == name &&
      route.deliveryBackend == deliveryBackend && routeId != some route.id then
    .error (.http 409 "Webhook route name already exists for this delivery backend")
  else .ok ()

/-- The checks both endpoints make of a route, in their order; `settled` is what an edit does to the members in between.
-/
def checkedRoute (P : Platform) (s : Settings) (run : RouteRun) (settled : WebhookRoute → WebhookRoute)
    (route : WebhookRoute) : Except Exn WebhookRoute := do
  ensureDeliveryBackendFeatureEnabled (routeDeliveryBackend route) s
  let route ← validateClientIpAccess P route
  let route ← materializeGraphUserTarget run route
  let route ← if s.graphLookupEnabled then tryResolveRouteGraphNames run.names false (settled route)
    else .ok (settled route)
  validateTarget route
  return route

/-! ## Creating a route -/

/-- The route a request asks for. -/
def WebhookRouteCreate.route (P : Platform) (run : RouteRun) (organizationId id : Nat) (payload : WebhookRouteCreate) :
    WebhookRoute where
  id := id
  organizationId := organizationId
  name := Python.strip payload.name
  isActive := payload.isActive
  routeTokenHash := lookupSecretHash P run.routeToken
  routeToken := run.routeToken
  deliveryBackend := payload.deliveryBackend.value
  clientIpAccessMode := payload.clientIpAccessMode.value
  clientIpAllowlist := payload.clientIpAllowlist
  targetType := payload.targetType.value
  targetName := Python.strip payload.targetName
  botServiceUrl := Python.strip payload.botServiceUrl
  botConversationId := Python.strip payload.botConversationId
  graphTargetKind := (payload.graphTargetKind.map (·.value)).getD ""
  graphTargetId := Python.strip payload.graphTargetId
  graphTeamId := Python.strip payload.graphTeamId
  graphTeamName := Python.strip payload.graphTeamName
  graphChannelId := Python.strip payload.graphChannelId
  graphUserId := Python.strip payload.graphUserId
  graphUserDisplayName := Python.strip payload.graphUserDisplayName
  graphUserPrincipalName := Python.strip payload.graphUserPrincipalName
  botTargetSource := Python.strip payload.botTargetSource

/-- `create_webhook_route`, for an admin of the organization. -/
def createWebhookRoute (P : Platform) (s : Settings) (run : RouteRun) (organizationId : Nat)
    (payload : WebhookRouteCreate) (db : Database) : Except Exn Database := do
  let route ← checkedRoute P s run id (payload.route P run organizationId db.nextId)
  ensureRouteNameAvailable organizationId route.name (routeDeliveryBackend route) none db
  match insertRoute run.now route db with
  | .error .integrityError => .error (.http 409 "Webhook route name already exists")
  | r => r

/-! ## Editing a route -/

/-- A route with the fields that are given. -/
def WebhookRouteUpdate.apply (payload : WebhookRouteUpdate) (route : WebhookRoute) : WebhookRoute :=
  { route with
    name := (payload.name.map Python.strip).getD route.name
    isActive := payload.isActive.getD route.isActive
    deliveryBackend := (payload.deliveryBackend.map (·.value)).getD route.deliveryBackend
    clientIpAccessMode := (payload.clientIpAccessMode.map (·.value)).getD route.clientIpAccessMode
    clientIpAllowlist :=
      payload.clientIpAllowlist.getD (if payload.clientIpAccessMode = some .publicAccess then ""
        else route.clientIpAllowlist)
    targetType := (payload.targetType.map (·.value)).getD route.targetType
    targetName := (payload.targetName.map Python.strip).getD route.targetName
    botServiceUrl := (payload.botServiceUrl.map Python.strip).getD route.botServiceUrl
    botConversationId := (payload.botConversationId.map Python.strip).getD route.botConversationId
    graphTargetKind := (payload.graphTargetKind.map (·.value)).getD route.graphTargetKind
    graphTargetId := (payload.graphTargetId.map Python.strip).getD route.graphTargetId
    graphTeamId := (payload.graphTeamId.map Python.strip).getD route.graphTeamId
    graphTeamName := (payload.graphTeamName.map Python.strip).getD route.graphTeamName
    graphChannelId := (payload.graphChannelId.map Python.strip).getD route.graphChannelId
    graphUserId := (payload.graphUserId.map Python.strip).getD route.graphUserId
    graphUserDisplayName := (payload.graphUserDisplayName.map Python.strip).getD route.graphUserDisplayName
    graphUserPrincipalName := (payload.graphUserPrincipalName.map Python.strip).getD route.graphUserPrincipalName
    botTargetSource := (payload.botTargetSource.map Python.strip).getD route.botTargetSource }

/-- `_route_member_target_key`. -/
def routeMemberTargetKey (route : WebhookRoute) : String × String × String × String :=
  let backend := routeDeliveryBackend route
  if backend = "graph" then (backend, Python.strip route.graphTargetKind, Python.strip route.graphTargetId, "")
  else (backend, Python.strip route.botServiceUrl, Python.strip route.botConversationId, "")

/-- `_clear_route_members`. -/
def clearRouteMembers (route : WebhookRoute) : WebhookRoute :=
  { route with memberSummary := "", memberCount := 0, memberListJson := "[]", membersRefreshedAt := none,
               membersLookupError := "" }

/-- The members of an edited route are those of its target. -/
def settleMembers (route edited : WebhookRoute) : WebhookRoute :=
  if routeMemberTargetKey edited ≠ routeMemberTargetKey route then clearRouteMembers edited else edited

/-- `update_webhook_route`, for an admin of the organization. -/
def updateWebhookRoute (P : Platform) (s : Settings) (run : RouteRun) (organizationId routeId : Nat)
    (payload : WebhookRouteUpdate) (db : Database) : Except Exn Database := do
  let route ← getOrgRoute organizationId routeId db
  ensureDeliveryBackendFeatureEnabled ((payload.deliveryBackend.map (·.value)).getD (routeDeliveryBackend route)) s
  let edited ← checkedRoute P s run (settleMembers route) (payload.apply route)
  ensureRouteNameAvailable organizationId edited.name (routeDeliveryBackend edited) (some edited.id) db
  return storeRoute run.now edited db

/-! ## Members -/

/-- The text of an error of a lookup of members that is caught; that of a `ValueError` of the runtime is given. -/
def membersErrorText (valueErrorText : String) : Exn → Option String
  | .botConversationMembers message | .botDelivery message | .graphDelegatedLookup message => some message
  | .valueError | .jsonDecodeError | .unicodeDecodeError | .unicodeEncodeError => some valueErrorText
  | _ => none

/-- Whether the members of a route's target can be looked up. -/
def WebhookRoute.hasMembers (route : WebhookRoute) : Bool :=
  (routeDeliveryBackend route == "graph" && Python.strip route.graphTargetKind == "chat") ||
    (routeDeliveryBackend route == "bot_framework" && Python.strip route.botServiceUrl != "" &&
      Python.strip route.botConversationId != "")

/-- A route after a lookup of its members failed. -/
def WebhookRoute.membersFailed (now : Int) (message : String) (route : WebhookRoute) : WebhookRoute :=
  { route with membersLookupError := Python.clip message 1000, membersRefreshedAt := some now, updatedAt := now }

/-- `_refresh_route_members`, from what fetching the members does. -/
def refreshRouteMembers (now : Int) (fetched : Except Exn ConversationMembers) (valueErrorText : String)
    (route : WebhookRoute) : Except Exn WebhookRoute :=
  if route.hasMembers then
    match fetched with
    | .ok members =>
      .ok { route with
        memberSummary := members.memberSummary
        memberCount := members.memberCount
        memberListJson := members.memberListJson
        membersLookupError := ""
        membersRefreshedAt := some now
        targetName := if members.memberSummary = "" then route.targetName else Python.clip members.memberSummary 200
        updatedAt := now }
    | .error e =>
      match membersErrorText valueErrorText e with
      | some message => .ok (route.membersFailed now message)
      | none => .error e
  else
    .ok (route.membersFailed now "Member refresh is only available for Bot Framework conversations and Graph chat routes.")

/-- `refresh_webhook_route_members`, for an admin of the organization. -/
def refreshWebhookRouteMembers (now : Int) (fetched : Except Exn ConversationMembers) (valueErrorText : String)
    (organizationId routeId : Nat) (db : Database) : Except Exn Database := do
  let route ← getOrgRoute organizationId routeId db
  let refreshed ← refreshRouteMembers now fetched valueErrorText route
  return storeRoute now refreshed db

/-- The statement that rewrites a reference whose object in the session has become `reference`. -/
def storeReference (now : Int) (reference : BotConversationReference) (db : Database) : Database :=
  { db with references := Table.update (·.id == reference.id) (fun row => row.flushed now reference) db.references }

/-- `refresh_bot_conversation_reference_members`; with `force` off, what the list of the references does for one of
them. -/
def refreshBotConversationReferenceMembers (P : Platform) (now : Int) (force : Bool)
    (fetched : Except Exn ConversationMembers) (referenceId : Nat) (db : Database) : Except Exn Database :=
  match db.references.find? (·.id == referenceId) with
  | none => .error (.http 404 "Conversation reference not found")
  | some reference => do
    let refreshed ← refreshReferenceChatMembers P now force fetched reference
    return storeReference now refreshed db

/-! ## Names from Graph -/

/-- `_ensure_graph_lookup_enabled`. -/
def ensureGraphLookupEnabled (s : Settings) : Except Exn Unit :=
  if s.graphLookupEnabled then .ok () else .error (.http 409 "Microsoft Graph lookup is disabled")

/-- The changes of a row, or the exception that ended them: both endpoints then roll back. -/
def Changed.raised {ρ : Type} (x : Changed ρ) : Except Exn ρ :=
  match x.2 with
  | none => .ok x.1
  | some e => .error e

/-- `refresh_webhook_route_graph_names`, for an admin of the organization. -/
def refreshWebhookRouteGraphNames (s : Settings) (now : Int) (G : GraphNames) (organizationId : Nat) (db : Database) :
    Except Exn Database := do
  ensureGraphLookupEnabled s
  let references ← db.references.mapM fun reference =>
    (resolveReferenceGraphNames G true reference).raised.map (reference.flushed now)
  let routes ← db.routes.mapM fun route =>
    if route.organizationId = organizationId then (resolveRouteGraphNames G true route).raised.map (route.flushed now)
    else .ok route
  return { db with references := references, routes := routes }

/-- `refresh_single_webhook_route_graph_names`, for an admin of the organization. -/
def refreshSingleWebhookRouteGraphNames (s : Settings) (now : Int) (G : GraphNames) (organizationId routeId : Nat)
    (db : Database) : Except Exn Database := do
  let route ← getOrgRoute organizationId routeId db
  ensureGraphLookupEnabled s
  let resolved ← (resolveRouteGraphNames G true route).raised
  return storeRoute now resolved db

end TeamsRehook
