import TeamsRehook.Webhook.Administration

/-!
# Callers of the token refresh

`services/graph_delegated_lookup.py` and the endpoints that use it, with the job of `routers/admin.py` that refreshes
the status of the connection. `refresh_delegated_access_token` flushes the row of the credential; the request that
called it commits the row, or ends without a commit and loses it. An endpoint here gives the tables that are committed
when it has ended, and its answer.
-/

namespace TeamsRehook

/-- What `list_service_user_chats` and its siblings raise when there is no token. -/
def lookupNotConnected : String :=
  "Delegated Graph delivery is not connected or the service-user token cannot be refreshed."

/-- `refresh_delegated_access_token`, as the lookups call it. -/
def lookupToken (P : Platform) (s : Settings) (now : Int) (organizationId : Nat) (out : UrlOutcome)
    (credentials : List GraphDelegatedCredential) :
    List GraphDelegatedCredential × Except Exn (String × GraphDelegatedCredential) :=
  let r := refreshDelegatedAccessToken P s now organizationId out credentials
  (r.1,
    match r.2 with
    | .error (.graphDelegatedAuth _) | .error (.expiredRefreshToken _) =>
      .error (.graphDelegatedLookup lookupNotConnected)
    | r => r)

/-! ## Requests to Graph -/

/-- `_safe_error_message` of an `HTTPError` with a body. -/
def safeErrorMessage (P : Platform) (read : BodyRead) : Except Exn String := do
  let content ← read.read
  match jsonLoads P (P.decodeUtf8Replace content) with
  | .error .jsonDecodeError => return "The Graph response could not be parsed."
  | .error e => throw e
  | .ok body =>
    match Json.get? "error" body with
    | some (.obj error) =>
      let item := fun key => (Json.lookup key error).getD .null
      let message := Python.strip (strOf P (orElse (item "message") (.str "Microsoft Graph returned an error.")))
      let code := Python.strip (strOf P (orElse (item "code") (.str "")))
      return if code = "" then message else code ++ ": " ++ message
    | _ => return "Microsoft Graph returned an error."

/-- `_graph_get` and `_graph_post_json`: the body, a `dict`. They differ in the text of their errors, and in that the
body of an answer to a post may be empty. -/
def lookupRequest (P : Platform) (failed : String) (mayBeEmpty : Bool) : UrlOutcome → Except Exn (List (String × Json))
  | .response _ read => do
    let content ← read.read
    let text ← decodeUtf8 P content
    match if mayBeEmpty ∧ text = "" then .ok (.obj []) else jsonLoads P text with
    | .ok body => return dict body
    | .error .jsonDecodeError => throw (.graphDelegatedLookup (failed ++ "."))
    | .error e => throw e
  | .httpError code read => do
    let message ← safeErrorMessage P read
    throw (.graphDelegatedLookup (failed ++ " with HTTP " ++ toString code ++ ": " ++ message))
  | .urlError => .error (.graphDelegatedLookup (failed ++ "."))
  | .timeoutError => .error .timeoutError
  | .connectionError => .error .connectionError

/-- `_graph_get`. -/
def lookupGet (P : Platform) : UrlOutcome → Except Exn (List (String × Json)) :=
  lookupRequest P "Microsoft Graph chat lookup failed" false

/-- `_graph_post_json`. -/
def lookupPostJson (P : Platform) : UrlOutcome → Except Exn (List (String × Json)) :=
  lookupRequest P "Microsoft Graph one-on-one chat creation failed" true

/-- `str(body.get("id") or "").strip()`. -/
def idOf (P : Platform) (body : List (String × Json)) : String :=
  Python.strip (strOf P (orElse ((Json.lookup "id" body).getD .null) (.str "")))

/-- `_current_user_id`. -/
def currentUserId (P : Platform) (out : UrlOutcome) : Except Exn String := (lookupGet P out).map (idOf P)

/-! ## One-on-one chats -/

/-- `_looks_like_graph_chat_id`. -/
def looksLikeGraphChatId (P : Platform) (value : String) : Bool :=
  let normalized := P.lower (Python.strip value)
  normalized.startsWith "19:" || Python.contains normalized "@thread."

/-- What the requests of `create_or_get_one_on_one_chat` do: for the token, for the service user and for the chat. -/
structure ChatRun where
  token : UrlOutcome
  me : UrlOutcome
  post : UrlOutcome

/-- `create_or_get_one_on_one_chat` from its token on, which was fetched for the credential. The payload of the post is
left out; what the post does is given. -/
def chatWithToken (P : Platform) (graph : ChatRun) (credential : GraphDelegatedCredential)
    (userId userDisplayName userPrincipalName : String) : Except Exn DelegatedGraphOneOnOneChat := do
  let serviceUserId ←
    if Python.strip credential.serviceUserId = "" then currentUserId P graph.me
    else .ok (Python.strip credential.serviceUserId)
  if serviceUserId ≠ "" ∧ P.lower serviceUserId = P.lower userId then
    throw (.graphDelegatedLookup "The Graph route target cannot be the connected service user.")
  if Python.strip (Python.orElse serviceUserId (Python.strip credential.serviceUserPrincipalName)) = "" then
    throw (.graphDelegatedLookup "Delegated Graph service-user metadata is incomplete. Reconnect the service user.")
  let body ← lookupPostJson P graph.post
  if idOf P body = "" then
    throw (.graphDelegatedLookup "Microsoft Graph did not return a chat ID for the one-on-one chat.")
  return {
    id := idOf P body
    userId := userId
    userDisplayName := Python.strip userDisplayName
    userPrincipalName := Python.strip userPrincipalName }

/-- `create_or_get_one_on_one_chat`: the credentials in the session, and the chat. -/
def createOrGetOneOnOneChat (P : Platform) (s : Settings) (now : Int) (organizationId : Nat) (graph : ChatRun)
    (credentials : List GraphDelegatedCredential) (userId userDisplayName userPrincipalName : String) :
    List GraphDelegatedCredential × Except Exn DelegatedGraphOneOnOneChat :=
  let userId := Python.strip userId
  if userId = "" then
    (credentials, .error (.graphDelegatedLookup "A Microsoft Graph user ID or user principal name is required."))
  else if looksLikeGraphChatId P userId then
    (credentials, .error (.graphDelegatedLookup
      "A one-on-one route requires a Microsoft 365 user ID or UPN, not an existing Teams chat ID."))
  else
    let r := lookupToken P s now organizationId graph.token credentials
    (r.1, r.2.bind fun token => chatWithToken P graph token.2 userId userDisplayName userPrincipalName)

/-- The run of a request with one-on-one chats as `create_or_get_one_on_one_chat` gives them, the credentials being
those stored. -/
def RouteRun.withChats (P : Platform) (s : Settings) (run : RouteRun) (organizationId : Nat) (graph : ChatRun)
    (credentials : List GraphDelegatedCredential) : RouteRun :=
  { run with oneOnOneChat := fun userId userDisplayName userPrincipalName =>
      (createOrGetOneOnOneChat P s run.now organizationId graph credentials userId userDisplayName userPrincipalName).2 }

/-- The credentials in the session after `_materialize_graph_user_target` has made a chat of the route's user. -/
def materializedCredentials (P : Platform) (s : Settings) (now : Int) (organizationId : Nat) (graph : ChatRun)
    (route : WebhookRoute) (credentials : List GraphDelegatedCredential) : List GraphDelegatedCredential :=
  if route.targetsGraphUser then
    (createOrGetOneOnOneChat P s now organizationId graph credentials
      (Python.orElse (Python.strip route.graphUserId) (Python.strip route.graphTargetId))
      (Python.orElse route.graphUserDisplayName route.targetName) route.graphUserPrincipalName).1
  else credentials

/-- The texts of a route's row, with the sizes of their columns. -/
def WebhookRoute.texts (route : WebhookRoute) : List (Option Nat × String) :=
  [(some 200, route.name), (some 64, route.routeTokenHash), (none, route.routeToken), (some 32, route.deliveryBackend),
    (some 32, route.clientIpAccessMode), (none, route.clientIpAllowlist), (some 32, route.targetType),
    (some 200, route.targetName), (none, route.botServiceUrl), (none, route.botConversationId),
    (some 32, route.graphTargetKind), (none, route.graphTargetId), (none, route.graphTeamId),
    (some 200, route.graphTeamName), (none, route.graphChannelId), (none, route.graphUserId),
    (some 255, route.graphUserDisplayName), (some 255, route.graphUserPrincipalName), (some 500, route.memberSummary),
    (none, route.memberListJson), (none, route.membersLookupError), (some 40, route.botTargetSource),
      (none, route.botRegisteredById)]

/-- Whether the insertion of a route raises nothing because of its texts. -/
def WebhookRoute.inserts (P : Platform) (route : WebhookRoute) : Bool :=
  route.texts.all fun text => takesText P text.1 text.2

/-- Whether the flush of a route that a session has changed raises nothing because of its texts. -/
def WebhookRoute.flushes (P : Platform) (loaded route : WebhookRoute) : Bool :=
  (loaded.texts.zip route.texts).all fun texts => flushesText P texts.2.1 texts.1.2 texts.2.2

/-- The end of a request: its tables with the credentials of its session are committed, or it raised, or its flush does,
and nothing is. -/
def commitWith (credentials : List GraphDelegatedCredential) (flushes : Bool) (db : Database) :
    Except Exn Database → Database × Except Exn Unit
  | .ok db' => if flushes then ({ db' with credentials := credentials }, .ok ()) else (db, .error .dataError)
  | .error e => (db, .error e)

/-- Whether the flush of the route that a request creates raises nothing. -/
def createdFlushes (P : Platform) (s : Settings) (run : RouteRun) (route : WebhookRoute) : Bool :=
  match checkedRoute P s run id route with
  | .ok row => row.inserts P
  | .error _ => true

/-- Whether the flushes of the route that a request edits raise nothing. The token of a chat flushes the session before
the chat is known. -/
def editedFlushes (P : Platform) (s : Settings) (run : RouteRun) (route edited : WebhookRoute) : Bool :=
  match validateClientIpAccess P edited, checkedRoute P s run (settleMembers route) edited with
  | .ok admitted, .ok row =>
    let flushed := if admitted.targetsGraphUser then admitted else route
    route.flushes P flushed && flushed.flushes P row
  | _, _ => true

/-- `create_webhook_route`, with the credentials. -/
def createWebhookRouteWithChat (P : Platform) (s : Settings) (run : RouteRun) (graph : ChatRun) (organizationId : Nat)
    (payload : WebhookRouteCreate) (db : Database) : Database × Except Exn Unit :=
  let chats := run.withChats P s organizationId graph db.credentials
  let route := payload.route P run organizationId db.nextId
  commitWith (materializedCredentials P s run.now organizationId graph route db.credentials)
    (createdFlushes P s chats route) db
    (createWebhookRoute P s chats organizationId payload db)

/-- `update_webhook_route`, with the credentials. -/
def updateWebhookRouteWithChat (P : Platform) (s : Settings) (run : RouteRun) (graph : ChatRun)
    (organizationId routeId : Nat) (payload : WebhookRouteUpdate) (db : Database) : Database × Except Exn Unit :=
  match getOrgRoute organizationId routeId db with
  | .error e => (db, .error e)
  | .ok route =>
    let chats := run.withChats P s organizationId graph db.credentials
    commitWith (materializedCredentials P s run.now organizationId graph (payload.apply route) db.credentials)
      (editedFlushes P s chats route (payload.apply route)) db
      (updateWebhookRoute P s chats organizationId routeId payload db)

/-! ## Chats and members -/

/-- `DelegatedGraphChat`. -/
structure DelegatedGraphChat where
  id : String
  displayName : String
  subtitle : String := ""
  deriving DecidableEq, Repr

/-- `list_service_user_chats`; what it does once it has a token is given. -/
def listServiceUserChats (P : Platform) (s : Settings) (now : Int) (organizationId : Nat) (token : UrlOutcome)
    (chats : Except Exn (List DelegatedGraphChat)) (credentials : List GraphDelegatedCredential) :
    List GraphDelegatedCredential × Except Exn (List DelegatedGraphChat) :=
  let r := lookupToken P s now organizationId token credentials
  (r.1, r.2.bind fun _ => chats)

/-- `search_service_user_chats`. It reads, and does not commit: the credentials that the lookup leaves in the session
are lost. -/
def searchServiceUserChats (P : Platform) (s : Settings) (now : Int) (organizationId : Nat) (token : UrlOutcome)
    (chats : Except Exn (List DelegatedGraphChat)) (db : Database) :
    Database × Except Exn (List DelegatedGraphChat) :=
  match ensureGraphLookupEnabled s with
  | .error e => (db, .error e)
  | .ok () =>
    (db,
      match (listServiceUserChats P s now organizationId token chats db.credentials).2 with
      | .error (.graphDelegatedLookup message) => .error (.http 502 message)
      | r => r)

/-- What `fetch_service_user_chat_members` makes of the outcome of its request. -/
def graphChatMembers (P : Platform) (out : UrlOutcome) : Except Exn ConversationMembers := do
  let data ← lookupGet P out
  match Json.lookup "value" data with
  | some (.arr rawMembers) => return .ofMembers P ((objects rawMembers).map (botMemberFromGraphMember P))
  | _ => throw (.graphDelegatedLookup "Microsoft Graph chat members response was invalid.")

/-- `fetch_service_user_chat_members`. -/
def fetchServiceUserChatMembers (P : Platform) (s : Settings) (now : Int) (organizationId : Nat)
    (token members : UrlOutcome) (chatId : String) (credentials : List GraphDelegatedCredential) :
    List GraphDelegatedCredential × Except Exn ConversationMembers :=
  if Python.strip chatId = "" then (credentials, .error (.graphDelegatedLookup "A Microsoft Graph chat ID is required."))
  else
    let r := lookupToken P s now organizationId token credentials
    (r.1, r.2.bind fun _ => graphChatMembers P members)

/-- What the requests of a refresh of members do: to Graph, or to the bot's services. -/
structure MembersRun where
  token : UrlOutcome
  members : UrlOutcome
  botToken : UrlOutcome
  botMembers : UrlOutcome
  manager : BotTokenManager := {}

/-- Whether `_refresh_route_members` asks Graph for the members. -/
def WebhookRoute.targetsGraphChat (route : WebhookRoute) : Bool :=
  routeDeliveryBackend route == "graph" && Python.strip route.graphTargetKind == "chat"

/-- Whether the flush of a route whose members were refreshed raises nothing. -/
def membersFlush (P : Platform) (now : Int) (fetched : Except Exn ConversationMembers) (valueErrorText : String)
    (route : WebhookRoute) : Bool :=
  match refreshRouteMembers now fetched valueErrorText route with
  | .ok row => route.flushes P row
  | .error _ => true

/-- `refresh_webhook_route_members`, with the credentials. -/
def refreshWebhookRouteMembersWithToken (P : Platform) (s : Settings) (now : Int) (run : MembersRun)
    (valueErrorText : String) (organizationId routeId : Nat) (db : Database) : Database × Except Exn Unit :=
  match getOrgRoute organizationId routeId db with
  | .error e => (db, .error e)
  | .ok route =>
    let fetched :=
      if route.targetsGraphChat then
        fetchServiceUserChatMembers P s now route.organizationId run.token run.members route.graphTargetId db.credentials
      else
        (db.credentials,
          fetchBotConversationMembers P s now route.botServiceUrl route.botConversationId run.botToken
            run.botMembers run.manager)
    commitWith fetched.1 (membersFlush P now fetched.2 valueErrorText route) db
      (refreshWebhookRouteMembers now fetched.2 valueErrorText organizationId routeId db)

/-! ## The status refresh job -/

/-- The status of a component: refreshed, failed or skipped. -/
inductive ComponentStatus where
  | refreshed | failed | skipped
  deriving DecidableEq, Repr

/-- `_refresh_graph_delivery_token`: the credentials in the session, and the status of the component. -/
def refreshGraphDeliveryToken (P : Platform) (s : Settings) (now : Int) (organizationId : Nat) (token : UrlOutcome)
    (credentials : List GraphDelegatedCredential) : List GraphDelegatedCredential × Except Exn ComponentStatus :=
  if s.graphDeliveryEnabled = false ∨ s.graphLookupEnabled = false then (credentials, .ok .skipped)
  else
    match credentials.find? (·.organizationId == organizationId) with
    | none => (credentials, .ok .skipped)
    | some credential =>
      if credential.encryptedRefreshToken = "" then (credentials, .ok .skipped)
      else
        let r := refreshDelegatedAccessToken P s now organizationId token credentials
        (r.1,
          match r.2 with
          | .ok _ => .ok .refreshed
          | .error (.graphDelegatedConfig _) | .error (.graphDelegatedAuth _) | .error (.expiredRefreshToken _) =>
            .ok .failed
          | .error (.http code detail) =>
            if Python.contains detail "SETTINGS_ENC_KEY" then .ok .failed else .error (.http code detail)
          | .error e => .error e)

/-- `_run_delivery_auth_refresh_job`. What the other components do is given, of which two come before and one after; an
exception ends the job without a commit. -/
def runDeliveryAuthRefreshJob (P : Platform) (s : Settings) (now : Int) (organizationId : Nat) (token : UrlOutcome)
    (before after : Except Exn Unit) (db : Database) : Database × Except Exn ComponentStatus :=
  match before with
  | .error e => (db, .error e)
  | .ok () =>
    let r := refreshGraphDeliveryToken P s now organizationId token db.credentials
    match r.2 with
    | .error e => (db, .error e)
    | .ok status =>
      match after with
      | .error e => (db, .error e)
      | .ok () => ({ db with credentials := r.1 }, .ok status)

end TeamsRehook
