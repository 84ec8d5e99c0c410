import TeamsRehook.Bot.Authorization
import TeamsRehook.Bot.References
import TeamsRehook.ClientIpAllowlist

/-!
# Commands of the bot

The handlers of `routers/bot_messages.py`: what each command does to the routes and their reveal tokens. The replies are
left out.
-/

namespace TeamsRehook

/-- What the services do while an activity is handled, and the secrets that are drawn. -/
structure BotRun where
  now : Int
  referenceNames : GraphNames := .empty
  routeNames : GraphNames := .empty
  members : Except Exn ConversationMembers
  membership : MembershipAnswers
  routeToken : String
  revealTokens : Nat → String

/-! ## Targets -/

/-- `_captured_with_reference`: what an activity does not give is taken from the reference. -/
def capturedWithReference (captured : Captured) (reference : BotConversationReference) : Captured :=
  { captured with
    serviceUrl := Python.orElse captured.serviceUrl reference.serviceUrl
    conversationId := Python.orElse captured.conversationId reference.conversationId
    tenantId := Python.orElse captured.tenantId reference.tenantId
    teamId := Python.orElse captured.teamId reference.teamId
    graphTeamId := Python.orElse captured.graphTeamId reference.graphTeamId
    channelId := Python.orElse captured.channelId reference.channelId
    conversationType := Python.orElse captured.conversationType reference.conversationType
    isGroup := captured.isGroup || reference.scope == ConversationScope.chat.value
    memberSummary := Python.orElse captured.memberSummary reference.memberSummary
    teamName := Python.orElse captured.teamName reference.teamName
    channelName := Python.orElse captured.channelName reference.channelName
    fromId := Python.orElse captured.fromId reference.userId
    userName := Python.orElse captured.userName reference.userName
    graphUserId := Python.orElse captured.graphUserId reference.graphUserId }

/-- `_target_name`. -/
def targetName (P : Platform) (captured : Captured) : String :=
  if captured.teamName ≠ "" ∧ captured.channelName ≠ "" then
    Python.clip (captured.teamName ++ " / " ++ captured.channelName) 200
  else if captured.channelName ≠ "" then Python.clip captured.channelName 200
  else if captured.teamName ≠ "" then Python.clip captured.teamName 200
  else if captured.memberSummary ≠ "" then Python.clip captured.memberSummary 200
  else if scopeFor P captured = .chat then "Group chat"
  else
    Python.clip (Python.orElse captured.userName (Python.orElse captured.graphUserId (Python.orElse captured.fromId
      (Python.orElse captured.conversationId "Teams conversation")))) 200

/-- The kind of a target in Graph. -/
inductive TargetKind where
  | none | user | team | channel | chat
  deriving DecidableEq, Repr

/-- The text of a kind. -/
def TargetKind.value : TargetKind → String
  | .none => ""
  | .user => "user"
  | .team => "team"
  | .channel => "channel"
  | .chat => "chat"

/-- `_graph_target_kind`. -/
def graphTargetKind (P : Platform) (captured : Captured) : TargetKind :=
  if scopeFor P captured = .chat then .chat
  else if captured.channelId ≠ "" then .channel
  else if captured.graphTeamId ≠ "" then .team
  else if captured.graphUserId ≠ "" ∨ captured.fromId ≠ "" then .user
  else .none

/-- `_graph_target_id`. -/
def graphTargetId (P : Platform) (captured : Captured) : String :=
  match graphTargetKind P captured with
  | .channel => captured.channelId
  | .team => captured.graphTeamId
  | .chat => captured.conversationId
  | .user => Python.orElse captured.graphUserId captured.fromId
  | .none => ""

/-! ## Linked routes -/

/-- Routes as a query orders them, the last changed first. -/
def newestFirst (routes : List WebhookRoute) : List WebhookRoute :=
  routes.insertionSort fun route other => other.updatedAt ≤ route.updatedAt

/-- `routes_by_id`: the first route with each id. -/
def routesById (routes : List WebhookRoute) : List WebhookRoute :=
  routes.foldl (fun seen route => if seen.any (·.id == route.id) then seen else seen ++ [route]) []

/-- The routes of an organization that are linked to a conversation: those of the conversation, then those of its
channel. -/
def conversationRoutes (organizationId : Nat) (captured : Captured) (db : Database) : List WebhookRoute :=
  let ofOrganization := db.routes.filter (·.organizationId == organizationId)
  routesById (newestFirst (ofOrganization.filter fun route =>
      captured.conversationId != "" && route.botConversationId == captured.conversationId) ++
    newestFirst (ofOrganization.filter fun route =>
      captured.graphTeamId != "" && captured.channelId != "" && route.graphTeamId == captured.graphTeamId &&
        route.graphChannelId == captured.channelId))

/-- `_find_routes_for_reference`: the linked routes of the default organization, which is created when there is none. -/
def findRoutesForReference (s : Settings) (captured : Captured) (db : Database) : Database × List WebhookRoute :=
  let (db, organization) := defaultOrganization s db
  (db, conversationRoutes organization.id captured db)

/-- `_resolve_linked_route`, in the default organization: the linked route with the name, or the only one when no name
is given. -/
def resolveLinkedRoute (organizationId : Nat) (captured : Captured) (routeName : String) (db : Database) :
    Option WebhookRoute :=
  let routes := conversationRoutes organizationId captured db
  if routeName ≠ "" then routes.find? (·.name == routeName)
  else
    match routes with
    | [route] => some route
    | _ => none

/-- The statement that rewrites a route whose object in the session has become `route`. -/
def storeRoute (now : Int) (route : WebhookRoute) (db : Database) : Database :=
  { db with routes := Table.update (·.id == route.id) (fun row => row.flushed now route) db.routes }

/-- The statements that delete a route, and before it what refers to it. -/
def deleteRoute (routeId : Nat) (db : Database) : Database :=
  { db with
    events := Table.update (·.routeId == some routeId) (fun event => { event with routeId := none }) db.events
    reveals := Table.delete (·.routeId == routeId) db.reveals
    routes := Table.delete (·.id == routeId) db.routes }

/-- `_issue_webhook_reveal_url`, with the token it draws. -/
def issueWebhookRevealUrl (P : Platform) (s : Settings) (now : Int) (token : String) (route : WebhookRoute)
    (db : Database) : Database :=
  if route.routeToken = "" then db
  else
    { db with
      reveals := Table.delete (fun reveal => decide (reveal.expiresAt ≤ now)) db.reveals ++
        [{ id := db.nextId
           organizationId := route.organizationId
           routeId := route.id
           tokenHash := lookupSecretHash P token
           expiresAt := now + hours s.webhookUrlRevealTtlHours }]
      nextId := db.nextId + 1 }

/-- A reveal token for each route, from the `n`-th token drawn on. -/
def issueWebhookRevealUrls (P : Platform) (s : Settings) (run : BotRun) : Nat → List WebhookRoute → Database → Database
  | _, [], db => db
  | n, route :: routes, db =>
    issueWebhookRevealUrls P s run (n + 1) routes (issueWebhookRevealUrl P s run.now (run.revealTokens n) route db)

/-! ## The handlers -/

/-- The route after `register`: it is active, and its target is the conversation. -/
def registeredRoute (P : Platform) (now : Int) (effective : Captured) (reference : BotConversationReference)
    (route : WebhookRoute) : WebhookRoute :=
  { route with
    isActive := true
    deliveryBackend := "bot_framework"
    botServiceUrl := effective.serviceUrl
    botConversationId := effective.conversationId
    targetName := targetName P effective
    graphTargetKind := (graphTargetKind P effective).value
    graphTargetId := graphTargetId P effective
    graphTeamId := effective.graphTeamId
    graphTeamName := Python.clip effective.teamName 200
    graphChannelId := if graphTargetKind P effective = .channel then effective.channelId else ""
    memberSummary := reference.memberSummary
    memberCount := reference.memberCount
    memberListJson := reference.memberListJson
    membersRefreshedAt := reference.membersRefreshedAt
    membersLookupError := reference.membersLookupError
    botTargetSource := "bot_command"
    botRegisteredById := Python.orElse effective.graphUserId effective.fromId
    botRegisteredAt := some now }

/-- The Bot Framework route of an organization with a name. -/
def Database.botRouteNamed (db : Database) (organizationId : Nat) (name : String) : Option WebhookRoute :=
  db.routes.find? fun route => route.organizationId == organizationId && route.name == name &&
    route.deliveryBackend == "bot_framework"

/-- The tables with the route that `register` creates, when no other one has its token. -/
def insertRoute (now : Int) (route : WebhookRoute) (db : Database) : Except Exn Database :=
  if db.routes.any (·.routeTokenHash == route.routeTokenHash) then .error .integrityError
  else .ok { db with routes := db.routes ++ [{ route with updatedAt := now }], nextId := db.nextId + 1 }

/-- The route that `register` works on: the one with the name, or a new one. -/
def routeToRegister (P : Platform) (run : BotRun) (organizationId : Nat) (name : String) (effective : Captured)
    (db : Database) : WebhookRoute :=
  match db.botRouteNamed organizationId name with
  | some route => route
  | none =>
    { id := db.nextId
      organizationId := organizationId
      name := name
      routeTokenHash := lookupSecretHash P run.routeToken
      routeToken := run.routeToken
      targetName := targetName P effective }

/-- The tables with the route that was registered. -/
def storeRegistered (now : Int) (organizationId : Nat) (name : String) (route : WebhookRoute) (db : Database) :
    Except Exn Database :=
  match db.botRouteNamed organizationId name with
  | some _ => .ok (storeRoute now route db)
  | none => insertRoute now route db

/-- `_register_route_from_command`. -/
def registerRouteFromCommand (P : Platform) (s : Settings) (run : BotRun) (captured : Captured) (routeName : String)
    (reference : Option BotConversationReference) (permissions : BotPermissions) (db : Database) : Except Exn Database :=
  match reference with
  | none => .ok db
  | some reference =>
    if routeName = "" ∨ 200 < routeName.length ∨ captured.serviceUrl = "" ∨ captured.conversationId = "" then .ok db
    else do
      let (db, organization) := defaultOrganization s db
      let effective := capturedWithReference captured reference
      let route ← tryResolveRouteGraphNames run.routeNames false
        (registeredRoute P run.now effective reference (routeToRegister P run organization.id routeName effective db))
      let db ← storeRegistered run.now organization.id routeName route db
      return if permissions.canRevealWebhookUrls then
        issueWebhookRevealUrl P s run.now (run.revealTokens 0) route db else db

/-- `_webhook_url_command`. -/
def webhookUrlCommand (P : Platform) (s : Settings) (run : BotRun) (routeName : String) (db : Database) : Database :=
  if routeName = "" ∨ 200 < routeName.length then db
  else
    let (db, organization) := defaultOrganization s db
    match db.routes.find? fun route => route.organizationId == organization.id && route.name == routeName with
    | some route => issueWebhookRevealUrl P s run.now (run.revealTokens 0) route db
    | none => db

/-- `_set_route_active_command`. -/
def setRouteActiveCommand (P : Platform) (s : Settings) (run : BotRun) (captured : Captured) (routeName : String)
    (isActive : Bool) (permissions : BotPermissions) (db : Database) : Database :=
  if 200 < routeName.length then db
  else
    let (db, organization) := defaultOrganization s db
    match resolveLinkedRoute organization.id captured routeName db with
    | some route =>
      let db := storeRoute run.now { route with isActive := isActive } db
      if permissions.canRevealWebhookUrls then issueWebhookRevealUrl P s run.now (run.revealTokens 0) route db else db
    | none => db

/-- `_delete_linked_route_command`. -/
def deleteLinkedRouteCommand (s : Settings) (captured : Captured) (routeName : String) (db : Database) : Database :=
  if routeName = "" ∨ 200 < routeName.length then db
  else
    let (db, organization) := defaultOrganization s db
    match resolveLinkedRoute organization.id captured routeName db with
    | some route => deleteRoute route.id db
    | none => db

/-- `_info_command`: links for the route with the name, or for every linked one when no name is given. -/
def infoCommand (P : Platform) (s : Settings) (run : BotRun) (captured : Captured) (routeName : String)
    (permissions : BotPermissions) (db : Database) : Database :=
  if 200 < routeName.length then db
  else
    let (db, routes) := findRoutesForReference s captured db
    let shown := if routeName ≠ "" then (routes.find? (·.name == routeName)).toList else routes
    if permissions.canRevealWebhookUrls then issueWebhookRevealUrls P s run 0 (shown.filter (·.routeToken != "")) db
    else db

/-- `_parse_restricted_allowlist_argument`. -/
def parseRestrictedAllowlistArgument (argument : String) : String × String :=
  match Python.splitFirst argument ":" with
  | some (routeName, allowlist) => (Python.strip routeName, Python.strip allowlist)
  | none => ("", argument)

/-- `_set_allowlist_command`. -/
def setAllowlistCommand (P : Platform) (s : Settings) (run : BotRun) (captured : Captured)
    (routeName mode allowlist : String) (db : Database) : Database :=
  if 200 < routeName.length then db
  else
    let (db, organization) := defaultOrganization s db
    match resolveLinkedRoute organization.id captured routeName db, normalizeClientIpAllowlist P allowlist with
    | some route, .ok normalizedAllowlist =>
      if mode = "restricted" ∧ normalizedAllowlist = "" then db
      else
        storeRoute run.now
          { route with
            clientIpAccessMode := mode
            clientIpAllowlist := if mode = "restricted" then normalizedAllowlist else "" } db
    | _, _ => db

/-- `_allowlist_command`: what shows an allowlist changes nothing. -/
def allowlistCommand (P : Platform) (s : Settings) (run : BotRun) (captured : Captured) (argument : String)
    (db : Database) : Database :=
  let lowered := P.lower argument
  if argument = "" ∨ lowered = "show" ∨ Python.startsWith lowered "show " then db
  else if lowered = "public" ∨ Python.startsWith lowered "public " then
    setAllowlistCommand P s run captured (Python.strip (Python.drop argument 6)) "public" "" db
  else if lowered = "restricted" ∨ Python.startsWith lowered "restricted " then
    let (routeName, allowlist) := parseRestrictedAllowlistArgument (Python.strip (Python.drop argument 10))
    setAllowlistCommand P s run captured routeName "restricted" allowlist db
  else db

/-- `_handle_command`, for the sender's permissions. -/
def handleCommand (P : Platform) (s : Settings) (run : BotRun) (captured : Captured)
    (reference : Option BotConversationReference) (command : BotCommand) (argument : String)
    (permissions : BotPermissions) (db : Database) : Except Exn Database :=
  match command with
  | .register => registerRouteFromCommand P s run captured argument reference permissions db
  | .webhook => .ok (webhookUrlCommand P s run argument db)
  | .disable => .ok (setRouteActiveCommand P s run captured argument false permissions db)
  | .enable => .ok (setRouteActiveCommand P s run captured argument true permissions db)
  | .delete => .ok (deleteLinkedRouteCommand s captured argument db)
  | .info => .ok (infoCommand P s run captured argument permissions db)
  | .allowlist => .ok (allowlistCommand P s run captured argument db)
  | .help => .ok db

end TeamsRehook
