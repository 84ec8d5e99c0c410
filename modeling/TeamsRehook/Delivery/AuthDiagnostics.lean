import TeamsRehook.Delivery.OAuthState
import TeamsRehook.DeliveryAuthJobs
import TeamsRehook.Lib.Transition

/-!
# Diagnostics of the app registration

`services/auth_diagnostics.py`, the components of a refresh job in `routers/admin.py` that fetch a token for the app
registration, and the readiness of the bot and of the Graph lookup. The readiness is told from a stored snapshot of the
last refresh and asks no service; a snapshot is recognised by a signature of the credentials it was taken with.
-/

namespace TeamsRehook

/-- `AUTH_COMPONENT_BOT_DELIVERY` and `AUTH_COMPONENT_GRAPH_LOOKUP`. -/
inductive AuthComponent where
  | botDelivery | graphLookup
  deriving DecidableEq, Repr

/-- The settings, with the two scopes that only the environment sets. -/
structure AuthSettings extends Settings where
  botframeworkScope : String := "https://api.botframework.com/.default"
  graphScope : String := "https://graph.microsoft.com/.default"

/-- What a token of the app is fetched with. -/
structure AppCredentials where
  tenantId : String
  clientId : String
  clientSecret : String
  scope : String
  deriving DecidableEq, Repr

/-- The scope of a component. -/
def AuthSettings.scope (s : AuthSettings) : AuthComponent → String
  | .botDelivery => s.botframeworkScope
  | .graphLookup => s.graphScope

/-- The credentials of a component. -/
def AuthSettings.credentials (s : AuthSettings) (component : AuthComponent) : AppCredentials :=
  ⟨s.msAppTenantId, s.msAppClientId, s.msAppClientSecret, s.scope component⟩

/-! ## Signatures -/

/-- The text that `credential_signature` hashes: a NUL ends each value. -/
def signatureText (values : List String) : String := String.join (values.map (· ++ "\x00"))

/-- `credential_signature`. -/
def credentialSignature (P : Platform) (values : List String) : String := P.sha256Hex (signatureText values)

/-- The values that sign the credentials, in their order. -/
def AppCredentials.values (c : AppCredentials) : List String := [c.tenantId, c.clientId, c.clientSecret, c.scope]

/-- `app_only_credential_signature`. -/
def appOnlyCredentialSignature (P : Platform) (c : AppCredentials) : String := credentialSignature P c.values

/-! ## Diagnostics -/

/-- `OAuthTokenDiagnosticsOut`. -/
structure OAuthTokenDiagnostics where
  checked : Bool := false
  succeeded : Bool := false
  checkedAt : Option Int := none
  expiresInSeconds : Option Int := none
  expiresAt : Option Int := none
  audience : String := ""
  issuer : String := ""
  roles : List String := []
  deriving DecidableEq, Repr

/-- `OAuthAppDiagnosticsOut`. -/
structure OAuthAppDiagnostics where
  metadataChecked : Bool := false
  available : Bool := false
  displayName : String := ""
  appId : String := ""
  servicePrincipalId : String := ""
  accountEnabled : Option Bool := none
  servicePrincipalType : String := ""
  message : String := ""
  deriving DecidableEq, Repr

/-- `OAuthTenantDiagnosticsOut`. -/
structure OAuthTenantDiagnostics where
  metadataChecked : Bool := false
  available : Bool := false
  displayName : String := ""
  primaryDomain : String := ""
  message : String := ""
  deriving DecidableEq, Repr

/-- `OAuthDiagnosticsOut`. -/
structure OAuthDiagnostics where
  credentialSource : String := ""
  tenantId : String := ""
  clientId : String := ""
  scope : String := ""
  token : OAuthTokenDiagnostics := {}
  app : OAuthAppDiagnostics := {}
  tenant : OAuthTenantDiagnostics := {}
  deriving DecidableEq, Repr

/-- `_oauth_diagnostics`. -/
def oauthDiagnostics (credentialSource : String) (c : AppCredentials) (token : OAuthTokenDiagnostics := {})
    (metadata : OAuthAppDiagnostics × OAuthTenantDiagnostics := ({}, {})) : OAuthDiagnostics where
  credentialSource := credentialSource
  tenantId := c.tenantId
  clientId := c.clientId
  scope := c.scope
  token := token
  app := metadata.1
  tenant := metadata.2

/-! ## Fetching a token -/

/-- How a token or the metadata are refused: by the configuration, by the request, or with an exception that is not
handled. -/
inductive OAuthFailure where
  | config (message : String)
  | request (message : String)
  | raised (e : Exn)
  deriving Repr

/-- An exception that is not one of the two kinds. -/
def orRaised {α : Type} : Except Exn α → Except OAuthFailure α
  | .ok value => .ok value
  | .error e => .error (.raised e)

/-- The `except (urllib.error.URLError, json.JSONDecodeError)` of a request. -/
def orRequestFailed {α : Type} (message : String) : Except Exn α → Except OAuthFailure α
  | .ok value => .ok value
  | .error .urlError | .error .jsonDecodeError => .error (.request message)
  | .error e => .error (.raised e)

/-- `OAuthTokenResponse`. -/
structure OAuthTokenResponse where
  accessToken : String
  expiresInSeconds : Int
  claims : List (String × Json)
  deriving Repr

/-- `_decode_jwt_claims` of `routers/admin.py`. -/
def adminDecodeJwtClaims (P : Platform) (token : String) : Except Exn (List (String × Json)) :=
  match Python.splitChar token '.' with
  | _ :: payload :: _ =>
    match (P.base64UrlDecode (payload ++ String.ofList (Base64.padding payload.toList))).bind P.decodeUtf8 with
    | none => .ok []
    | some decoded =>
      match P.jsonLoads decoded with
      | .ok value => .ok (dict value)
      | .error .recursionError => .error .recursionError
      | .error _ => .ok []
  | _ => .ok []

/-- The names of the credentials that are empty. -/
def AppCredentials.missing (c : AppCredentials) : List String :=
  ([("MS_APP_TENANT_ID", c.tenantId), ("MS_APP_CLIENT_ID", c.clientId), ("MS_APP_CLIENT_SECRET", c.clientSecret)].filter
    fun p => p.2 == "").map (·.1)

/-- `_fetch_oauth_token`, with the reply of the token endpoint. -/
def fetchOauthToken (P : Platform) (c : AppCredentials) (reply : UrlOutcome) : Except OAuthFailure OAuthTokenResponse :=
  if c.missing ≠ [] then .error (.config ("Missing OAuth credentials: " ++ ", ".intercalate c.missing))
  else do
    let body ← orRequestFailed "Failed to fetch OAuth access token" (reply.json P)
    let accessToken ← orRaised (getItem "access_token" body)
    let accessToken := strOf P (orElse accessToken (.str ""))
    if accessToken = "" then throw (.request "OAuth token response did not include an access token")
    let expiresIn ← orRaised (getItem "expires_in" body)
    let expiresInSeconds ← orRaised (intOf P (orElse expiresIn (.int 3600)))
    let claims ← orRaised (adminDecodeJwtClaims P accessToken)
    return ⟨accessToken, expiresInSeconds, claims⟩

/-- `str(members.get(key) or "")`. -/
def memberText (P : Platform) (key : String) (members : List (String × Json)) : String :=
  strOf P (orElse (item key members) (.str ""))

/-- `members.get(key) if isinstance(members.get(key), list) else []`. -/
def memberList (key : String) (members : List (String × Json)) : List Json :=
  match item key members with
  | .arr items => items
  | _ => []

/-- `_token_diagnostics`, at the time it reads. -/
def tokenDiagnostics (P : Platform) (checkedAt : Int) (response : OAuthTokenResponse) :
    Except Exn OAuthTokenDiagnostics := do
  let expiresAt ← addSeconds checkedAt (max response.expiresInSeconds 1)
  return {
    checked := true
    succeeded := true
    checkedAt := some checkedAt
    expiresInSeconds := some response.expiresInSeconds
    expiresAt := some expiresAt
    audience := memberText P "aud" response.claims
    issuer := memberText P "iss" response.claims
    roles := (memberList "roles" response.claims).map (strOf P) }

/-! ## Metadata -/

/-- `_graph_get_with_token`. -/
def graphGetWithToken (P : Platform) : UrlOutcome → Except OAuthFailure Json
  | .httpError _ read => do
    let _ ← orRaised read.read
    throw (.request "Microsoft Graph metadata request failed")
  | reply => orRequestFailed "Microsoft Graph metadata request failed" (reply.json P)

/-- `data.get("value")`, when it is a list. -/
def graphValues (data : Json) : Except Exn (List Json) := do
  let value ← getItem "value" data
  match value with
  | .arr values => return values
  | _ => return []

/-- The members of the first of the values. -/
def firstMembers (values : List Json) : List (String × Json) := (values.head?.map dict).getD []

/-- `_service_principal_metadata`. -/
def servicePrincipalMetadata (P : Platform) (reply : UrlOutcome) : Except Exn OAuthAppDiagnostics :=
  match graphGetWithToken P reply with
  | .error (.raised e) => .error e
  | .error _ =>
    .ok { metadataChecked := true, message := "App metadata is not available with the current Graph permissions." }
  | .ok data => do
    let values ← graphValues data
    match firstMembers values with
    | [] => return { metadataChecked := true, message := "No service principal was found for this client ID." }
    | app => return {
        metadataChecked := true
        available := true
        displayName := memberText P "displayName" app
        appId := memberText P "appId" app
        servicePrincipalId := memberText P "id" app
        accountEnabled := match item "accountEnabled" app with
          | .bool enabled => some enabled
          | _ => none
        servicePrincipalType := memberText P "servicePrincipalType" app }

/-- The name of the default domain, or of the first one when there is none or it has no name. -/
def primaryDomain (P : Platform) (domains : List Json) : String :=
  let isDefault := fun domain => (item "isDefault" (dict domain)).truthy
  let named := ((domains.find? isDefault).map fun domain => memberText P "name" (dict domain)).getD ""
  if named ≠ "" then named
  else
    match domains with
    | .obj first :: _ => memberText P "name" first
    | _ => ""

/-- `_tenant_metadata`. -/
def tenantMetadata (P : Platform) (reply : UrlOutcome) : Except Exn OAuthTenantDiagnostics :=
  match graphGetWithToken P reply with
  | .error (.raised e) => .error e
  | .error _ =>
    .ok { metadataChecked := true, message := "Tenant metadata is not available with the current Graph permissions." }
  | .ok data => do
    let values ← graphValues data
    match firstMembers values with
    | [] => return { metadataChecked := true, message := "No tenant metadata was returned." }
    | tenant => return {
        metadataChecked := true
        available := true
        displayName := memberText P "displayName" tenant
        primaryDomain := primaryDomain P (memberList "verifiedDomains" tenant) }

/-! ## Snapshots -/

/-- A row of `auth_diagnostic_snapshots`; the column `diagnostics_json` is given by the value its text is of. -/
structure AuthDiagnosticSnapshot where
  organizationId : Nat
  component : AuthComponent
  credentialSignature : String
  status : String
  message : String
  tokenChecked : Bool
  tokenRequestSucceeded : Bool
  diagnostics : OAuthDiagnostics
  checkedAt : Int
  expiresAt : Option Int
  deriving DecidableEq, Repr

/-- The snapshot is the one of a component of an organization. -/
def AuthDiagnosticSnapshot.of (organizationId : Nat) (component : AuthComponent) (snapshot : AuthDiagnosticSnapshot) :
    Bool :=
  snapshot.organizationId == organizationId && snapshot.component == component

/-- `get_oauth_snapshot`. -/
def getOauthSnapshot (organizationId : Nat) (component : AuthComponent) (credentialSignatureValue : String)
    (snapshots : List AuthDiagnosticSnapshot) : Option AuthDiagnosticSnapshot :=
  (snapshots.find? (·.of organizationId component)).filter (·.credentialSignature == credentialSignatureValue)

/-- The row that `store_oauth_snapshot` writes. -/
def oauthSnapshot (organizationId : Nat) (component : AuthComponent) (credentialSignatureValue status message : String)
    (oauth : OAuthDiagnostics) (now : Int) : AuthDiagnosticSnapshot where
  organizationId := organizationId
  component := component
  credentialSignature := credentialSignatureValue
  status := status
  message := message
  tokenChecked := oauth.token.checked
  tokenRequestSucceeded := oauth.token.succeeded
  diagnostics := oauth
  checkedAt := oauth.token.checkedAt.getD now
  expiresAt := oauth.token.expiresAt

/-- `store_oauth_snapshot`: the row of the component is written, or there is a new one. -/
def storeOauthSnapshot (snapshot : AuthDiagnosticSnapshot) (snapshots : List AuthDiagnosticSnapshot) :
    List AuthDiagnosticSnapshot :=
  if snapshots.any (·.of snapshot.organizationId snapshot.component) then
    Table.update (·.of snapshot.organizationId snapshot.component) (fun _ => snapshot) snapshots
  else snapshots ++ [snapshot]

/-! ## The components of a refresh job -/

/-- What the services reply to a job, and when it reads the time. -/
structure AuthReplies where
  botToken : UrlOutcome
  botCheckedAt : Int
  graphToken : UrlOutcome
  servicePrincipal : UrlOutcome
  organization : UrlOutcome
  graphCheckedAt : Int

/-- The diagnostics of a token request that failed. -/
def failedToken (checkedAt : Int) : OAuthTokenDiagnostics :=
  { checked := true, succeeded := false, checkedAt := some checkedAt }

/-- `_refresh_bot_delivery_token`: the snapshot it stores, and the component. -/
def refreshBotDeliveryToken (P : Platform) (s : AuthSettings) (organizationId : Nat) (replies : AuthReplies) :
    Except Exn (Option AuthDiagnosticSnapshot × RefreshComponent) :=
  let credentials := s.credentials .botDelivery
  let signature := appOnlyCredentialSignature P credentials
  if !s.botFrameworkEnabled then .ok (none, ⟨.skipped, "Bot Framework delivery is disabled by feature policy."⟩)
  else if !s.realBotDelivery P then
    .ok (none, ⟨.skipped, "Bot Framework delivery is in mock mode; no external status refresh is needed."⟩)
  else
    match fetchOauthToken P credentials replies.botToken with
    | .error (.raised e) => .error e
    | .error _ =>
      .ok (some (oauthSnapshot organizationId .botDelivery signature "token_error"
          "Bot Framework status refresh failed. Check tenant ID, client ID, client secret and app permissions."
          (oauthDiagnostics "ms_app" credentials (failedToken replies.botCheckedAt)) replies.botCheckedAt),
        ⟨.failed,
          "Bot Framework delivery status refresh failed. Check tenant ID, client ID, client secret and app permissions."⟩)
    | .ok response => do
      let token ← tokenDiagnostics P replies.botCheckedAt response
      return (some (oauthSnapshot organizationId .botDelivery signature "ready"
          "Bot Framework status refresh succeeded. Delivery still requires a valid Teams conversation reference and bot permissions."
          (oauthDiagnostics "ms_app" credentials token) replies.botCheckedAt),
        ⟨.refreshed, "Bot Framework delivery status was refreshed."⟩)

/-- `_refresh_graph_lookup_token`: the snapshot it stores, and the component. -/
def refreshGraphLookupToken (P : Platform) (s : AuthSettings) (organizationId : Nat) (replies : AuthReplies) :
    Except Exn (Option AuthDiagnosticSnapshot × RefreshComponent) :=
  let credentials := s.credentials .graphLookup
  let signature := appOnlyCredentialSignature P credentials
  if !s.graphLookupEnabled then .ok (none, ⟨.skipped, "Microsoft Graph lookup is disabled by feature policy."⟩)
  else
    match fetchOauthToken P credentials replies.graphToken with
    | .error (.raised e) => .error e
    | .error (.config _) =>
      .ok (none, ⟨.failed, "Microsoft Graph lookup status refresh failed because app credentials are incomplete."⟩)
    | .error (.request _) =>
      .ok (some (oauthSnapshot organizationId .graphLookup signature "token_error"
          "Microsoft Graph status refresh failed. Check credentials, tenant and app permissions."
          (oauthDiagnostics "ms_app" credentials (failedToken replies.graphCheckedAt)) replies.graphCheckedAt),
        ⟨.failed, "Microsoft Graph lookup status refresh failed. Check credentials, tenant and app permissions."⟩)
    | .ok response => do
      let token ← tokenDiagnostics P replies.graphCheckedAt response
      let app ← servicePrincipalMetadata P replies.servicePrincipal
      let tenant ← tenantMetadata P replies.organization
      let metadataAvailable := app.available && tenant.available
      return (some (oauthSnapshot organizationId .graphLookup signature (if metadataAvailable then "ready"
        else "permission_warning")
          (if metadataAvailable then
            "Microsoft Graph status refresh succeeded. Lookup and readiness diagnostics are available."
            else "Microsoft Graph status refresh succeeded. Lookup can still work, but optional directory metadata is limited by tenant permissions.")
          (oauthDiagnostics "ms_app" credentials token (app, tenant)) replies.graphCheckedAt),
        ⟨.refreshed, "Microsoft Graph lookup status was refreshed."⟩)

/-! ## Readiness -/

/-- `_configured_status`. -/
def configuredStatus (value : String) : String := if Python.strip value = "" then "missing" else "configured"

/-- `credential_fields`. -/
def AppCredentials.fields (c : AppCredentials) : List (String × String) :=
  [("tenant_id", configuredStatus c.tenantId), ("client_id", configuredStatus c.clientId),
    ("client_secret", configuredStatus c.clientSecret)]

/-- `credentials_configured`. -/
def AppCredentials.configured (c : AppCredentials) : Bool := c.fields.all (·.2 == "configured")

/-- `ReadinessComponentOut` with the fields that `BotReadinessOut` and `GraphReadinessOut` both have. -/
structure AuthReadiness where
  enabled : Bool := true
  ready : Bool
  authStatus : String
  message : String
  tokenChecked : Bool := false
  tokenRequestSucceeded : Bool := false
  credentialFields : List (String × String)
  oauth : OAuthDiagnostics
  deriving DecidableEq, Repr

/-- `BotReadinessOut`. -/
structure BotReadiness extends AuthReadiness where
  mode : String
  credentialsConfigured : Bool
  deriving DecidableEq, Repr

/-- `bot_delivery_mode_normalized`. -/
def deliveryMode (P : Platform) (s : Settings) : String := if s.realBotDelivery P then "real" else "mock"

/-- `_bot_readiness`. -/
def botReadiness (P : Platform) (s : AuthSettings) (organizationId : Nat) (snapshots : List AuthDiagnosticSnapshot) :
    BotReadiness :=
  let credentials := s.credentials .botDelivery
  let oauth := oauthDiagnostics "ms_app" credentials
  if !s.realBotDelivery P then
    { ready := true, authStatus := "mock", mode := deliveryMode P s.toSettings,
      credentialsConfigured := credentials.configured
      credentialFields := credentials.fields, oauth := oauth
      message := "Mock delivery is active. Status checks are skipped and Teams messages are simulated." }
  else if !credentials.configured then
    { ready := false, authStatus := "incomplete", mode := deliveryMode P s.toSettings, credentialsConfigured := false
      credentialFields := credentials.fields, oauth := oauth
      message := "Real delivery requires MS_APP_TENANT_ID, MS_APP_CLIENT_ID and MS_APP_CLIENT_SECRET." }
  else
    match getOauthSnapshot organizationId .botDelivery (appOnlyCredentialSignature P credentials) snapshots with
    | none =>
      { ready := false, authStatus := "unchecked", mode := deliveryMode P s.toSettings, credentialsConfigured := true
        credentialFields := credentials.fields, oauth := oauth
        message := "Bot Framework status is being refreshed in the background." }
    | some snapshot =>
      { ready := snapshot.status == "ready" && snapshot.tokenRequestSucceeded
        authStatus := snapshot.status
        tokenChecked := snapshot.tokenChecked
        tokenRequestSucceeded := snapshot.tokenRequestSucceeded
        mode := deliveryMode P s.toSettings, credentialsConfigured := true
        credentialFields := credentials.fields, oauth := snapshot.diagnostics, message := snapshot.message }

/-- `GRAPH_GROUP_MEMBERSHIP_REQUIRED_ROLES`. -/
def graphGroupMembershipRequiredRoles : List String := ["GroupMember.Read.All"]

/-- `GRAPH_GROUP_MEMBERSHIP_ALTERNATIVE_ROLES`. -/
def graphGroupMembershipAlternativeRoles : List String := ["Directory.Read.All"]

/-- The dictionary of `_graph_group_membership_readiness`. -/
structure GroupMembershipReadiness where
  ready : Bool
  missingRoles : List String
  message : String
  deriving DecidableEq, Repr

/-- `_graph_group_membership_readiness`. -/
def graphGroupMembershipReadiness (P : Platform) (roles : List String) : GroupMembershipReadiness :=
  let granted := roles.map P.lower
  let ready := graphGroupMembershipRequiredRoles.any (fun role => granted.contains (P.lower role)) ||
    graphGroupMembershipAlternativeRoles.any (fun role => granted.contains (P.lower role))
  { ready := ready
    missingRoles := if ready then [] else graphGroupMembershipRequiredRoles
    message :=
      if ready then "Bot Access group search and membership checks have a suitable Microsoft Graph app role."
      else "Bot Access groups require GroupMember.Read.All or a broader directory-read app role such as Directory.Read.All." }

/-- `GraphReadinessOut`. -/
structure GraphReadiness extends AuthReadiness where
  configured : Bool
  credentialSource : String
  groupMembershipLookupReady : Bool := false
  groupMembershipRequiredRoles : List String := []
  groupMembershipAlternativeRoles : List String := []
  groupMembershipMissingRoles : List String := []
  groupMembershipMessage : String := ""
  deriving DecidableEq, Repr

/-- `_graph_lookup_readiness`. -/
def graphLookupReadiness (P : Platform) (s : AuthSettings) (organizationId : Nat)
    (snapshots : List AuthDiagnosticSnapshot) : GraphReadiness :=
  let credentials := s.credentials .graphLookup
  let credentialSource := if credentials.configured then "ms_app" else "missing"
  let oauth := oauthDiagnostics credentialSource credentials
  if !credentials.configured then
    { ready := false, authStatus := "incomplete", configured := false, credentialSource := credentialSource
      credentialFields := credentials.fields, oauth := oauth
      message := "Graph lookup requires MS_APP_TENANT_ID, MS_APP_CLIENT_ID and MS_APP_CLIENT_SECRET." }
  else
    let snapshot := getOauthSnapshot organizationId .graphLookup (appOnlyCredentialSignature P credentials) snapshots
    let groupMembership := graphGroupMembershipReadiness P ((snapshot.map (·.diagnostics.token.roles)).getD [])
    let readiness : AuthReadiness :=
      match snapshot with
      | none =>
        { ready := false, authStatus := "unchecked", credentialFields := credentials.fields, oauth := oauth
          message := "Microsoft Graph lookup status is being refreshed in the background." }
      | some snapshot =>
        { ready := snapshot.tokenRequestSucceeded
          authStatus := snapshot.status
          tokenChecked := snapshot.tokenChecked
          tokenRequestSucceeded := snapshot.tokenRequestSucceeded
          credentialFields := credentials.fields, oauth := snapshot.diagnostics, message := snapshot.message }
    { readiness with
      configured := true
      credentialSource := credentialSource
      groupMembershipLookupReady := groupMembership.ready
      groupMembershipRequiredRoles := graphGroupMembershipRequiredRoles
      groupMembershipAlternativeRoles := graphGroupMembershipAlternativeRoles
      groupMembershipMissingRoles := groupMembership.missingRoles
      groupMembershipMessage := groupMembership.message }

/-! ## Histories -/

/-- A job that is at work, with the settings it began with. -/
structure AuthJob where
  organizationId : Nat
  settings : AuthSettings

/-- A token request whose outcome a job has stored and committed. -/
structure AuthCheck where
  organizationId : Nat
  component : AuthComponent
  credentials : AppCredentials
  reply : UrlOutcome
  deriving DecidableEq

/-- The request is one of a component of an organization. -/
def AuthCheck.of (organizationId : Nat) (component : AuthComponent) (check : AuthCheck) : Bool :=
  check.organizationId == organizationId && check.component == component

/-- The settings in force, the snapshots, the jobs at work, and the token requests behind what is stored, the last one
first. -/
structure AuthHistory where
  settings : AuthSettings
  snapshots : List AuthDiagnosticSnapshot := []
  running : List AuthJob := []
  checks : List AuthCheck := []

/-- What a history is made of. -/
inductive AuthStep where
  /-- The settings change, or the service starts with another environment. -/
  | configure (s : AuthSettings)
  /-- A job of the organization reads the settings. -/
  | start (organizationId : Nat)
  /-- One of the jobs ends; what it stored is committed unless it raises, in these components or in another part of it. -/
  | finish (job : Nat) (replies : AuthReplies) (raises : Bool)

/-- What a job stores. -/
def AuthJob.stored (P : Platform) (job : AuthJob) (replies : AuthReplies) : Except Exn (List AuthDiagnosticSnapshot) := do
  let (botSnapshot, _) ← refreshBotDeliveryToken P job.settings job.organizationId replies
  let (graphSnapshot, _) ← refreshGraphLookupToken P job.settings job.organizationId replies
  return botSnapshot.toList ++ graphSnapshot.toList

/-- The reply to the token request of a component. -/
def AuthReplies.token (replies : AuthReplies) : AuthComponent → UrlOutcome
  | .botDelivery => replies.botToken
  | .graphLookup => replies.graphToken

/-- The token request that a job has stored the outcome of. -/
def AuthJob.check (job : AuthJob) (replies : AuthReplies) (component : AuthComponent) : AuthCheck :=
  ⟨job.organizationId, component, job.settings.credentials component, replies.token component⟩

/-- A snapshot is stored. -/
def AuthHistory.store (job : AuthJob) (replies : AuthReplies) (x : AuthHistory) (snapshot : AuthDiagnosticSnapshot) :
    AuthHistory :=
  { x with snapshots := storeOauthSnapshot snapshot x.snapshots,
           checks := job.check replies snapshot.component :: x.checks }

/-- One step of a history. -/
def authStep (P : Platform) (x : AuthHistory) : AuthStep → Option AuthHistory
  | .configure s => some { x with settings := s }
  | .start organizationId => some { x with running := x.running ++ [⟨organizationId, x.settings⟩] }
  | .finish job replies raises =>
    x.running[job]?.map fun found =>
      let x := { x with running := x.running.eraseIdx job }
      match raises, found.stored P replies with
      | false, .ok stored => stored.foldl (AuthHistory.store found replies) x
      | _, _ => x

end TeamsRehook
