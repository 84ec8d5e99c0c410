import TeamsRehook.Database
import TeamsRehook.Delivery.GraphAuth

/-!
# Readiness of Graph delivery

The stored credential as `diagnostics_for_organization` of `services/graph_delegated_auth.py` tells it, and the two
verdicts on it: the one of the readiness view of `routers/admin.py` and the one of `routers/monitoring.py`. Neither of
them asks Microsoft.
-/

namespace TeamsRehook

/-- `GraphDelegatedDiagnostics`. -/
structure GraphDelegatedDiagnostics where
  status : String
  configured : Bool
  tenantId : String := ""
  clientId : String := ""
  scopes : Option (List String) := none
  serviceUserId : String := ""
  serviceUserDisplayName : String := ""
  serviceUserPrincipalName : String := ""
  accessTokenExpiresAt : Option Int := none
  refreshCheckedAt : Option Int := none
  message : String := ""
  deriving DecidableEq, Repr

/-- `diagnostics_for_credential`. -/
def diagnosticsForCredential (credential : GraphDelegatedCredential) : GraphDelegatedDiagnostics where
  status := Python.orElse credential.lastStatus "missing"
  configured := credential.encryptedRefreshToken != ""
  tenantId := credential.tenantId
  clientId := credential.clientId
  scopes := some (scopeList credential.scopes)
  serviceUserId := credential.serviceUserId
  serviceUserDisplayName := credential.serviceUserDisplayName
  serviceUserPrincipalName := credential.serviceUserPrincipalName
  accessTokenExpiresAt := credential.accessTokenExpiresAt
  refreshCheckedAt := credential.refreshCheckedAt
  message := credential.lastError

/-- `diagnostics_for_organization`. -/
def diagnosticsForOrganization (organizationId : Nat) (db : Database) : GraphDelegatedDiagnostics :=
  match db.credentials.find? (·.organizationId == organizationId) with
  | none => { status := "missing", configured := false, message := "Delegated Graph delivery has not been configured." }
  | some credential => diagnosticsForCredential credential

/-- The scopes a diagnosis tells, where it tells none when it has none. -/
def GraphDelegatedDiagnostics.grantedScopes (diagnostics : GraphDelegatedDiagnostics) : List String :=
  diagnostics.scopes.getD []

/-- `_missing_required_scopes`. -/
def missingRequiredScopes (P : Platform) (grantedScopes requiredScopes : List String) : List String :=
  let granted := grantedScopes.map P.lower
  requiredScopes.filter fun scope => !granted.contains (P.lower scope)

/-- The source of the credential that both verdicts tell. -/
def GraphDelegatedDiagnostics.credentialSource (diagnostics : GraphDelegatedDiagnostics) : String :=
  if diagnostics.configured then "delegated_service_user" else "missing"

/-! ## The readiness view -/

/-- `GraphDeliveryReadinessOut`. -/
structure GraphDeliveryReadinessOut where
  enabled : Bool := true
  ready : Bool
  authStatus : String
  tokenChecked : Bool
  tokenRequestSucceeded : Bool
  configured : Bool
  credentialSource : String
  tenantId : String
  clientId : String
  scopes : List String
  requiredScopes : List String
  missingScopes : List String
  serviceUserId : String
  serviceUserDisplayName : String
  serviceUserPrincipalName : String
  accessTokenExpiresAt : Option Int
  refreshCheckedAt : Option Int
  message : String
  deriving DecidableEq, Repr

/-- What a verdict of the readiness view says besides the diagnosis. -/
structure GraphDeliveryVerdict where
  ready : Bool := false
  authStatus : String
  tokenChecked : Bool := false
  tokenRequestSucceeded : Bool := false
  message : String
  missingScopes : Option (List String) := none

/-- `_graph_delivery_readiness_out`. -/
def graphDeliveryReadinessOut (P : Platform) (s : Settings) (diagnostics : GraphDelegatedDiagnostics)
    (requiredScopes : List String) (verdict : GraphDeliveryVerdict) : GraphDeliveryReadinessOut where
  ready := verdict.ready
  authStatus := verdict.authStatus
  tokenChecked := verdict.tokenChecked
  tokenRequestSucceeded := verdict.tokenRequestSucceeded
  configured := diagnostics.configured
  credentialSource := diagnostics.credentialSource
  tenantId := Python.orElse diagnostics.tenantId s.msAppTenantId
  clientId := Python.orElse diagnostics.clientId s.msAppClientId
  scopes := diagnostics.grantedScopes
  requiredScopes := requiredScopes
  missingScopes := verdict.missingScopes.getD (missingRequiredScopes P diagnostics.grantedScopes requiredScopes)
  serviceUserId := diagnostics.serviceUserId
  serviceUserDisplayName := diagnostics.serviceUserDisplayName
  serviceUserPrincipalName := diagnostics.serviceUserPrincipalName
  accessTokenExpiresAt := diagnostics.accessTokenExpiresAt
  refreshCheckedAt := diagnostics.refreshCheckedAt
  message := verdict.message

/-- The verdict of `_graph_delivery_readiness` of `routers/admin.py`. -/
def graphDeliveryVerdict (P : Platform) (s : Settings) (diagnostics : GraphDelegatedDiagnostics) : GraphDeliveryVerdict :=
  if !diagnostics.configured then
    { authStatus := "missing", message := "Delegated Graph delivery has not been configured." }
  else if s.msAppTenantId = "" ∨ s.msAppClientId = "" ∨ s.msAppClientSecret = "" then
    { authStatus := "incomplete"
      message := "Delegated Graph delivery requires MS_APP_TENANT_ID, MS_APP_CLIENT_ID and MS_APP_CLIENT_SECRET." }
  else if diagnostics.status = "expired" then
    { authStatus := "expired"
      tokenChecked := true
      message := "Delegated Graph connection is expired or revoked. Reconnect the service user." }
  else if diagnostics.status = "token_error" then
    { authStatus := "token_error"
      tokenChecked := true
      message := "Delegated Graph status refresh failed. Check the service-user connection and Microsoft tenant access." }
  else if diagnostics.status ≠ "ready" then
    { authStatus := "unchecked", message := "Delegated Graph delivery status is being refreshed in the background." }
  else
    let missing := missingRequiredScopes P diagnostics.grantedScopes defaultDelegatedGraphScopes
    if missing ≠ [] then
      { authStatus := "permission_warning"
        tokenChecked := true
        tokenRequestSucceeded := true
        missingScopes := some missing
        message := "Delegated Graph status was refreshed previously, but required scopes are missing: " ++
          ", ".intercalate missing ++ "." }
    else
      { ready := true
        authStatus := "ready"
        tokenChecked := true
        tokenRequestSucceeded := true
        message := "Delegated Graph delivery prerequisites are usable." }

/-- `_graph_delivery_readiness` of `routers/admin.py`. -/
def adminGraphDeliveryReadiness (P : Platform) (s : Settings) (organizationId : Nat) (db : Database) :
    GraphDeliveryReadinessOut :=
  let diagnostics := diagnosticsForOrganization organizationId db
  graphDeliveryReadinessOut P s diagnostics defaultDelegatedGraphScopes (graphDeliveryVerdict P s diagnostics)

/-- `_disabled_graph_delivery_readiness`. -/
def disabledGraphDeliveryReadiness (s : Settings) : GraphDeliveryReadinessOut where
  enabled := false
  ready := true
  authStatus := "disabled"
  tokenChecked := false
  tokenRequestSucceeded := false
  configured := false
  credentialSource := "disabled"
  tenantId := s.msAppTenantId
  clientId := s.msAppClientId
  scopes := []
  requiredScopes := defaultDelegatedGraphScopes
  missingScopes := []
  serviceUserId := ""
  serviceUserDisplayName := ""
  serviceUserPrincipalName := ""
  accessTokenExpiresAt := none
  refreshCheckedAt := none
  message :=
    if !s.graphLookupEnabled then "Delegated Graph delivery is disabled because Graph lookup is disabled."
    else "Delegated Graph delivery is disabled by feature policy."

/-- The `graph_delivery` of `_admin_readiness`. -/
def adminReadinessGraphDelivery (P : Platform) (s : Settings) (organizationId : Nat) (db : Database) :
    GraphDeliveryReadinessOut :=
  if s.graphDeliveryEnabled && s.graphLookupEnabled then adminGraphDeliveryReadiness P s organizationId db
  else disabledGraphDeliveryReadiness s

/-! ## The monitoring status -/

/-- `MonitoringGraphReadinessOut`. -/
structure MonitoringGraphReadinessOut where
  enabled : Bool := true
  ready : Bool
  authStatus : String
  credentialSource : String
  deriving DecidableEq, Repr

/-- `_graph_delivery_readiness` of `routers/monitoring.py`. The organizations stand in the order in which they were
created. -/
def monitoringGraphDeliveryReadiness (P : Platform) (db : Database) : MonitoringGraphReadinessOut :=
  match db.organizations.head? with
  | none => { ready := false, authStatus := "missing", credentialSource := "missing" }
  | some organization =>
    let diagnostics := diagnosticsForOrganization organization.id db
    let missingScopes := missingRequiredScopes P diagnostics.grantedScopes defaultDelegatedGraphScopes
    let status := Python.orElse diagnostics.status "missing"
    let authStatus :=
      if diagnostics.configured && status == "ready" && !missingScopes.isEmpty then "permission_warning" else status
    { ready := diagnostics.configured && authStatus == "ready"
      authStatus := authStatus
      credentialSource := diagnostics.credentialSource }

/-- The `graph_delivery` of `_build_monitoring_status`, where the database answers. -/
def monitoringStatusGraphDelivery (P : Platform) (s : Settings) (db : Database) : MonitoringGraphReadinessOut :=
  if s.graphDeliveryEnabled && s.graphLookupEnabled then monitoringGraphDeliveryReadiness P db
  else { enabled := false, ready := true, authStatus := "disabled", credentialSource := "disabled" }

end TeamsRehook
