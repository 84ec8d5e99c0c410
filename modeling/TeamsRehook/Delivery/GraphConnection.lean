import TeamsRehook.Delivery.GraphAuth
import TeamsRehook.Lib.Transition

/-!
# Connecting a Graph service user

The admin endpoints `/admin/graph-delivery/oauth` of `routers/admin.py`, with the functions of
`services/graph_delegated_auth.py` on pending connections. An authorization code that the callback receives is exchanged
to a pending row, which the admin confirms or cancels; a confirmed row becomes the credential of the organization.

An operation gives the tables that are committed when it has ended and its answer. What it changed in its session
without committing is lost when it raises.
-/

namespace TeamsRehook

/-- A row of `graph_delegated_oauth_pending_credentials`. -/
structure GraphDelegatedOAuthPendingCredential where
  id : Nat
  organizationId : Nat
  tenantId : String := ""
  clientId : String := ""
  scopes : String := ""
  encryptedRefreshToken : String := ""
  serviceUserId : String := ""
  serviceUserDisplayName : String := ""
  serviceUserPrincipalName : String := ""
  accessTokenExpiresAt : Option Int := none
  refreshCheckedAt : Option Int := none
  expiresAt : Int
  deriving DecidableEq, Repr

/-- `PENDING_CREDENTIAL_TTL`. -/
def pendingCredentialTtl : Int := minutes 30

/-- The two tables, and the next fresh id of a pending row. -/
structure GraphConnections where
  credentials : List GraphDelegatedCredential := []
  pendings : List GraphDelegatedOAuthPendingCredential := []
  nextId : Nat := 1
  deriving Repr

/-- `get_delegated_credential`. -/
def GraphConnections.delegatedCredential (db : GraphConnections) (organizationId : Nat) :
    Option GraphDelegatedCredential :=
  db.credentials.find? (·.organizationId == organizationId)

/-- `get_pending_delegated_credential`. -/
def GraphConnections.pendingDelegatedCredential (db : GraphConnections) (organizationId : Nat) :
    Option GraphDelegatedOAuthPendingCredential :=
  db.pendings.find? (·.organizationId == organizationId)

/-- `get_pending_delegated_credential_by_id`. -/
def GraphConnections.pendingDelegatedCredentialById (db : GraphConnections) (organizationId pendingId : Nat) :
    Option GraphDelegatedOAuthPendingCredential :=
  match db.pendings.find? (·.id == pendingId) with
  | some pending => if pending.organizationId ≠ organizationId then none else some pending
  | none => none

/-- `db.delete(pending)`. -/
def GraphConnections.deletePending (db : GraphConnections) (pending : GraphDelegatedOAuthPendingCredential) :
    GraphConnections :=
  { db with pendings := Table.delete (·.id == pending.id) db.pendings }

/-- `pending_credential_is_expired`. -/
def pendingCredentialIsExpired (now : Int) (pending : GraphDelegatedOAuthPendingCredential) : Bool :=
  pending.expiresAt ≤ now

/-! ## The callback -/

/-- The row that `get_pending_delegated_credential` gives is deleted, when there is one. -/
def GraphConnections.dropExisting (db : GraphConnections) (organizationId : Nat) : GraphConnections :=
  match db.pendingDelegatedCredential organizationId with
  | some existing => db.deletePending existing
  | none => db

/-- `exchange_authorization_code_to_pending`: the tables with the new pending row, and the row. -/
def exchangeAuthorizationCodeToPending (P : Platform) (s : Settings) (now : Int) (organizationId : Nat) (out : UrlOutcome)
    (db : GraphConnections) : Except Exn (GraphConnections × GraphDelegatedOAuthPendingCredential) := do
  requireAppRegistration s
  let response ← requestToken P out
  let refresh ← getItem "refresh_token" response
  let refreshToken := strOf P (orElse refresh (.str ""))
  let access ← getItem "access_token" response
  let accessToken := strOf P (orElse access (.str ""))
  if refreshToken = "" ∨ accessToken = "" then
    throw (.graphDelegatedAuth "Delegated Graph authorization did not return usable token material")
  let db := db.dropExisting organizationId
  -- the function that fills a credential fills the columns the pending row shares with it
  let filled ← applySuccessfulTokenResponse P s now response defaultDelegatedGraphScopes (some refreshToken)
    { organizationId := organizationId }
  if !({ organizationId := organizationId } : GraphDelegatedCredential).flushes P filled then throw .dataError
  let pending : GraphDelegatedOAuthPendingCredential :=
    { id := db.nextId
      organizationId := organizationId
      tenantId := filled.tenantId
      clientId := filled.clientId
      scopes := filled.scopes
      encryptedRefreshToken := filled.encryptedRefreshToken
      serviceUserId := filled.serviceUserId
      serviceUserDisplayName := filled.serviceUserDisplayName
      serviceUserPrincipalName := filled.serviceUserPrincipalName
      accessTokenExpiresAt := filled.accessTokenExpiresAt
      refreshCheckedAt := filled.refreshCheckedAt
      expiresAt := now + pendingCredentialTtl }
  return ({ db with pendings := db.pendings ++ [pending], nextId := db.nextId + 1 }, pending)

/-- What an endpoint answers when it does not raise. -/
inductive GraphConnectionReply where
  /-- `_graph_delivery_settings_redirect(settings, "error")`. -/
  | settingsRedirect
  /-- `_graph_delivery_pending_redirect(settings, pending.id)`. -/
  | pendingRedirect (pendingId : Nat)
  /-- `_graph_delivery_pending_out(pending)`. -/
  | pendingOut (pending : GraphDelegatedOAuthPendingCredential)
  /-- `_admin_readiness`, read after the commit. -/
  | adminReadiness
  | noContent
  deriving DecidableEq, Repr

/-- The tables committed when an endpoint has ended, and its answer. -/
abbrev GraphConnectionResult := GraphConnections × Except Exn GraphConnectionReply

/-- `graph_delivery_oauth_callback`. `verified` is what `_verify_graph_oauth_state` does, which reads no table. -/
def graphDeliveryOauthCallback (P : Platform) (s : Settings) (now : Int) (organizationId : Nat)
    (verified : Except Exn Unit) (code error : String) (out : UrlOutcome) (db : GraphConnections) :
    GraphConnectionResult :=
  match verified with
  | .error e => (db, .error e)
  | .ok () =>
    if error ≠ "" then (db, .ok .settingsRedirect)
    else if Python.strip code = "" then (db, .error (.http 400 "Missing Microsoft Graph authorization code"))
    else
      match exchangeAuthorizationCodeToPending P s now organizationId out db with
      | .error (.graphDelegatedConfig message) | .error (.graphDelegatedAuth message)
      | .error (.expiredRefreshToken message) =>
        (db, .error (.http 400 message))
      | .error e => (db, .error e)
      | .ok (db, pending) => (db, .ok (.pendingRedirect pending.id))

/-! ## Pending connections -/

/-- `_get_live_graph_delivery_pending`: an expired row is deleted, and the deletion is committed. -/
def getLiveGraphDeliveryPending (now : Int) (organizationId pendingId : Nat) (db : GraphConnections) :
    GraphConnections × Except Exn GraphDelegatedOAuthPendingCredential :=
  match db.pendingDelegatedCredentialById organizationId pendingId with
  | none => (db, .error (.http 404 "Pending delegated Graph connection was not found."))
  | some pending =>
    if pendingCredentialIsExpired now pending then
      (db.deletePending pending, .error (.http 404 "Pending delegated Graph connection expired."))
    else (db, .ok pending)

/-- `get_graph_delivery_oauth_pending`. -/
def getGraphDeliveryOauthPending (now : Int) (organizationId pendingId : Nat) (db : GraphConnections) :
    GraphConnectionResult :=
  let r := getLiveGraphDeliveryPending now organizationId pendingId db
  (r.1, r.2.map .pendingOut)

/-- The columns that `promote_pending_delegated_credential` sets. -/
def GraphDelegatedCredential.promoted (pending : GraphDelegatedOAuthPendingCredential)
    (credential : GraphDelegatedCredential) : GraphDelegatedCredential :=
  { credential with
    tenantId := pending.tenantId
    clientId := pending.clientId
    scopes := pending.scopes
    encryptedRefreshToken := pending.encryptedRefreshToken
    serviceUserId := pending.serviceUserId
    serviceUserDisplayName := pending.serviceUserDisplayName
    serviceUserPrincipalName := pending.serviceUserPrincipalName
    lastStatus := "ready"
    lastError := ""
    accessTokenExpiresAt := pending.accessTokenExpiresAt
    refreshCheckedAt := pending.refreshCheckedAt }

/-- `_get_or_create_credential`, with what the caller sets on the row it gives. -/
def GraphConnections.changeCredential (db : GraphConnections) (organizationId : Nat)
    (change : GraphDelegatedCredential → GraphDelegatedCredential) : GraphConnections :=
  match db.delegatedCredential organizationId with
  | some _ => { db with credentials := Table.update (·.organizationId == organizationId) change db.credentials }
  | none => { db with credentials := db.credentials ++ [change { organizationId := organizationId }] }

/-- `promote_pending_delegated_credential`: the tables as its session has them, and whether it raises. -/
def promotePendingDelegatedCredential (now : Int) (organizationId pendingId : Nat) (db : GraphConnections) :
    GraphConnections × Except Exn Unit :=
  match db.pendingDelegatedCredentialById organizationId pendingId with
  | none => (db, .error (.graphDelegatedAuth "Pending delegated Graph connection was not found."))
  | some pending =>
    if pendingCredentialIsExpired now pending then
      (db.deletePending pending, .error (.graphDelegatedAuth "Pending delegated Graph connection expired."))
    else ((db.changeCredential organizationId (·.promoted pending)).deletePending pending, .ok ())

/-- `confirm_graph_delivery_oauth_pending`. The row is looked at twice, at `now` and at `now'`; what the second look
changes is rolled back when it raises. -/
def confirmGraphDeliveryOauthPending (now now' : Int) (organizationId pendingId : Nat) (db : GraphConnections) :
    GraphConnectionResult :=
  let live := getLiveGraphDeliveryPending now organizationId pendingId db
  match live.2 with
  | .error e => (live.1, .error e)
  | .ok _ =>
    let promoted := promotePendingDelegatedCredential now' organizationId pendingId live.1
    match promoted.2 with
    | .error (.graphDelegatedAuth message) => (live.1, .error (.http 404 message))
    | .error e => (live.1, .error e)
    | .ok () => (promoted.1, .ok .adminReadiness)

/-- `cancel_graph_delivery_oauth_pending`. -/
def cancelGraphDeliveryOauthPending (organizationId pendingId : Nat) (db : GraphConnections) : GraphConnectionResult :=
  match db.pendingDelegatedCredentialById organizationId pendingId with
  | none => (db, .error (.http 404 "Pending delegated Graph connection was not found."))
  | some pending => (db.deletePending pending, .ok .noContent)

/-- `disconnect_graph_delivery_oauth`. -/
def disconnectGraphDeliveryOauth (organizationId : Nat) (db : GraphConnections) : GraphConnectionResult :=
  ({ db with credentials := Table.delete (·.organizationId == organizationId) db.credentials }, .ok .noContent)

/-! ## Sequences of requests -/

/-- A request of an admin of the organization `organizationId`. -/
inductive GraphConnectionRequest where
  | callback (organizationId : Nat) (verified : Except Exn Unit) (code error : String) (out : UrlOutcome)
  | inspect (organizationId pendingId : Nat)
  | confirm (organizationId pendingId : Nat)
  | cancel (organizationId pendingId : Nat)
  | disconnect (organizationId : Nat)

/-- A request with the settings in force and the times its clock is read: `now` first and `now'` last. -/
structure GraphConnectionCall where
  request : GraphConnectionRequest
  settings : Settings
  now : Int
  now' : Int

/-- What the request does to the tables, and its answer. -/
def GraphConnectionCall.handle (P : Platform) (call : GraphConnectionCall) (db : GraphConnections) :
    GraphConnectionResult :=
  match call.request with
  | .callback organizationId verified code error out =>
    graphDeliveryOauthCallback P call.settings call.now organizationId verified code error out db
  | .inspect organizationId pendingId => getGraphDeliveryOauthPending call.now organizationId pendingId db
  | .confirm organizationId pendingId => confirmGraphDeliveryOauthPending call.now call.now' organizationId pendingId db
  | .cancel organizationId pendingId => cancelGraphDeliveryOauthPending organizationId pendingId db
  | .disconnect organizationId => disconnectGraphDeliveryOauth organizationId db

/-- The tables and the latest time a request read. -/
structure GraphConnectionState where
  db : GraphConnections := {}
  clock : Int
  deriving Repr

/-- One request handled after the other: its clock does not go back. -/
def GraphConnectionState.step (P : Platform) (x : GraphConnectionState) (call : GraphConnectionCall) :
    Option GraphConnectionState :=
  if x.clock ≤ call.now ∧ call.now ≤ call.now' then some { db := (call.handle P x.db).1, clock := call.now' } else none

end TeamsRehook
