import TeamsRehook.Delivery.TeamsBot
import TeamsRehook.Lib.Except

/-!
# Delegated Graph tokens

`refresh_delegated_access_token` of `services/graph_delegated_auth.py` and what it calls, with
`core/encrypted_secrets.py`. The credential of an organization is a row of `graph_delegated_credentials`; the functions
give the row they leave in the session beside what they return or raise.
-/

namespace TeamsRehook

/-- `DEFAULT_DELEGATED_GRAPH_SCOPES`. -/
def defaultDelegatedGraphScopes : List String :=
  ["offline_access", "ChannelMessage.Send", "ChatMessage.Send", "Chat.ReadBasic", "Chat.Create", "User.Read"]

/-- `SETTINGS_ENC_KEY_MISSING_DETAIL`. -/
def settingsEncKeyMissingDetail : String :=
  "SETTINGS_ENC_KEY is required for encrypted settings and delegated secret material."

/-- `SETTINGS_ENC_KEY_DECRYPT_DETAIL`. -/
def settingsEncKeyDecryptDetail : String :=
  "Stored secret could not be decrypted with the current SETTINGS_ENC_KEY. Keep the previous key or re-enter the affected secret."

/-- `_fernet`: the key, which has to be configured. -/
def fernet (s : Settings) : Except Exn String :=
  let source := Python.strip s.settingsEncKey
  if source = "" then .error (.http 500 settingsEncKeyMissingDetail) else .ok source

/-- `encrypt_secret`, at the time `now`. -/
def encryptSecret (P : Platform) (s : Settings) (now : Int) (value : String) : Except Exn String := do
  let key ← fernet s
  if encodable P value then return P.fernetEncrypt now key value else throw .unicodeEncodeError

/-- `decrypt_secret`. -/
def decryptSecret (P : Platform) (s : Settings) (value : String) : Except Exn String := do
  let key ← fernet s
  match P.fernetDecrypt key value with
  | some secret => return secret
  | none => throw (.http 500 settingsEncKeyDecryptDetail)

/-- Fernet decrypts what it has encrypted with the same key, at any time. -/
def Platform.FernetRoundTrip (P : Platform) : Prop :=
  ∀ now key secret, P.fernetDecrypt key (P.fernetEncrypt now key secret) = some secret

/-- What `encrypt_secret` gives. -/
theorem encryptSecret_eq_ok {P : Platform} {s : Settings} {now : Int} {value encrypted : String}
    (h : encryptSecret P s now value = .ok encrypted) :
    ∃ key, fernet s = .ok key ∧ encodable P value = true ∧ encrypted = P.fernetEncrypt now key value := by
  obtain ⟨key, hkey, h⟩ := Except.bind_eq_ok_iff.1 h
  split at h
  next hencodable =>
    cases h
    exact ⟨key, hkey, hencodable, rfl⟩
  next => nomatch h

/-- A secret that was encrypted is decrypted. -/
theorem decryptSecret_of_encryptSecret {P : Platform} {s : Settings} {now : Int} {value encrypted : String}
    (hfernet : P.FernetRoundTrip) (h : encryptSecret P s now value = .ok encrypted) :
    decryptSecret P s encrypted = .ok value := by
  obtain ⟨key, hkey, -, rfl⟩ := encryptSecret_eq_ok h
  have hround := hfernet now key value
  unfold decryptSecret
  rw [hkey]
  simp only [bind, Except.bind]
  split
  next secret hsecret => rw [Option.some.inj (hsecret.symm.trans hround)]; rfl
  next hnone => nomatch hnone.symm.trans hround

/-- `_require_app_registration`. -/
def requireAppRegistration (s : Settings) : Except Exn Unit :=
  if missingAppRegistration s ≠ [] then
    .error (.graphDelegatedConfig
      ("Missing delegated Graph app registration settings: " ++ ", ".intercalate (missingAppRegistration s)))
  else .ok ()

/-- `_token_error_code` of an `HTTPError` with a body. -/
def tokenErrorCode (P : Platform) (read : BodyRead) : Except Exn String := do
  let content ← read.read
  match decodeUtf8 P content >>= jsonLoads P with
  | .error .jsonDecodeError | .error .unicodeDecodeError => return ""
  | .error e => throw e
  | .ok body =>
    let error ← getItem "error" body
    return strOf P (orElse error (.str ""))

/-- `_request_token`. -/
def requestToken (P : Platform) (out : UrlOutcome) : Except Exn Json :=
  match out with
  | .httpError _ read => do
    let code ← tokenErrorCode P read
    if code = "invalid_grant" then throw (.expiredRefreshToken "Delegated Graph refresh token is expired or revoked")
    else throw (.graphDelegatedAuth "Delegated Graph token request failed")
  | out =>
    match out.json P with
    | .error .urlError | .error .jsonDecodeError => .error (.graphDelegatedAuth "Delegated Graph token request failed")
    | r => r

/-- `_decode_jwt_claims`. -/
def decodeJwtClaims (P : Platform) (token : String) : Except Exn (List (String × Json)) :=
  match token.splitOn "." with
  | _ :: payload :: _ =>
    let padded := payload ++ String.ofList (List.replicate ((4 - payload.length % 4) % 4) '=')
    match P.base64UrlDecode padded with
    | none => .ok []
    | some decoded =>
      match decodeUtf8 P decoded >>= jsonLoads P with
      | .error .recursionError => .error .recursionError
      | .error _ => .ok []
      | .ok (.obj claims) => .ok claims
      | .ok _ => .ok []
  | _ => .ok []

/-- `_claim`. -/
def claim (claims : List (String × Json)) (key : String) : String :=
  match Json.lookup key claims with
  | some (.str value) => Python.strip value
  | _ => ""

/-- `_scope_list`. -/
def scopeList (value : String) : List String := Python.split value

/-- `_apply_successful_token_response`. -/
def applySuccessfulTokenResponse (P : Platform) (s : Settings) (now : Int) (response : Json)
    (fallbackScopes : List String) (refreshToken : Option String) (credential : GraphDelegatedCredential) :
    Except Exn GraphDelegatedCredential := do
  let accessToken ← getItem "access_token" response
  let claims ← decodeJwtClaims P (strOf P (orElse accessToken (.str "")))
  let expires ← getItem "expires_in" response
  let expiresIn ← intOf P (orElse expires (.int 3600))
  let scope ← getItem "scope" response
  let given := scopeList (strOf P (orElse scope (.str "")))
  let scopes := if given.isEmpty then fallbackScopes else given
  let encrypted ←
    match refreshToken with
    | some token => encryptSecret P s now token
    | none => pure credential.encryptedRefreshToken
  let scopes :=
    if encrypted != "" && !(scopes.map P.lower).contains "offline_access" then "offline_access" :: scopes else scopes
  let accessTokenExpiresAt ← addSeconds now (max expiresIn 1)
  return { credential with
    encryptedRefreshToken := encrypted
    tenantId := s.msAppTenantId
    clientId := s.msAppClientId
    scopes := " ".intercalate scopes
    serviceUserId := Python.orElse (Python.orElse (claim claims "oid") (claim claims "sub")) credential.serviceUserId
    serviceUserDisplayName := Python.orElse (claim claims "name") credential.serviceUserDisplayName
    serviceUserPrincipalName :=
      Python.orElse (Python.orElse (claim claims "preferred_username") (claim claims "upn"))
      credential.serviceUserPrincipalName
    lastStatus := "ready"
    lastError := ""
    accessTokenExpiresAt := some accessTokenExpiresAt
    refreshCheckedAt := some now }

/-- `_mark_credential_status`. -/
def markCredentialStatus (now : Int) (status message : String) (credential : GraphDelegatedCredential) :
    GraphDelegatedCredential :=
  { credential with lastStatus := status, lastError := message, refreshCheckedAt := some now }

/-- Whether the flush of a credential that was filled from a token response raises nothing. -/
def GraphDelegatedCredential.flushes (P : Platform) (loaded credential : GraphDelegatedCredential) : Bool :=
  flushesText P none loaded.tenantId credential.tenantId && flushesText P none loaded.clientId credential.clientId &&
    flushesText P none loaded.scopes credential.scopes &&
    flushesText P none loaded.serviceUserId credential.serviceUserId &&
      flushesText P (some 255) loaded.serviceUserDisplayName credential.serviceUserDisplayName &&
    flushesText P (some 255) loaded.serviceUserPrincipalName credential.serviceUserPrincipalName

/-- The refresh of a credential that is there: the row it leaves, and the access token. A flush that raises ends the
transaction. -/
def refreshCredential (P : Platform) (s : Settings) (now : Int) (out : UrlOutcome)
    (credential : GraphDelegatedCredential) : GraphDelegatedCredential × Except Exn String :=
  match decryptSecret P s credential.encryptedRefreshToken >>= fun _ => requestToken P out with
  | .error (.expiredRefreshToken _) =>
    let message := "Delegated Graph refresh token is expired or revoked."
    (markCredentialStatus now "expired" message credential, .error (.graphDelegatedAuth message))
  | .error (.graphDelegatedAuth _) =>
    let message := "Delegated Graph token refresh failed."
    (markCredentialStatus now "token_error" message credential, .error (.graphDelegatedAuth message))
  | .error e => (credential, .error e)
  | .ok response =>
    match getItem "access_token" response with
    | .error e => (credential, .error e)
    | .ok token =>
      let accessToken := strOf P (orElse token (.str ""))
      if accessToken = "" then
        let message := "Delegated Graph token refresh did not return an access token."
        (markCredentialStatus now "token_error" message credential, .error (.graphDelegatedAuth message))
      else
        match
          (do
            let refresh ← getItem "refresh_token" response
            let refreshToken := strOf P (orElse refresh (.str ""))
            applySuccessfulTokenResponse P s now response defaultDelegatedGraphScopes
              (if refreshToken = "" then none else some refreshToken) credential)
        with
        | .error e => (credential, .error e)
        | .ok credential' =>
          if credential.flushes P credential' then (credential', .ok accessToken) else (credential, .error .dataError)

/-- `refresh_delegated_access_token`: the credentials it leaves, and the access token with the credential it was fetched
for. -/
def refreshDelegatedAccessToken (P : Platform) (s : Settings) (now : Int) (organizationId : Nat) (out : UrlOutcome)
    (credentials : List GraphDelegatedCredential) :
    List GraphDelegatedCredential × Except Exn (String × GraphDelegatedCredential) :=
  match requireAppRegistration s with
  | .error e => (credentials, .error e)
  | .ok () =>
    match credentials.find? (·.organizationId == organizationId) with
    | none => (credentials, .error (.graphDelegatedAuth "Delegated Graph delivery is not configured"))
    | some credential =>
      if credential.encryptedRefreshToken = "" then
        (credentials, .error (.graphDelegatedAuth "Delegated Graph delivery is not configured"))
      else
        let r := refreshCredential P s now out credential
        (Table.update (·.organizationId == organizationId) (fun _ => r.1) credentials, r.2.map fun token => (token, r.1))

/-! ## Fixed inputs -/

/-- A token endpoint that answers with an access token and a refresh token. -/
def tokenPlatform : Platform :=
  { Platform.plain with jsonLoads := fun _ => .ok (.obj [("access_token", .str "access"), ("refresh_token", .str "refresh")]) }

/-- The access tokens of the token endpoint have no claims that can be read. -/
theorem decodeJwtClaims_tokenPlatform (token : String) : decodeJwtClaims tokenPlatform token = .ok [] := by
  unfold decodeJwtClaims
  split <;> rfl

/-- An app registration, with a key for secrets. -/
def registeredApp : Settings :=
  { settingsEncKey := "key", msAppTenantId := "tenant", msAppClientId := "client", msAppClientSecret := "secret" }

end TeamsRehook
