import TeamsRehook.Bot.ActivityReplay

/-!
# Authentication of the Bot Framework

`require_bot_framework_auth` and `bot_framework_auth.py`: the body is parsed, the bearer token is read, its signing key
is looked up in the keys of the Bot Framework, which are kept for a day, and the token is validated.

PyJWT is a parameter, with the errors it documents. The event log is left out.
-/

namespace TeamsRehook

/-- What `validate_bot_framework_activity` raises or lets through. -/
inductive BotAuthExn where
  | botFrameworkAuth (message : String)
  | botFrameworkAuthConfig (message : String)
  /-- An `http.client.HTTPException`. -/
  | httpClient
  | raised (e : Exn)
  deriving Repr

/-- What `require_bot_framework_auth` raises or lets through. -/
inductive AuthGateExn where
  /-- FastAPI's `HTTPException`. -/
  | http (statusCode : Nat) (detail : String)
  | other (e : BotAuthExn)
  deriving Repr

/-- `BOT_FRAMEWORK_ISSUER`. -/
def botFrameworkIssuer : String := "https://api.botframework.com"

/-- `OPENID_METADATA_URL`. -/
def openidMetadataUrl : String := "https://login.botframework.com/v1/.well-known/openidconfiguration"

/-- `ALLOWED_ALGORITHMS`. -/
def allowedAlgorithms : List String := ["RS256", "RS384", "RS512"]

/-- `CLOCK_SKEW_SECONDS`. -/
def clockSkewSeconds : Int := 300

/-- `JWKS_CACHE_SECONDS`. -/
def jwksCacheSeconds : Int := 24 * 60 * 60

/-- `BotFrameworkClaims`. -/
structure BotFrameworkClaims where
  issuer : String
  audience : String
  serviceUrl : String
  serviceUrlMatched : Bool
  validatedAt : Int
  deriving DecidableEq, Repr

/-! ## PyJWT -/

/-- The errors of `jwt.decode`; the last one is every other `InvalidTokenError`. -/
inductive JwtError where
  | expiredSignature
  | immatureSignature
  | invalidAudience
  | invalidIssuer
  | invalidToken
  deriving DecidableEq, Repr

/-- What is taken from PyJWT, whose keys are of the type `K`. -/
structure PyJwt (K : Type) where
  /-- `jwt.get_unverified_header(token)`, nothing when it raises an `InvalidTokenError`. -/
  getUnverifiedHeader : String → Option Json
  /-- `RSAAlgorithm.from_jwk(text)`, nothing when it raises an `InvalidKeyError` or a `ValueError`. -/
  fromJwk : String → Option K
  /-- `jwt.decode`. -/
  decode (token : String) (key : K) (algorithms : List String) (audience issuer : String) (leeway : Int)
    (require : List String) :
    Except JwtError (List (String × Json))

/-! ## The signing keys -/

/-- What `urlopen` and `response.read()` can do in `_fetch_json`. -/
inductive FetchOutcome where
  | body (content : Bytes)
  | urlError
  | timeoutError
  /-- Another `OSError`. -/
  | connectionError
  /-- A `ValueError` for the URL. -/
  | valueError
  /-- An `http.client.HTTPException` that is not an `OSError`: `InvalidURL`, `BadStatusLine`, `IncompleteRead`. -/
  | httpException
  deriving DecidableEq, Repr

/-- `_JwksCache`. -/
structure JwksCache where
  metadataUrl : String
  jwksUri : String
  keys : List (List (String × Json))
  expiresAt : Int

/-- What happens in a call of `_get_jwks_keys`: its time, and what is fetched of the metadata and of the keys. -/
structure KeyFetch where
  now : Int
  metadata : FetchOutcome
  jwks : String → FetchOutcome

/-- `json.loads(response.read().decode("utf-8"))`. -/
def FetchOutcome.json (P : Platform) : FetchOutcome → Except BotAuthExn Json
  | .body content => (decodeUtf8 P content >>= jsonLoads P).mapError .raised
  | .urlError => .error (.raised .urlError)
  | .timeoutError => .error (.raised .timeoutError)
  | .connectionError => .error (.raised .connectionError)
  | .valueError => .error (.raised .valueError)
  | .httpException => .error .httpClient

/-- `_fetch_json`. -/
def fetchJson (P : Platform) (outcome : FetchOutcome) : Except BotAuthExn (List (String × Json)) := do
  match ← outcome.json P with
  | .obj members => return members
  | _ => throw (.botFrameworkAuth "Bot Framework metadata response is invalid")

/-- `jwks_uri` of the metadata. -/
def jwksUri (P : Platform) (metadata : List (String × Json)) : String :=
  strOf P (orElse (item "jwks_uri" metadata) (.str ""))

/-- What is fetched in `_get_jwks_keys`: where the keys are, and the answer with them. -/
def fetchJwks (P : Platform) (fetch : KeyFetch) : Except BotAuthExn (String × List (String × Json)) := do
  let metadata ← fetchJson P fetch.metadata
  if jwksUri P metadata = "" then throw (.botFrameworkAuth "Bot Framework OpenID metadata is missing jwks_uri")
  let jwks ← fetchJson P (fetch.jwks (jwksUri P metadata))
  return (jwksUri P metadata, jwks)

/-- The `except` clause of `_get_jwks_keys`. -/
def BotAuthExn.refreshing : BotAuthExn → BotAuthExn
  | .raised .urlError | .raised .timeoutError | .raised .connectionError | .raised .jsonDecodeError =>
    .botFrameworkAuth "Unable to refresh Bot Framework signing keys"
  | e => e

/-- `[key for key in keys if isinstance(key, dict)]`. -/
def normalizedKeys (keys : List Json) : List (List (String × Json)) :=
  keys.filterMap fun
    | .obj members => some members
    | _ => none

/-- The cache that `_get_jwks_keys` fetches. -/
def refreshJwks (P : Platform) (fetch : KeyFetch) : Except BotAuthExn JwksCache := do
  let (uri, jwks) ← (fetchJwks P fetch).mapError BotAuthExn.refreshing
  match item "keys" jwks with
  | .arr keys =>
    return { metadataUrl := openidMetadataUrl
             jwksUri := uri
             keys := normalizedKeys keys
             expiresAt := fetch.now + jwksCacheSeconds * 1000000 }
  | _ => throw (.botFrameworkAuth "Bot Framework JWKS response is invalid")

/-- The cached keys, while they are fresh. -/
def freshKeys (now : Int) : Option JwksCache → Option (List (List (String × Json)))
  | some cache => if now < cache.expiresAt then some cache.keys else none
  | none => none

/-- `_get_jwks_keys`, with the cache it leaves. -/
def getJwksKeys (P : Platform) (fetch : KeyFetch) (forceRefresh : Bool) (cache : Option JwksCache) :
    Except BotAuthExn (List (List (String × Json))) × Option JwksCache :=
  match if forceRefresh then none else freshKeys fetch.now cache with
  | some keys => (.ok keys, cache)
  | none =>
    match refreshJwks P fetch with
    | .ok refreshed => (.ok refreshed.keys, some refreshed)
    | .error e => (.error e, cache)

/-- The id of a key, as `_find_key` reads it. -/
def keyId (P : Platform) (key : List (String × Json)) : String := strOf P (orElse (item "kid" key) (.str ""))

/-- `_find_key`. -/
def findKey (P : Platform) (keys : List (List (String × Json))) (kid : String) : Option (List (String × Json)) :=
  keys.find? (keyId P · == kid)

/-- What happens while a token is validated: the two calls of `_get_jwks_keys`, and the time at the end. -/
structure AuthRun where
  first : KeyFetch
  second : KeyFetch
  validatedAt : Int

/-- `_get_signing_key`. -/
def getSigningKey (P : Platform) (run : AuthRun) (kid : String) (cache : Option JwksCache) :
    Except BotAuthExn (List (String × Json)) × Option JwksCache :=
  match getJwksKeys P run.first false cache with
  | (.error e, cache) => (.error e, cache)
  | (.ok keys, cache) =>
    match findKey P keys kid with
    | some key => (.ok key, cache)
    | none =>
      match getJwksKeys P run.second true cache with
      | (.error e, cache) => (.error e, cache)
      | (.ok keys, cache) =>
        match findKey P keys kid with
        | some key => (.ok key, cache)
        | none => (.error (.botFrameworkAuth "Unknown Bot Framework signing key"), cache)

/-! ## The token -/

/-- `_extract_bearer_token`. -/
def extractBearerToken (P : Platform) (authorization : Option String) : Except BotAuthExn String :=
  if authorization.getD "" = "" then .error (.botFrameworkAuth "Missing Bot Framework authorization")
  else
    let (scheme, token) := (Python.splitFirst (authorization.getD "") " ").getD (authorization.getD "", "")
    if P.lower scheme ≠ "bearer" ∨ Python.strip token = "" then
      .error (.botFrameworkAuth "Invalid Bot Framework authorization header")
    else .ok (Python.strip token)

variable {K : Type}

/-- `_decode_header`. -/
def decodeHeader (J : PyJwt K) (token : String) : Except BotAuthExn (List (String × Json)) :=
  match J.getUnverifiedHeader token with
  | some (.obj header) => .ok header
  | _ => .error (.botFrameworkAuth "Invalid Bot Framework token")

/-- What `validate_bot_framework_activity` knows when it looks up the key. -/
structure TokenToValidate where
  appId : String
  token : String
  alg : String
  kid : String
  deriving DecidableEq, Repr

/-- `validate_bot_framework_activity`, up to the lookup of the key. -/
def readToken (P : Platform) (s : Settings) (J : PyJwt K) (authorization : Option String) :
    Except BotAuthExn TokenToValidate := do
  let appId := Python.strip s.msAppClientId
  if appId = "" then throw (.botFrameworkAuthConfig "Bot Framework inbound authentication is not configured")
  let token ← extractBearerToken P authorization
  let header ← decodeHeader J token
  let alg := strOf P (orElse (item "alg" header) (.str ""))
  if alg ∉ allowedAlgorithms then throw (.botFrameworkAuth "Invalid Bot Framework token algorithm")
  let kid := strOf P (orElse (item "kid" header) (.str ""))
  if kid = "" then throw (.botFrameworkAuth "Bot Framework token is missing a key ID")
  return { appId, token, alg, kid }

/-- The error that an error of `jwt.decode` becomes. -/
def JwtError.authError : JwtError → BotAuthExn
  | .expiredSignature => .botFrameworkAuth "Expired Bot Framework token"
  | .immatureSignature => .botFrameworkAuth "Bot Framework token is not active yet"
  | .invalidAudience => .botFrameworkAuth "Invalid Bot Framework token audience"
  | .invalidIssuer => .botFrameworkAuth "Invalid Bot Framework token issuer"
  | .invalidToken => .botFrameworkAuth "Invalid Bot Framework token"

/-- `validate_bot_framework_activity`, from the key on. `_claim_string` and `_activity_service_url` read a text as
`string` does. -/
def validateToken (P : Platform) (J : PyJwt K) (now : Int) (t : TokenToValidate)
    (activity keyData : List (String × Json)) : Except BotAuthExn BotFrameworkClaims :=
  match J.fromJwk (Json.dumps true false (.obj keyData)) with
  | none => .error (.botFrameworkAuth "Invalid Bot Framework signing key")
  | some key =>
    match J.decode t.token key [t.alg] t.appId botFrameworkIssuer clockSkewSeconds ["aud", "exp", "iss", "nbf"] with
    | .error e => .error e.authError
    | .ok claims =>
      let serviceUrl := Python.orElse (string (item "serviceurl" claims)) (string (item "serviceUrl" claims))
      let activityServiceUrl := string (item "serviceUrl" activity)
      if serviceUrl = "" ∨ activityServiceUrl = "" ∨ serviceUrl ≠ activityServiceUrl then
        .error (.botFrameworkAuth "Bot Framework serviceUrl claim mismatch")
      else
        .ok { issuer := strOf P (orElse (item "iss" claims) (.str ""))
              audience := strOf P (orElse (item "aud" claims) (.str ""))
              serviceUrl := serviceUrl
              serviceUrlMatched := true
              validatedAt := now }

/-- `validate_bot_framework_activity`, with the cache it leaves. -/
def validateBotFrameworkActivity (P : Platform) (s : Settings) (J : PyJwt K) (run : AuthRun)
    (authorization : Option String) (activity : List (String × Json)) (cache : Option JwksCache) :
    Except BotAuthExn BotFrameworkClaims × Option JwksCache :=
  match readToken P s J authorization with
  | .error e => (.error e, cache)
  | .ok t =>
    match getSigningKey P run t.kid cache with
    | (.error e, cache) => (.error e, cache)
    | (.ok keyData, cache) => (validateToken P J run.validatedAt t activity keyData, cache)

/-! ## The gate -/

/-- The activity that `require_bot_framework_auth` reads from the body. -/
def authActivity (P : Platform) (body : Bytes) : Except Exn (List (String × Json)) :=
  if body = [] then .ok []
  else
    match P.jsonLoadsBytes body with
    | .ok (.obj activity) => .ok activity
    | .ok _ | .error .jsonDecodeError => .ok []
    | .error e => .error e

/-- The `except` clauses of `require_bot_framework_auth`. -/
def BotAuthExn.gateError : BotAuthExn → AuthGateExn
  | .botFrameworkAuthConfig message => .http 503 message
  | .botFrameworkAuth message => .http 401 message
  | e => .other e

/-- `require_bot_framework_auth`, with the cache it leaves. -/
def requireBotFrameworkAuth (P : Platform) (s : Settings) (J : PyJwt K) (run : AuthRun) (authorization : Option String)
    (body : Bytes) (cache : Option JwksCache) : Except AuthGateExn BotFrameworkClaims × Option JwksCache :=
  match authActivity P body with
  | .error e => (.error (.other (.raised e)), cache)
  | .ok activity =>
    let (result, cache) := validateBotFrameworkActivity P s J run authorization activity cache
    (result.mapError BotAuthExn.gateError, cache)

/-- A process that receives activities: the tables, and the keys it has cached. -/
structure BotEndpoint where
  history : ActivityHistory
  cache : Option JwksCache

/-- `POST /bot/messages`: the activity is received when `require_bot_framework_auth` returns. -/
def postBotMessages (P : Platform) (s : Settings) (J : PyJwt K) (auth : AuthRun) (run : BotRun)
    (authorization : Option String) (body : Bytes) (endpoint : BotEndpoint) : BotEndpoint :=
  match requireBotFrameworkAuth P s J auth authorization body endpoint.cache with
  | (.error _, cache) => { endpoint with cache := cache }
  | (.ok _, cache) => ⟨(activityStep P endpoint.history (.activity s run body)).getD endpoint.history, cache⟩

end TeamsRehook
