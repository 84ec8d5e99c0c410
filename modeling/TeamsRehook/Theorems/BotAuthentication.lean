import TeamsRehook.Bot.Authentication
import TeamsRehook.Lemmas.Delivery

/-!
# The bot authentication gate

The gate rejects every request that it does not authenticate, unless something gets through that it does not catch: the
body is parsed before any authentication, and only `JSONDecodeError` is caught of what `json.loads` raises there; and of
what the fetches of the signing keys raise, those that are neither an `OSError` nor a `JSONDecodeError` are not caught
either.
-/

namespace TeamsRehook

variable {P : Platform} {s : Settings} {K : Type} {J : PyJwt K}

/-! ## What is handled -/

/-- A body that the gate reads: it is empty, or `json.loads` gives a value or raises `JSONDecodeError`. -/
def BodyParses (P : Platform) (body : Bytes) : Prop :=
  body = [] ∨ ∀ e, P.jsonLoadsBytes body = .error e → e = .jsonDecodeError

/-- A fetch ends in a body that is UTF-8 and that `json.loads` parses or refuses with `JSONDecodeError`, or in an
`OSError`. -/
def FetchOutcome.Handled (P : Platform) : FetchOutcome → Prop
  | .body content => ∃ text, P.decodeUtf8 content = some text ∧ Parses P text
  | .urlError | .timeoutError | .connectionError => True
  | .valueError | .httpException => False

/-- A fetch gives an object. -/
def FetchOutcome.Gives (P : Platform) (outcome : FetchOutcome) (members : List (String × Json)) : Prop :=
  ∃ content text, outcome = .body content ∧ P.decodeUtf8 content = some text ∧ P.jsonLoads text = .ok (.obj members)

/-- The fetch of the metadata is handled, and so is that of the keys, if the metadata says where they are. -/
def KeyFetch.Handled (P : Platform) (fetch : KeyFetch) : Prop :=
  fetch.metadata.Handled P ∧
    ∀ metadata, fetch.metadata.Gives P metadata → jwksUri P metadata ≠ "" → (fetch.jwks (jwksUri P metadata)).Handled P

/-- The fetch gives these keys. -/
def KeyFetch.Gives (P : Platform) (fetch : KeyFetch) (keys : List (List (String × Json))) : Prop :=
  ∃ metadata jwks items, fetch.metadata.Gives P metadata ∧ jwksUri P metadata ≠ "" ∧
    (fetch.jwks (jwksUri P metadata)).Gives P jwks ∧ item "keys" jwks = .arr items ∧ keys = normalizedKeys items

/-- The keys in the cache are fresh. -/
def Fresh (cache : Option JwksCache) (now : Int) : Prop := ∃ c, cache = some c ∧ now < c.expiresAt

/-- The lookup of a key is handled: the keys are fresh or their fetch is handled; and when the key is not among them, so
is the second fetch. -/
def LookupHandled (P : Platform) (run : AuthRun) (cache : Option JwksCache) (kid : String) : Prop :=
  (Fresh cache run.first.now ∨ run.first.Handled P) ∧
    ∀ keys, ((∃ c, cache = some c ∧ run.first.now < c.expiresAt ∧ keys = c.keys) ∨
        ¬Fresh cache run.first.now ∧ run.first.Gives P keys) →
      (∀ key ∈ keys, keyId P key ≠ kid) → run.second.Handled P

/-- The token of an `Authorization` header of the scheme `Bearer`. -/
def BearerToken (P : Platform) (authorization : Option String) (token : String) : Prop :=
  ∃ header scheme rest, authorization = some header ∧ Python.splitFirst header " " = some (scheme, rest) ∧
    P.lower scheme = "bearer" ∧ Python.strip rest = token ∧ token ≠ ""

/-- A request for which a key is looked up: an app is configured, and the header of the bearer token has an allowed
algorithm and a key. -/
def LooksUp (P : Platform) (s : Settings) (J : PyJwt K) (authorization : Option String) (kid : String) : Prop :=
  Python.strip s.msAppClientId ≠ "" ∧ kid ≠ "" ∧ ∃ token header, BearerToken P authorization token ∧
    J.getUnverifiedHeader token = some (.obj header) ∧
    strOf P (orElse (item "alg" header) (.str "")) ∈ allowedAlgorithms ∧
    kid = strOf P (orElse (item "kid" header) (.str ""))

/-- How the gate may end: with claims whose service URL is that of the activity, or with HTTP 401 or 503. -/
def GateEnds (P : Platform) (body : Bytes) : Except AuthGateExn BotFrameworkClaims → Prop
  | .ok claims =>
    ∃ activity, body ≠ [] ∧ P.jsonLoadsBytes body = .ok (.obj activity) ∧ string (item "serviceUrl" activity) ≠ "" ∧
      claims.serviceUrl = string (item "serviceUrl" activity)
  | .error (.http statusCode _) => statusCode = 401 ∨ statusCode = 503
  | .error (.other _) => False

namespace BotAuthenticationAux

/-- An exception that the gate catches. -/
def IsCaught (e : BotAuthExn) : Prop := ∃ message, e = .botFrameworkAuth message ∨ e = .botFrameworkAuthConfig message

theorem isCaught_botFrameworkAuth (message : String) : IsCaught (.botFrameworkAuth message) := ⟨message, .inl rfl⟩

/-! ## The fetches -/

/-- What `_fetch_json` gives, and when its exception is turned into one that the gate catches. -/
theorem ends_fetchJson (outcome : FetchOutcome) (Q : List (String × Json) → Prop) :
    (fetchJson P outcome).Ends Q (fun e => IsCaught e.refreshing) ↔
      outcome.Handled P ∧ ∀ members, outcome.Gives P members → Q members := by
  have hother : ∀ e, ¬IsCaught (BotAuthExn.raised e) := fun e ⟨_, h⟩ => h.elim nofun nofun
  cases outcome with
  | body content =>
    have hgives : ∀ members, (FetchOutcome.body content).Gives P members ↔
        ∃ text, P.decodeUtf8 content = some text ∧ P.jsonLoads text = .ok (.obj members) := fun members =>
      ⟨fun ⟨_, text, hbody, h⟩ => by cases hbody; exact ⟨text, h⟩, fun ⟨text, h⟩ => ⟨content, text, rfl, h⟩⟩
    simp only [fetchJson, FetchOutcome.json, Except.ends_bind, Except.ends_mapError, FetchOutcome.Handled, hgives]
    cases htext : P.decodeUtf8 content with
    | none => simp [decodeUtf8, htext, BotAuthExn.refreshing, hother]
    | some text =>
      cases hvalue : P.jsonLoads text with
      | error e =>
        cases e <;> simp [decodeUtf8, jsonLoads, htext, hvalue, Parses, JsonError.exn, BotAuthExn.refreshing, hother,
          isCaught_botFrameworkAuth]
      | ok value =>
        cases value <;> simp [decodeUtf8, jsonLoads, htext, hvalue, Parses, BotAuthExn.refreshing,
          isCaught_botFrameworkAuth]
  | valueError => simp [fetchJson, FetchOutcome.json, FetchOutcome.Handled, BotAuthExn.refreshing, hother]
  | httpException => simp [fetchJson, FetchOutcome.json, FetchOutcome.Handled, BotAuthExn.refreshing, IsCaught]
  | _ =>
    simp [fetchJson, FetchOutcome.json, FetchOutcome.Handled, FetchOutcome.Gives, BotAuthExn.refreshing,
      isCaught_botFrameworkAuth]

/-- What `_fetch_json` returns. -/
theorem fetchJson_eq_ok_iff {outcome : FetchOutcome} {members : List (String × Json)} :
    fetchJson P outcome = .ok members ↔ outcome.Gives P members := by
  cases outcome with
  | body content =>
    cases htext : P.decodeUtf8 content with
    | none =>
      simp [fetchJson, FetchOutcome.json, FetchOutcome.Gives, decodeUtf8, htext, Except.mapError, bind, Except.bind]
    | some text =>
      cases hvalue : P.jsonLoads text with
      | error e =>
        simp [fetchJson, FetchOutcome.json, FetchOutcome.Gives, decodeUtf8, jsonLoads, htext, hvalue, Except.mapError,
          bind, Except.bind]
      | ok value =>
        cases value <;> simp [fetchJson, FetchOutcome.json, FetchOutcome.Gives, decodeUtf8, jsonLoads, htext, hvalue,
          Except.mapError, bind, Except.bind, pure, Except.pure, throw, throwThe, MonadExceptOf.throw]
  | _ => simp [fetchJson, FetchOutcome.json, FetchOutcome.Gives, bind, Except.bind]

/-- A refresh returns keys or raises what the gate catches exactly when its fetches are handled. -/
theorem ends_refreshJwks (fetch : KeyFetch) : (refreshJwks P fetch).Ends (fun _ => True) IsCaught ↔ fetch.Handled P := by
  have hrefresh : (refreshJwks P fetch).Ends (fun _ => True) IsCaught ↔
      (fetchJwks P fetch).Ends (fun _ => True) (fun e => IsCaught e.refreshing) := by
    rw [refreshJwks, Except.ends_bind, Except.ends_mapError]
    cases fetchJwks P fetch with
    | error e => rfl
    | ok r =>
      refine iff_of_true ?_ trivial
      rw [Except.ends_ok]
      split
      split
      · trivial
      · exact isCaught_botFrameworkAuth _
  rw [hrefresh, fetchJwks, Except.ends_bind, ends_fetchJson]
  refine and_congr_right fun _ => forall_congr' fun metadata => imp_congr_right fun _ => ?_
  by_cases huri : jwksUri P metadata = ""
  · simp [huri, BotAuthExn.refreshing, isCaught_botFrameworkAuth]
  · simp [huri, ends_fetchJson]

/-- The keys that a refresh gives. -/
theorem refreshJwks_keys_iff {fetch : KeyFetch} {keys : List (List (String × Json))} :
    (∃ c, refreshJwks P fetch = .ok c ∧ c.keys = keys) ↔ fetch.Gives P keys := by
  have hfetch : ∀ uri jwks, fetchJwks P fetch = .ok (uri, jwks) ↔ ∃ metadata, fetch.metadata.Gives P metadata ∧
      jwksUri P metadata ≠ "" ∧ (fetch.jwks (jwksUri P metadata)).Gives P jwks ∧ uri = jwksUri P metadata := by
    intro uri jwks
    rw [fetchJwks, Except.bind_eq_ok_iff]
    refine exists_congr fun metadata => and_congr fetchJson_eq_ok_iff ?_
    by_cases huri : jwksUri P metadata = ""
    · simp [huri, throw, throwThe, MonadExceptOf.throw, bind, Except.bind]
    · simp only [huri, if_false, Except.bind_eq_ok_iff, fetchJson_eq_ok_iff]
      constructor
      · rintro ⟨jwks', hjwks, h⟩
        cases h
        exact ⟨huri, hjwks, rfl⟩
      · rintro ⟨-, hjwks, rfl⟩
        exact ⟨jwks, hjwks, rfl⟩
  constructor
  · rintro ⟨c, hc, rfl⟩
    rw [refreshJwks, Except.bind_eq_ok_iff] at hc
    obtain ⟨⟨uri, jwks⟩, hpair, hc⟩ := hc
    obtain ⟨metadata, hmetadata, huri, hjwks, -⟩ := (hfetch uri jwks).1 (Except.mapError_eq_ok_iff.1 hpair)
    dsimp only at hc
    split at hc
    next items hitems =>
      cases hc
      exact ⟨metadata, jwks, items, hmetadata, huri, hjwks, hitems, rfl⟩
    next => nomatch hc
  · rintro ⟨metadata, jwks, items, hmetadata, huri, hjwks, hitems, rfl⟩
    refine ⟨⟨openidMetadataUrl, jwksUri P metadata, normalizedKeys items, fetch.now + jwksCacheSeconds * 1000000⟩, ?_,
      rfl⟩
    rw [refreshJwks, Except.bind_eq_ok_iff]
    refine ⟨(jwksUri P metadata, jwks), Except.mapError_eq_ok_iff.2
      ((hfetch _ _).2 ⟨metadata, hmetadata, huri, hjwks, rfl⟩), ?_⟩
    dsimp only
    rw [hitems]
    rfl

/-! ## The lookup of the key -/

variable {fetch : KeyFetch} {run : AuthRun} {cache : Option JwksCache} {kid : String}

/-- Keys that are asked for anew. -/
theorem getJwksKeys_forced (cache : Option JwksCache) :
    (getJwksKeys P fetch true cache).1 = (refreshJwks P fetch).map (·.keys) := by
  unfold getJwksKeys
  cases refreshJwks P fetch <;> rfl

/-- Keys that are fresh are returned, and others are asked for. -/
theorem getJwksKeys_cached : (getJwksKeys P fetch false cache).1 =
    match freshKeys fetch.now cache with
    | some keys => .ok keys
    | none => (refreshJwks P fetch).map (·.keys) := by
  unfold getJwksKeys
  cases freshKeys fetch.now cache with
  | some keys => rfl
  | none => cases refreshJwks P fetch <;> rfl

/-- The keys in the cache, while they are fresh. -/
theorem freshKeys_eq_some_iff {now : Int} {keys : List (List (String × Json))} :
    freshKeys now cache = some keys ↔ ∃ c, cache = some c ∧ now < c.expiresAt ∧ keys = c.keys := by
  cases cache with
  | none => simp [freshKeys]
  | some c => simp [freshKeys, eq_comm]

/-- There are no fresh keys when the cache is not fresh. -/
theorem freshKeys_eq_none_iff {now : Int} : freshKeys now cache = none ↔ ¬Fresh cache now := by
  cases cache with
  | none => simp [freshKeys, Fresh]
  | some c => simp [freshKeys, Fresh]

/-- The first keys of a lookup. -/
theorem firstKeys_eq_ok_iff {keys : List (List (String × Json))} :
    (getJwksKeys P fetch false cache).1 = .ok keys ↔
      (∃ c, cache = some c ∧ fetch.now < c.expiresAt ∧ keys = c.keys) ∨ ¬Fresh cache fetch.now ∧ fetch.Gives P keys := by
  rw [getJwksKeys_cached, ← freshKeys_eq_some_iff, ← freshKeys_eq_none_iff]
  cases freshKeys fetch.now cache with
  | some fresh => simp
  | none => simp [Except.map_eq_ok_iff, ← refreshJwks_keys_iff]

/-- The first call of `_get_jwks_keys` fails, if it does, with an error that the gate catches exactly when it needs no
fetch or a handled one. -/
theorem ends_firstKeys :
    (getJwksKeys P fetch false cache).1.Ends (fun _ => True) IsCaught ↔ Fresh cache fetch.now ∨ fetch.Handled P := by
  rw [getJwksKeys_cached, ← not_not (a := Fresh cache fetch.now), ← freshKeys_eq_none_iff]
  cases freshKeys fetch.now cache with
  | some fresh => simp
  | none => simp [ends_refreshJwks]

/-- The lookup of a key. -/
theorem getSigningKey_eq : (getSigningKey P run kid cache).1 =
    (getJwksKeys P run.first false cache).1 >>= fun keys =>
      match findKey P keys kid with
      | some key => .ok key
      | none => (refreshJwks P run.second).map (·.keys) >>= fun keys =>
        match findKey P keys kid with
        | some key => .ok key
        | none => .error (.botFrameworkAuth "Unknown Bot Framework signing key") := by
  unfold getSigningKey
  rcases getJwksKeys P run.first false cache with ⟨_ | keys, cache'⟩
  · rfl
  · dsimp only [bind, Except.bind]
    cases findKey P keys kid with
    | some key => rfl
    | none =>
      rw [← getJwksKeys_forced cache']
      rcases getJwksKeys P run.second true cache' with ⟨_ | keys', cache''⟩
      · rfl
      · dsimp only
        cases findKey P keys' kid <;> rfl

/-- A key that is not found. -/
theorem findKey_eq_none_iff {keys : List (List (String × Json))} :
    findKey P keys kid = none ↔ ∀ key ∈ keys, keyId P key ≠ kid := by
  simp [findKey]

/-- A lookup fails, if it does, with an error that the gate catches exactly when it is handled. -/
theorem ends_getSigningKey : (getSigningKey P run kid cache).1.Ends (fun _ => True) IsCaught ↔
    LookupHandled P run cache kid := by
  rw [getSigningKey_eq, Except.ends_bind, LookupHandled, ← ends_firstKeys]
  simp only [← firstKeys_eq_ok_iff]
  cases hfirst : (getJwksKeys P run.first false cache).1 with
  | error e => simp
  | ok keys =>
    simp only [Except.ends_ok, true_and, Except.ok.injEq, forall_eq', ← findKey_eq_none_iff]
    cases hfind : findKey P keys kid with
    | some key => simp
    | none =>
      simp only [Except.ends_bind, Except.ends_map, forall_const, ← ends_refreshJwks]
      cases refreshJwks P run.second with
      | error e => rfl
      | ok refreshed =>
        refine iff_of_true ?_ trivial
        simp only [Except.ends_ok]
        split
        · trivial
        · exact isCaught_botFrameworkAuth _

/-! ## The token -/

/-- A bearer token is refused, if it is, with an error that the gate catches. -/
theorem ends_extractBearerToken (authorization : Option String) :
    (extractBearerToken P authorization).Ends (fun _ => True) IsCaught := by
  unfold extractBearerToken
  split
  · exact isCaught_botFrameworkAuth _
  · dsimp only
    split
    · exact isCaught_botFrameworkAuth _
    · trivial

/-- The bearer token that is read. -/
theorem extractBearerToken_eq_ok_iff {authorization : Option String} {token : String} :
    extractBearerToken P authorization = .ok token ↔ BearerToken P authorization token := by
  have hempty : Python.splitFirst "" " " = none := by decide
  cases authorization with
  | none => simp [extractBearerToken, BearerToken]
  | some header =>
    simp only [extractBearerToken, BearerToken, Option.getD_some, Option.some.injEq, exists_and_left, exists_eq_left']
    by_cases hheader : header = ""
    · simp [hheader, hempty]
    · rw [if_neg hheader]
      cases hsplit : Python.splitFirst header " " with
      | none => simp [show Python.strip "" = "" by decide]
      | some parts =>
        obtain ⟨scheme, rest⟩ := parts
        simp only [Option.getD_some, Option.some.injEq, Prod.mk.injEq]
        constructor
        · intro h
          split at h
          · nomatch h
          · next hbearer =>
            cases h
            exact ⟨scheme, rest, ⟨rfl, rfl⟩, not_not.1 (not_or.1 hbearer).1, rfl, (not_or.1 hbearer).2⟩
        · rintro ⟨_, _, ⟨rfl, rfl⟩, hscheme, rfl, htoken⟩
          rw [if_neg (not_or.2 ⟨not_not.2 hscheme, htoken⟩)]

/-- A token is refused, if it is, with an error that the gate catches. -/
theorem ends_readToken (authorization : Option String) :
    (readToken P s J authorization).Ends (fun _ => True) IsCaught := by
  have hheader : ∀ token, (decodeHeader J token).Ends (fun _ => True) IsCaught := by
    intro token
    unfold decodeHeader
    split
    · trivial
    · exact isCaught_botFrameworkAuth _
  unfold readToken
  dsimp only
  split
  · exact ⟨_, .inr rfl⟩
  · rw [Except.ends_bind]
    refine (ends_extractBearerToken authorization).mono (fun token _ => ?_) fun _ => id
    rw [Except.ends_bind]
    refine (hheader token).mono (fun header _ => ?_) fun _ => id
    split
    · exact isCaught_botFrameworkAuth _
    · split
      · exact isCaught_botFrameworkAuth _
      · trivial

/-- The key that is looked up. -/
theorem readToken_kid_iff {authorization : Option String} {kid : String} :
    (∃ t, readToken P s J authorization = .ok t ∧ t.kid = kid) ↔ LooksUp P s J authorization kid := by
  have hheader : ∀ token header, decodeHeader J token = .ok header ↔
      J.getUnverifiedHeader token = some (.obj header) := by
    intro token header
    unfold decodeHeader
    split
    next members hmembers => rw [hmembers, Except.ok.injEq, Option.some.injEq, Json.obj.injEq]
    next hnone => exact ⟨nofun, fun h => absurd h (hnone header)⟩
  unfold readToken LooksUp
  simp only [← extractBearerToken_eq_ok_iff, ← hheader]
  constructor
  · rintro ⟨t, ht, rfl⟩
    split at ht
    next => nomatch ht
    next happ =>
      obtain ⟨token, htoken, ht⟩ := Except.bind_eq_ok_iff.1 ht
      obtain ⟨header, hread, ht⟩ := Except.bind_eq_ok_iff.1 ht
      split at ht
      next => nomatch ht
      next halg =>
        split at ht
        next => nomatch ht
        next hkid =>
          cases ht
          exact ⟨happ, hkid, token, header, htoken, hread, not_not.1 halg, rfl⟩
  · rintro ⟨happ, hkid, token, header, htoken, hread, halg, rfl⟩
    refine ⟨⟨Python.strip s.msAppClientId, token, strOf P (orElse (item "alg" header) (.str "")),
      strOf P (orElse (item "kid" header) (.str ""))⟩, ?_, rfl⟩
    rw [if_neg happ, Except.bind_eq_ok_iff]
    refine ⟨token, htoken, Except.bind_eq_ok_iff.2 ⟨header, hread, ?_⟩⟩
    rw [if_neg (not_not.2 halg), if_neg hkid]
    rfl

/-- A token is validated for the service URL of the activity, or refused with an error that the gate catches. -/
theorem ends_validateToken (now : Int) (t : TokenToValidate) (activity keyData : List (String × Json)) :
    (validateToken P J now t activity keyData).Ends
      (fun claims => string (item "serviceUrl" activity) ≠ "" ∧ claims.serviceUrl = string (item "serviceUrl" activity))
        IsCaught := by
  unfold validateToken
  split
  · exact isCaught_botFrameworkAuth _
  · split
    next e _ => cases e <;> exact isCaught_botFrameworkAuth _
    next =>
      dsimp only
      split
      next => exact isCaught_botFrameworkAuth _
      next hmatch =>
        obtain ⟨-, hactivity, hsame⟩ := not_or.1 hmatch |>.imp_right not_or.1
        exact ⟨hactivity, not_not.1 hsame⟩

/-! ## The validation -/

variable {authorization : Option String} {body : Bytes}

/-- The validation returns claims for the activity or raises what the gate catches exactly when the lookup of the key
that the token names is handled. -/
theorem ends_validateBotFrameworkActivity (activity : List (String × Json)) :
    (validateBotFrameworkActivity P s J run authorization activity cache).1.Ends
        (fun claims => string (item "serviceUrl" activity) ≠ "" ∧
          claims.serviceUrl = string (item "serviceUrl" activity)) IsCaught ↔
      ∀ kid, LooksUp P s J authorization kid → LookupHandled P run cache kid := by
  have htoken := ends_readToken (P := P) (s := s) (J := J) authorization
  simp only [← readToken_kid_iff, ← ends_getSigningKey]
  unfold validateBotFrameworkActivity
  cases hread : readToken P s J authorization with
  | error e =>
    rw [hread] at htoken
    exact iff_of_true htoken (fun _ ⟨_, h, _⟩ => nomatch h)
  | ok t =>
    simp only [Except.ok.injEq, exists_eq_left', forall_eq']
    rcases getSigningKey P run t.kid cache with ⟨e | keyData, cache'⟩
    · rfl
    · exact iff_of_true (ends_validateToken run.validatedAt t activity keyData) trivial

/-! ## The body -/

/-- The activity that is read of a body: the object in it, or no members when there is none. -/
theorem authActivity_cases {activity : List (String × Json)} (h : authActivity P body = .ok activity) :
    (body ≠ [] ∧ P.jsonLoadsBytes body = .ok (.obj activity)) ∨
      activity = [] ∧ ∀ object, body ≠ [] → P.jsonLoadsBytes body ≠ .ok (.obj object) := by
  unfold authActivity at h
  split at h
  next hempty =>
    cases h
    exact .inr ⟨rfl, fun _ hne => absurd hempty hne⟩
  next hne =>
    split at h
    next hloads =>
      cases h
      exact .inl ⟨hne, hloads⟩
    next hother hloads =>
      cases h
      exact .inr ⟨rfl, fun object _ hobject => hother object (Except.ok.inj (hloads.symm.trans hobject))⟩
    next hloads =>
      cases h
      exact .inr ⟨rfl, fun _ _ hobject => nomatch hloads.symm.trans hobject⟩
    next => nomatch h

/-- The bodies that are read. -/
theorem bodyParses_iff : BodyParses P body ↔ ∃ activity, authActivity P body = .ok activity := by
  unfold authActivity
  split
  next hempty => exact iff_of_true (.inl hempty) ⟨[], rfl⟩
  next hne =>
    rw [BodyParses, or_iff_right hne]
    split
    next activity hloads => exact iff_of_true (fun e h => nomatch hloads.symm.trans h) ⟨activity, rfl⟩
    next hloads => exact iff_of_true (fun e h => nomatch hloads.symm.trans h) ⟨[], rfl⟩
    next hloads => exact iff_of_true (fun e h => Except.error.inj (h.symm.trans hloads)) ⟨[], rfl⟩
    next e hother hloads => exact iff_of_false (fun h => hother (h e hloads)) nofun

/-- The gate ends as asked exactly when the validation does. -/
theorem gateEnds_mapError_iff {activity : List (String × Json)} (h : authActivity P body = .ok activity)
    (result : Except BotAuthExn BotFrameworkClaims) :
    GateEnds P body (result.mapError BotAuthExn.gateError) ↔
      result.Ends (fun claims => string (item "serviceUrl" activity) ≠ "" ∧
        claims.serviceUrl = string (item "serviceUrl" activity))
        IsCaught := by
  cases result with
  | error e =>
    cases e with
    | botFrameworkAuth message => exact iff_of_true (.inl rfl) (isCaught_botFrameworkAuth message)
    | botFrameworkAuthConfig message => exact iff_of_true (.inr rfl) ⟨message, .inr rfl⟩
    | _ => exact iff_of_false id fun ⟨_, h⟩ => h.elim nofun nofun
  | ok claims =>
    change (∃ object, _) ↔ _ ∧ _
    rcases authActivity_cases h with ⟨hne, hloads⟩ | ⟨rfl, hnone⟩
    · constructor
      · rintro ⟨object, -, hobject, hurl⟩
        cases hloads.symm.trans hobject
        exact hurl
      · exact fun hurl => ⟨activity, hne, hloads, hurl⟩
    · refine iff_of_false (fun ⟨object, hne, hobject, _⟩ => hnone object hne hobject) fun hurl => hurl.1 ?_
      rfl

end BotAuthenticationAux

open BotAuthenticationAux

/-- The gate, for every body and every `Authorization` header: it returns claims for the service URL of the activity or
raises HTTP 401 or 503, and nothing is stored unless it returned, exactly when the body is read and, for a request for
which a key is looked up, the lookup is handled. -/
theorem bot_gate_total_iff (P : Platform) (s : Settings) (J : PyJwt K) (auth : AuthRun) (run : BotRun)
    (authorization : Option String) (body : Bytes) (endpoint : BotEndpoint) :
    (GateEnds P body (requireBotFrameworkAuth P s J auth authorization body endpoint.cache).1 ∧
        ((∀ claims, (requireBotFrameworkAuth P s J auth authorization body endpoint.cache).1 ≠ .ok claims) →
          (postBotMessages P s J auth run authorization body endpoint).history = endpoint.history)) ↔
      BodyParses P body ∧ ∀ kid, LooksUp P s J authorization kid → LookupHandled P auth endpoint.cache kid := by
  have hstored : (∀ claims, (requireBotFrameworkAuth P s J auth authorization body endpoint.cache).1 ≠ .ok claims) →
      (postBotMessages P s J auth run authorization body endpoint).history = endpoint.history := by
    intro hrefused
    unfold postBotMessages
    split
    next => rfl
    next claims _ hreturned => exact absurd (congrArg Prod.fst hreturned) (hrefused claims)
  rw [and_iff_left hstored]
  unfold requireBotFrameworkAuth
  cases hactivity : authActivity P body with
  | error e =>
    refine iff_of_false id fun h => ?_
    obtain ⟨activity, hok⟩ := bodyParses_iff.1 h.1
    nomatch hactivity.symm.trans hok
  | ok activity =>
    have hbody := bodyParses_iff.2 ⟨activity, hactivity⟩
    exact (gateEnds_mapError_iff hactivity _).trans
      ((ends_validateBotFrameworkActivity activity).trans (and_iff_right hbody).symm)

/-! ## Fixed inputs -/

/-- A platform on which a body with a byte beyond ASCII is not UTF-8, and no other one is JSON. -/
def Platform.asciiBodies : Platform :=
  { Platform.plain with
    jsonLoadsBytes := fun body => if body.all (· < 128) then .error .jsonDecodeError else .error .unicodeDecodeError }

/-- PyJWT with no token that it can read. -/
def noTokens : PyJwt Unit where
  getUnverifiedHeader _ := none
  fromJwk _ := none
  decode _ _ _ _ _ _ _ := .error .invalidToken

/-- Keys that cannot be fetched. -/
def offlineAuth : AuthRun := ⟨⟨0, .urlError, fun _ => .urlError⟩, ⟨0, .urlError, fun _ => .urlError⟩, 0⟩

/-- The gate is not total: a body of the single byte 255, sent by anyone, ends it with a `UnicodeDecodeError`, while an
empty body is rejected. -/
theorem bot_gate_undecodable_body :
    let gate :=
      fun body => (requireBotFrameworkAuth Platform.asciiBodies { msAppClientId := "app" } noTokens offlineAuth
        none body none).1
    gate [] = .error (.http 401 "Missing Bot Framework authorization") ∧
      gate [255] = .error (.other (.raised .unicodeDecodeError)) ∧ ¬GateEnds Platform.asciiBodies [255] (gate [255]) := by
  refine ⟨rfl, rfl, id⟩

/-- PyJWT with one token, for the service URL of Ada's message. -/
def adaToken : PyJwt Unit where
  getUnverifiedHeader _ := some (.obj [("alg", .str "RS256"), ("kid", .str "key")])
  fromJwk _ := some ()
  decode _ _ _ audience issuer _ _ :=
    .ok [("iss", .str issuer), ("aud", .str audience), ("serviceurl", .str "https://smba.example/")]

example :
    (requireBotFrameworkAuth (Platform.bodyOfAda "list") { msAppClientId := "app" } adaToken offlineAuth
      (some "bearer token") [123]
    (some ⟨openidMetadataUrl, "", [[("kid", .str "key")]], 1⟩)).1.toOption =
      some ⟨botFrameworkIssuer, "app", "https://smba.example/", true, 0⟩ := by decide +kernel

end TeamsRehook
