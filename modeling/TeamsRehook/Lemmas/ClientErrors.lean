import TeamsRehook.Lemmas.Delivery
import TeamsRehook.Webhook.InFlight

/-!
# What the clients raise

The clients of a delivery do not write to the tables, and none of them raises an error of the database.
-/

namespace TeamsRehook

/-- A computation that raises, raises no error of the database. -/
def SparesDatabase {α : Type} (x : Except Exn α) : Prop := x.Ends (fun _ => True) (·.isDatabaseError = false)

section Rules

variable {α β : Type} {x : Except Exn α}

/-- A result is no database error. -/
theorem sparesDatabase_ok (a : α) : SparesDatabase (.ok a : Except Exn α) := trivial

/-- An exception of another kind is no database error. -/
theorem sparesDatabase_throw {e : Exn} (h : e.isDatabaseError = false) : SparesDatabase (throw e : Except Exn α) := h

/-- Computations that raise no database error compose. -/
theorem SparesDatabase.bind {f : α → Except Exn β} (h : SparesDatabase x) (hf : ∀ a, SparesDatabase (f a)) :
    SparesDatabase (x >>= f) :=
  Except.Ends.bind h fun a _ => hf a

/-- What is made of a result raises nothing. -/
theorem SparesDatabase.map (h : SparesDatabase x) (f : α → β) : SparesDatabase (x.map f) :=
  (Except.ends_map x f _ _).2 (h.mono (fun _ _ => trivial) fun _ he => he)

/-- An error of such a computation is none of the database. -/
theorem SparesDatabase.error {e : Exn} (h : SparesDatabase x) (he : x = .error e) : e.isDatabaseError = false := by
  subst he
  exact h

end Rules

variable {P : Platform} {s : Settings}

/-! ## Reading an answer -/

/-- Reading a response raises no database error. -/
theorem sparesDatabase_read (read : BodyRead) : SparesDatabase read.read := by
  cases read <;> trivial

/-- Decoding a response raises no database error. -/
theorem sparesDatabase_decodeUtf8 (content : Bytes) : SparesDatabase (decodeUtf8 P content) := by
  unfold decodeUtf8
  cases P.decodeUtf8 content <;> trivial

/-- Parsing a response raises no database error. -/
theorem sparesDatabase_jsonLoads (text : String) : SparesDatabase (jsonLoads P text) := by
  unfold jsonLoads
  cases P.jsonLoads text with
  | ok value => trivial
  | error e => cases e <;> trivial

/-- A response read as JSON raises no database error. -/
theorem sparesDatabase_json (out : UrlOutcome) : SparesDatabase (out.json P) := by
  cases out with
  | response status read =>
    exact (sparesDatabase_read read).bind fun content => (sparesDatabase_decodeUtf8 content).bind sparesDatabase_jsonLoads
  | _ => trivial

/-- Looking a key up raises no database error. -/
theorem sparesDatabase_getItem (key : String) (value : Json) : SparesDatabase (getItem key value) := by
  cases value <;> trivial

/-- `int` raises no database error. -/
theorem sparesDatabase_intOf (value : Json) : SparesDatabase (intOf P value) := by
  refine (intOf_errors P value).mono (fun _ _ => trivial) ?_
  rintro e (rfl | rfl | rfl) <;> rfl

/-- Date arithmetic raises no database error. -/
theorem sparesDatabase_addSeconds (now n : Int) : SparesDatabase (addSeconds now n) := by
  unfold addSeconds
  split <;> trivial

/-! ## The bot client -/

/-- `fetch_botframework_token` raises no database error. -/
theorem sparesDatabase_fetchBotframeworkToken (out : UrlOutcome) : SparesDatabase (fetchBotframeworkToken P s out) := by
  unfold fetchBotframeworkToken
  split
  · trivial
  · have hjson := sparesDatabase_json (P := P) out
    split
    · trivial
    · trivial
    · rename_i e _ _ he
      exact hjson.error he
    · rename_i body _
      exact (sparesDatabase_getItem _ body).bind fun _ => (sparesDatabase_getItem _ body).bind fun _ =>
        (sparesDatabase_intOf _).bind fun _ => trivial

/-- `BotTokenManager.get_token` raises no database error. -/
theorem sparesDatabase_getToken (now : Int) (out : UrlOutcome) (m : BotTokenManager) :
    SparesDatabase (m.getToken P s now out) := by
  unfold BotTokenManager.getToken
  split
  · trivial
  · refine (sparesDatabase_fetchBotframeworkToken out).bind fun r => ?_
    dsimp only
    split
    · exact sparesDatabase_throw rfl
    · exact (sparesDatabase_addSeconds _ _).bind fun _ => sparesDatabase_ok _

/-- `_post_bot_activity` raises no database error. -/
theorem sparesDatabase_postBotActivity (activity : List (String × Json)) (out : UrlOutcome) :
    SparesDatabase (postBotActivity P activity out) := by
  cases out with
  | response status read =>
    refine (sparesDatabase_read read).bind fun content => (sparesDatabase_decodeUtf8 content).bind fun text => ?_
    dsimp only
    split
    · exact sparesDatabase_ok _
    · exact (sparesDatabase_jsonLoads text).bind fun _ => sparesDatabase_ok _
  | httpError code read => exact (sparesDatabase_read read).bind fun _ => sparesDatabase_throw rfl
  | _ => trivial

/-- `send_bot_activity` raises no database error. -/
theorem sparesDatabase_sendBotActivity (now : Int) (serviceUrl conversationId : String) (message : NormalizedMessage)
    (token send : UrlOutcome) (m : BotTokenManager) :
    SparesDatabase (sendBotActivity P s now serviceUrl conversationId message token send m).2 := by
  unfold sendBotActivity
  by_cases hmock : (!s.realBotDelivery P) = true
  · simp only [hmock, if_true]
    exact sparesDatabase_ok _
  · by_cases hblank : Python.rstripChar (Python.strip serviceUrl) '/' = "" ∨ Python.strip conversationId = ""
    · simp only [hmock, hblank, if_true]
      exact sparesDatabase_throw rfl
    · simp only [hmock, hblank, Bool.false_eq_true, if_false]
      split
      · rename_i e he
        exact (sparesDatabase_getToken now token m).error he
      · exact sparesDatabase_postBotActivity _ send

/-! ## The Graph client -/

/-- Making a key for secrets raises no database error. -/
theorem sparesDatabase_fernet : SparesDatabase (fernet s) := by
  unfold fernet
  dsimp only
  split <;> trivial

/-- `encrypt_secret` raises no database error. -/
theorem sparesDatabase_encryptSecret (now : Int) (value : String) : SparesDatabase (encryptSecret P s now value) := by
  refine sparesDatabase_fernet.bind fun _ => ?_
  split
  · exact sparesDatabase_ok _
  · exact sparesDatabase_throw rfl

/-- `decrypt_secret` raises no database error. -/
theorem sparesDatabase_decryptSecret (value : String) : SparesDatabase (decryptSecret P s value) := by
  refine sparesDatabase_fernet.bind fun key => ?_
  cases P.fernetDecrypt key value <;> trivial

/-- Reading the error of a token endpoint raises no database error. -/
theorem sparesDatabase_tokenErrorCode (read : BodyRead) : SparesDatabase (tokenErrorCode P read) := by
  refine (sparesDatabase_read read).bind fun content => ?_
  have hbody : SparesDatabase (decodeUtf8 P content >>= jsonLoads P) :=
    (sparesDatabase_decodeUtf8 content).bind sparesDatabase_jsonLoads
  split
  · trivial
  · trivial
  · rename_i e _ _ he
    exact hbody.error he
  · exact (sparesDatabase_getItem _ _).bind fun _ => trivial

/-- A token request raises no database error. -/
theorem sparesDatabase_requestToken (out : UrlOutcome) : SparesDatabase (requestToken P out) := by
  unfold requestToken
  split
  · refine (sparesDatabase_tokenErrorCode _).bind fun code => ?_
    split <;> trivial
  · have hjson := sparesDatabase_json (P := P) out
    split
    · trivial
    · trivial
    · exact hjson

/-- Decoding the claims of a token raises no database error. -/
theorem sparesDatabase_decodeJwtClaims (token : String) : SparesDatabase (decodeJwtClaims P token) :=
  (decodeJwtClaims_errors P token).mono (fun _ _ => trivial) (by rintro e rfl; rfl)

/-- Filling a credential from an answer raises no database error. -/
theorem sparesDatabase_applySuccessfulTokenResponse (now : Int) (response : Json) (fallbackScopes : List String)
    (refreshToken : Option String) (credential : GraphDelegatedCredential) :
    SparesDatabase (applySuccessfulTokenResponse P s now response fallbackScopes refreshToken credential) := by
  refine (sparesDatabase_getItem _ response).bind fun _ => (sparesDatabase_decodeJwtClaims _).bind fun _ => ?_
  refine (sparesDatabase_getItem _ response).bind fun _ => (sparesDatabase_intOf _).bind fun _ => ?_
  refine (sparesDatabase_getItem _ response).bind fun _ => ?_
  cases refreshToken with
  | none => exact (sparesDatabase_addSeconds _ _).bind fun _ => sparesDatabase_ok _
  | some token =>
    exact (sparesDatabase_encryptSecret now token).bind fun _ => (sparesDatabase_addSeconds _ _).bind fun _ =>
      sparesDatabase_ok _

/-- A computation that raises, raises no other error of the database than that a value is not taken. -/
def FlushesCredential {α : Type} (x : Except Exn α) : Prop :=
  x.Ends (fun _ => True) (fun e => e.isDatabaseError = true → e = .dataError)

/-- What raises no database error raises none but that of a flush. -/
theorem SparesDatabase.flushesCredential {α : Type} {x : Except Exn α} (h : SparesDatabase x) : FlushesCredential x :=
  h.mono (fun _ _ => trivial) fun e he hdatabase => by
    rw [he] at hdatabase
    nomatch hdatabase

/-- The only database error is that of a flush. -/
theorem FlushesCredential.error {α : Type} {x : Except Exn α} {e : Exn} (h : FlushesCredential x) (he : x = .error e) :
    e.isDatabaseError = true → e = .dataError := by
  subst he
  exact h

/-- A refresh raises no database error but that of its flush. -/
theorem flushesCredential_refreshCredential (now : Int) (out : UrlOutcome) (credential : GraphDelegatedCredential) :
    FlushesCredential (refreshCredential P s now out credential).2 := by
  have hrequest : SparesDatabase (decryptSecret P s credential.encryptedRefreshToken >>= fun _ => requestToken P out) :=
    (sparesDatabase_decryptSecret _).bind fun _ => sparesDatabase_requestToken out
  unfold refreshCredential
  split
  · exact (sparesDatabase_throw rfl).flushesCredential
  · exact (sparesDatabase_throw rfl).flushesCredential
  next e _ _ he => exact (hrequest.flushesCredential).error he
  next response _ =>
    split
    next e he => exact (sparesDatabase_getItem _ response).flushesCredential.error he
    next =>
      dsimp only
      split
      · exact (sparesDatabase_throw rfl).flushesCredential
      · split
        next e he =>
          refine FlushesCredential.error (SparesDatabase.flushesCredential ?_) he
          exact (sparesDatabase_getItem _ response).bind fun _ => sparesDatabase_applySuccessfulTokenResponse ..
        next =>
          split
          · trivial
          · exact fun _ => rfl

/-- A refresh of the stored credential raises no database error but that of its flush. -/
theorem flushesCredential_refreshDelegatedAccessToken (now : Int) (organizationId : Nat) (out : UrlOutcome)
    (credentials : List GraphDelegatedCredential) :
    FlushesCredential (refreshDelegatedAccessToken P s now organizationId out credentials).2 := by
  unfold refreshDelegatedAccessToken requireAppRegistration
  by_cases hreg : missingAppRegistration s = []
  · simp only [hreg, ne_eq, not_true_eq_false, if_false]
    split
    · exact (sparesDatabase_throw rfl).flushesCredential
    next credential _ =>
      split
      · exact (sparesDatabase_throw rfl).flushesCredential
      · exact (Except.ends_map _ _ _ _).2 (flushesCredential_refreshCredential now out credential)
  · simp only [hreg, ne_eq, not_false_eq_true, if_true]
    exact (sparesDatabase_throw rfl).flushesCredential

/-- Getting a token raises no database error but that of the flush of a refresh. -/
theorem flushesCredential_delegatedToken (now : Int) (organizationId : Nat) (out : UrlOutcome)
    (credentials : List GraphDelegatedCredential) :
    FlushesCredential (delegatedToken P s now organizationId out credentials).2 := by
  unfold delegatedToken
  dsimp only
  split
  · exact (sparesDatabase_throw rfl).flushesCredential
  · exact (sparesDatabase_throw rfl).flushesCredential
  · exact flushesCredential_refreshDelegatedAccessToken now organizationId out credentials

/-- Reading an error of Graph raises no database error. -/
theorem sparesDatabase_safeGraphErrorDetails (read : BodyRead) : SparesDatabase (safeGraphErrorDetails P read) := by
  refine (sparesDatabase_read read).bind fun content => ?_
  have hjson := sparesDatabase_jsonLoads (P := P) (P.decodeUtf8Replace content)
  split
  · trivial
  · rename_i e _ he
    exact hjson.error he
  · split <;> trivial

/-- A request to Graph raises no database error. -/
theorem sparesDatabase_graphPostJson (out : UrlOutcome) : SparesDatabase (graphPostJson P out) := by
  cases out with
  | response status read =>
    refine (sparesDatabase_read read).bind fun content => (sparesDatabase_decodeUtf8 content).bind fun text => ?_
    have hjson : SparesDatabase (if text = "" then .ok (.obj []) else jsonLoads P text) := by
      split
      · trivial
      · exact sparesDatabase_jsonLoads text
    split
    · trivial
    · trivial
    · trivial
    · rename_i e _ he
      exact hjson.error he
  | httpError code read => exact (sparesDatabase_safeGraphErrorDetails read).bind fun _ => sparesDatabase_throw rfl
  | _ => trivial

/-- A message to Graph raises no database error. -/
theorem sparesDatabase_postGraphMessage (message : NormalizedMessage) (send retry : UrlOutcome) :
    SparesDatabase (postGraphMessage P message send retry) := by
  unfold postGraphMessage
  dsimp only
  split
  · trivial
  · split
    · exact (sparesDatabase_graphPostJson retry).map _
    · trivial
  · rename_i e _ he
    exact (sparesDatabase_graphPostJson send).error he

/-- The description of an error tells of the same kind of error. -/
theorem isDatabaseError_describeError (target : GraphTarget) (credential : GraphDelegatedCredential) (e : Exn) :
    (describeError P target credential e).isDatabaseError = e.isDatabaseError := by
  cases e <;> rfl

/-- `send_graph_message` raises no database error but that of the flush of a refresh. -/
theorem flushesCredential_sendGraphMessage (now : Int) (route : WebhookRoute) (message : NormalizedMessage)
    (token send retry : UrlOutcome) (credentials : List GraphDelegatedCredential) :
    FlushesCredential (sendGraphMessage P s now route message token send retry credentials).2 := by
  unfold sendGraphMessage
  split
  · exact (sparesDatabase_throw rfl).flushesCredential
  next target _ =>
    have htoken := flushesCredential_delegatedToken (P := P) (s := s) now route.organizationId token credentials
    split
    next credentials' e he => exact htoken.error (congrArg Prod.snd he)
    next credential _ =>
      split
      next e he =>
        have hposts := (sparesDatabase_postGraphMessage message send retry).error he
        exact (sparesDatabase_throw ((isDatabaseError_describeError target credential e).trans hposts)).flushesCredential
      · trivial

/-! ## Both backends -/

/-- What a delivery lets through is no error of the database but that of its credential's flush. -/
theorem flushesCredential_deliverToRoute (route : WebhookRoute) (message : NormalizedMessage) (run : ProviderRun)
    (credentials : List GraphDelegatedCredential) :
    FlushesCredential (deliverToRoute P s route message run credentials).2 := by
  unfold deliverToRoute
  dsimp only
  split
  · have hgraph := flushesCredential_sendGraphMessage (P := P) (s := s) run.sentAt route message run.token run.send
      run.retry credentials
    split
    · trivial
    · trivial
    next e _ he => exact hgraph.error he
  · split
    · trivial
    · have hbot :=
        sparesDatabase_sendBotActivity (P := P) (s := s) run.sentAt route.botServiceUrl route.botConversationId message
        run.token run.send run.manager
      split
      · trivial
      · trivial
      next e _ he => exact hbot.flushesCredential.error he

end TeamsRehook
