import TeamsRehook.Webhook.Receive
import TeamsRehook.Lib.Except

/-!
# Which outcomes of the services are handled

`_deliver_to_route` catches `BotDeliveryError` and `GraphDeliveryError`; every other exception of the two clients gets
out. The conditions here say, on the settings, the route and what the services do, when a delivery ends in a result or
in the exception that is caught; each is proved to be exactly that, one function after the other.
-/

namespace TeamsRehook

variable {P : Platform} {s : Settings} {W : WriteRules}

/-! ## What counts as handled -/

/-- A text of ASCII characters other than NUL. -/
def isPlainText (text : String) : Bool := text.toList.all fun c => 0 < c.toNat && c.toNat < 128

/-- What counts as handled of the writes of a delivery: which errors of its event, those of plain text among them, and
whether a flush of its credential that raises does. -/
structure WriteRules where
  error : String → Prop
  refused : Prop
  plain : ∀ text, isPlainText text = true → error text

/-- Whatever becomes of the writes. -/
def WriteRules.any : WriteRules := ⟨fun _ => True, True, fun _ _ => trivial⟩

/-- A text column takes a plain text that fits it. -/
theorem takesText_of_plain {text : String} (h : isPlainText text = true) : takesText P none text = true := by
  have hplain : ∀ c ∈ text.toList, 0 < c.toNat ∧ c.toNat < 128 := by
    simpa [isPlainText] using h
  unfold takesText encodable
  rw [Bool.and_eq_true, List.all_eq_true]
  refine ⟨fun c hc => by simp [(hplain c hc).2], ?_⟩
  have hnul : '\x00' ∉ text.toList := fun hmem => absurd (hplain _ hmem).1 (by decide)
  simp [hnul]

/-- A text written out is plain when its characters are. -/
theorem isPlainText_ofList {cs : List Char} (h : (cs.all fun c => 0 < c.toNat && c.toNat < 128) = true) :
    isPlainText (String.ofList cs) = true := by
  rwa [isPlainText, String.toList_ofList]

/-- One plain text after another is plain. -/
theorem isPlainText_append {first second : String} (h : isPlainText first = true) (h' : isPlainText second = true) :
    isPlainText (first ++ second) = true := by
  rw [isPlainText, String.toList_append, List.all_append, Bool.and_eq_true]
  exact ⟨h, h'⟩

/-- Plain texts joined by a plain text are plain. -/
theorem isPlainText_intercalate {sep : String} {texts : List String} (hsep : isPlainText sep = true)
    (h : ∀ text ∈ texts, isPlainText text = true) : isPlainText (sep.intercalate texts) = true := by
  induction texts with
  | nil => rfl
  | cons text rest ih =>
    cases rest with
    | nil => simpa using h text
    | cons next rest =>
      rw [String.intercalate_cons_cons]
      exact isPlainText_append (isPlainText_append (h _ List.mem_cons_self) hsep) (ih fun t ht =>
        h t (List.mem_cons_of_mem _ ht))

/-- The beginning of a plain text is one. -/
theorem isPlainText_clip {text : String} (h : isPlainText text = true) (n : Nat) :
    isPlainText (Python.clip text n) = true := by
  unfold isPlainText Python.clip at *
  rw [String.toList_ofList, List.all_eq_true]
  exact fun c hc => List.all_eq_true.1 h c (List.mem_of_mem_take hc)

/-- The event of a delivery takes an error of plain text. -/
theorem Reserved.takesError_of_plain (d : Reserved) {text : String} (h : isPlainText text = true) :
    d.takesError P text = true := by
  unfold Reserved.takesError flushesText
  rw [takesText_of_plain (isPlainText_clip h 1000), Bool.or_true]

/-- The writes that raise nothing: the event of the delivery takes the error, and the flush of the credential raises
nothing. -/
def Reserved.writeRules (P : Platform) (d : Reserved) : WriteRules where
  error error := d.takesError P error = true
  refused := False
  plain _ := d.takesError_of_plain

/-- The exceptions of the bot client that are handled: the one `_deliver_to_route` catches, with an error that counts. -/
def Exn.IsBotDelivery (W : WriteRules) (e : Exn) : Prop :=
  (∃ message, e = .botDelivery message ∧ W.error message) ∨ e = .dataError ∧ W.refused

/-- The exceptions of the Graph client that are handled: the one `_deliver_to_route` catches, with an error that counts,
and the one of the credential's flush, when that counts. -/
def Exn.IsGraphDelivery (R : GraphDeliveryError → Prop) (refused : Prop) (e : Exn) : Prop :=
  (∃ error, e = .graphDelivery error ∧ R error) ∨ e = .dataError ∧ refused

/-- `members.get(key) or default`, of a parsed object. -/
def member (key : String) (default : Json) (members : List (String × Json)) : Json :=
  orElse ((Json.lookup key members).getD .null) default

/-- `json.loads` gives a value, or raises `JSONDecodeError`. -/
def Parses (P : Platform) (text : String) : Prop := ∀ e, P.jsonLoads text = .error e → e = .jsonDecodeError

/-! ## The bot client -/

/-- The send request ends in a response whose body is UTF-8 and empty or JSON, in an `HTTPError` whose body is read and
can be written with its status, or in another `URLError`. -/
def BotPostHandled (P : Platform) (W : WriteRules) : UrlOutcome → Prop
  | .response _ (.body content) => ∃ text, P.decodeUtf8 content = some text ∧ (text = "" ∨ ∃ v, P.jsonLoads text = .ok v)
  | .httpError code (.body content) => W.error (botHttpError P code content)
  | .urlError => True
  | _ => False

/-- The token request ends in an error that the client reports, or in an object with a lifetime that is a number; an
object with a token needs a lifetime that a `datetime` can hold, and then the send request has to end well. -/
def BotTokenHandled (P : Platform) (now : Int) (post : Prop) : UrlOutcome → Prop
  | .response _ (.body content) => ∃ text, P.decodeUtf8 content = some text ∧
      (P.jsonLoads text = .error .jsonDecodeError ∨
        ∃ members seconds, P.jsonLoads text = .ok (.obj members) ∧
          intOf P (member "expires_in" (.int 3600) members) = .ok seconds ∧
          (strOf P (member "access_token" (.str "") members) = "" ∨
            now + max seconds 1 * 1000000 ≤ maxDatetime ∧ post))
  | .httpError _ _ | .urlError => True
  | _ => False

/-- The delivery is simulated, or refused for a blank address, or its token is there or asked for, and its requests end
well. -/
def BotHandled (P : Platform) (s : Settings) (W : WriteRules) (route : WebhookRoute) (run : ProviderRun) : Prop :=
  s.realBotDelivery P = false ∨
    (Python.rstripChar (Python.strip route.botServiceUrl) '/' = "" ∨ Python.strip route.botConversationId = "") ∨
    if run.manager.cached run.sentAt then BotPostHandled P W run.send
    else missingAppRegistration s ≠ [] ∨ BotTokenHandled P run.sentAt (BotPostHandled P W run.send) run.token

@[simp] theorem JsonError.exn_ne_botDelivery (e : JsonError) (message : String) : e.exn ≠ .botDelivery message := by
  cases e <;> nofun

@[simp] theorem JsonError.exn_ne_dataError (e : JsonError) : e.exn ≠ .dataError := by
  cases e <;> nofun

@[simp] theorem JsonError.exn_ne_graphDelivery (e : JsonError) (error : GraphDeliveryError) :
    e.exn ≠ .graphDelivery error := by
  cases e <;> nofun

theorem ends_decodeUtf8 {content : Bytes} {Q : String → Prop} {E : Exn → Prop} :
    (decodeUtf8 P content).Ends Q E ↔
      (∃ text, P.decodeUtf8 content = some text ∧ Q text) ∨ P.decodeUtf8 content = none ∧ E .unicodeDecodeError := by
  unfold decodeUtf8
  cases P.decodeUtf8 content <;> simp

theorem ends_jsonLoads {text : String} {Q : Json → Prop} {E : Exn → Prop} :
    (jsonLoads P text).Ends Q E ↔ (∃ v, P.jsonLoads text = .ok v ∧ Q v) ∨ ∃ e, P.jsonLoads text = .error e ∧ E e.exn := by
  unfold jsonLoads
  cases P.jsonLoads text <;> simp

/-- The send request ends in a result or in a `BotDeliveryError` when it is handled, and only then. -/
theorem ends_postBotActivity {activity : List (String × Json)} {out : UrlOutcome} :
    (postBotActivity P activity out).Ends (fun _ => True) (Exn.IsBotDelivery W) ↔ BotPostHandled P W out := by
  have hfailed : W.error "Bot Framework delivery failed" := W.plain _ (isPlainText_ofList (by decide))
  cases out with
  | response status read =>
    cases read <;>
      simp [postBotActivity, BodyRead.read, ends_decodeUtf8, ends_jsonLoads, Exn.IsBotDelivery, BotPostHandled,
        or_iff_not_imp_left]
  | httpError code read => cases read <;> simp [postBotActivity, BodyRead.read, Exn.IsBotDelivery, BotPostHandled]
  | _ => simp [postBotActivity, Exn.IsBotDelivery, BotPostHandled, hfailed]

/-- The JSON value of a response whose body is read. -/
theorem json_body (P : Platform) (status : Int) (content : Bytes) :
    (UrlOutcome.response status (.body content)).json P =
      match P.decodeUtf8 content with
      | none => .error .unicodeDecodeError
      | some text => jsonLoads P text := by
  change (decodeUtf8 P content >>= jsonLoads P) = _
  unfold decodeUtf8
  cases P.decodeUtf8 content <;> rfl

@[simp] theorem json_timeoutError (P : Platform) (status : Int) :
    (UrlOutcome.response status .timeoutError).json P = .error .timeoutError := rfl
@[simp] theorem json_connectionError (P : Platform) (status : Int) :
    (UrlOutcome.response status .connectionError).json P = .error .connectionError := rfl

/-- What `int` raises. -/
theorem intOf_errors (P : Platform) (v : Json) :
    (intOf P v).Ends (fun _ => True) (fun e => e = .valueError ∨ e = .overflowError ∨ e = .typeError) := by
  unfold intOf
  cases v with
  | float r =>
    simp only
    cases P.intOfFloat r with
    | none => by_cases hr : r = "nan" <;> simp [hr]
    | some n => simp
  | str text =>
    simp only
    cases P.intOfText text <;> simp
  | _ => simp

/-- `int(body.get("expires_in") or 3600)` and `str(body.get("access_token") or "")` of the body of a token response. -/
theorem ends_tokenBody {body : Json} {Q : String × Int → Prop} :
    (do
      let accessToken ← getItem "access_token" body
      let expiresIn ← getItem "expires_in" body
      let seconds ← intOf P (orElse expiresIn (.int 3600))
      return (strOf P (orElse accessToken (.str "")), seconds) : Except Exn (String × Int)).Ends Q (Exn.IsBotDelivery W) ↔
      ∃ members seconds, body = .obj members ∧ intOf P (member "expires_in" (.int 3600) members) = .ok seconds ∧
        Q (strOf P (member "access_token" (.str "") members), seconds) := by
  cases body with
  | obj members =>
    have hint : ∀ v (Q : Int → Prop), (intOf P v).Ends Q (Exn.IsBotDelivery W) ↔ ∃ n, intOf P v = .ok n ∧ Q n :=
      fun v Q =>
      Except.ends_iff_of_errors (intOf_errors P v) (by simp [Exn.IsBotDelivery])
    simp [getItem, hint, member]
  | _ => simp [getItem, Exn.IsBotDelivery]

/-- The error that names the missing settings is of plain text. -/
theorem isPlainText_missingCredentials (s : Settings) :
    isPlainText ("Missing Bot Framework credentials: " ++ ", ".intercalate (missingAppRegistration s)) = true := by
  refine isPlainText_append (isPlainText_ofList (by decide)) (isPlainText_intercalate (isPlainText_ofList (by decide))
    fun name hname => ?_)
  obtain ⟨setting, hsetting, rfl⟩ := List.mem_map.1 hname
  have hmem := (List.mem_filter.1 hsetting).1
  simp only [List.mem_cons, List.not_mem_nil, or_false] at hmem
  rcases hmem with rfl | rfl | rfl <;> exact isPlainText_ofList (by decide)

/-- How the token request of the bot client ends. -/
theorem ends_fetchBotframeworkToken {out : UrlOutcome} {Q : String × Int → Prop} :
    (fetchBotframeworkToken P s out).Ends Q (Exn.IsBotDelivery W) ↔
      missingAppRegistration s ≠ [] ∨
        match out with
        | .response _ (.body content) => ∃ text, P.decodeUtf8 content = some text ∧
            (P.jsonLoads text = .error .jsonDecodeError ∨
              ∃ members seconds, P.jsonLoads text = .ok (.obj members) ∧
                intOf P (member "expires_in" (.int 3600) members) = .ok seconds ∧
                Q (strOf P (member "access_token" (.str "") members), seconds))
        | .httpError _ _ | .urlError => True
        | _ => False := by
  have hfailed : W.error "Failed to fetch Bot Framework access token" := W.plain _ (isPlainText_ofList (by decide))
  unfold fetchBotframeworkToken
  by_cases hreg : missingAppRegistration s = []
  · simp only [hreg, ne_eq, not_true_eq_false, if_false, false_or]
    cases out with
    | response status read =>
      cases read with
      | body content =>
        rw [json_body]
        dsimp only
        cases P.decodeUtf8 content with
        | none => simp [Exn.IsBotDelivery]
        | some text =>
          simp only [jsonLoads, Option.some.injEq, exists_eq_left']
          cases P.jsonLoads text with
          | ok body =>
            simp only [reduceCtorEq, false_or, Except.ok.injEq]
            exact ends_tokenBody
          | error e => cases e <;> simp [JsonError.exn, Exn.IsBotDelivery, hfailed]
      | _ => simp [Exn.IsBotDelivery]
    | _ => simp [UrlOutcome.json, Exn.IsBotDelivery, hfailed]
  · simp [hreg, Exn.IsBotDelivery, W.plain _ (isPlainText_missingCredentials s)]

theorem ends_addSeconds {now n : Int} {Q : Int → Prop} {E : Exn → Prop} (hE : ¬E .overflowError) :
    (addSeconds now n).Ends Q E ↔ now + n * 1000000 ≤ maxDatetime ∧ Q (now + n * 1000000) := by
  unfold addSeconds
  split
  · rename_i h
    exact iff_of_false hE fun h' => absurd h'.1 (by omega)
  · rename_i h
    exact ⟨fun hQ => ⟨by omega, hQ⟩, And.right⟩

/-- How the bot client comes by a token. -/
theorem ends_getToken {now : Int} {out : UrlOutcome} {m : BotTokenManager} {Q : Prop} :
    (m.getToken P s now out).Ends (fun _ => Q) (Exn.IsBotDelivery W) ↔
      if m.cached now then Q
      else (fetchBotframeworkToken P s out).Ends
        (fun r => r.1 = "" ∨ now + max r.2 1 * 1000000 ≤ maxDatetime ∧ Q) (Exn.IsBotDelivery W) := by
  have hblank : W.error "Bot Framework token response did not include an access token" :=
    W.plain _ (isPlainText_ofList (by decide))
  unfold BotTokenManager.getToken
  split
  · rfl
  · rw [Except.ends_bind]
    refine iff_of_eq (congrArg₂ _ (funext fun r => propext ?_) rfl)
    obtain ⟨token, expiresIn⟩ := r
    by_cases htoken : token = ""
    · simp [htoken, Exn.IsBotDelivery, hblank]
    · simp [htoken, ends_addSeconds, Exn.IsBotDelivery]

/-- With its token the bot client sends the activity; without one it raises what the token manager raised. -/
theorem ends_sendAfterToken (message : NormalizedMessage) {run : ProviderRun}
    (x : Except Exn (String × BotTokenManager)) : (match x with
      | .error e => (run.manager, (.error e : Except Exn BotDeliveryResult))
      | .ok (_, m') => (m', postBotActivity P (buildActivity message) run.send)).2.Ends (fun _ => True)
        (Exn.IsBotDelivery W) ↔
      x.Ends (fun _ => BotPostHandled P W run.send) (Exn.IsBotDelivery W) := by
  cases x with
  | error e => rfl
  | ok r => exact ends_postBotActivity

/-- The bot client ends in a result or in a `BotDeliveryError` when it is handled, and only then. -/
theorem ends_sendBotActivity {route : WebhookRoute} (message : NormalizedMessage) {run : ProviderRun} :
    (sendBotActivity P s run.sentAt route.botServiceUrl route.botConversationId message run.token run.send
      run.manager).2.Ends
        (fun _ => True) (Exn.IsBotDelivery W) ↔ BotHandled P s W route run := by
  have haddress : W.error "Bot service URL and conversation ID are required for real delivery" :=
    W.plain _ (isPlainText_ofList (by decide))
  unfold sendBotActivity BotHandled
  simp only
  by_cases hreal : s.realBotDelivery P = true
  · by_cases hblank : Python.rstripChar (Python.strip route.botServiceUrl) '/' = "" ∨
      Python.strip route.botConversationId = ""
    · simp [hreal, hblank, Exn.IsBotDelivery, haddress]
    · simp only [hreal, Bool.not_true, Bool.false_eq_true, if_false, hblank, reduceCtorEq, false_or]
      refine (ends_sendAfterToken message _).trans ?_
      rw [ends_getToken]
      split
      · rfl
      · rw [ends_fetchBotframeworkToken]
        rfl
  · simp [hreal]

/-! ## The Graph client -/

/-- A post ends in a response whose body is UTF-8 and empty, JSON or not JSON, in an `HTTPError` with a body that is
JSON or not JSON and an error that counts, or in another `URLError`. -/
def GraphPostHandled (P : Platform) (R : GraphDeliveryError → Prop) : UrlOutcome → Prop
  | .response _ (.body content) => ∃ text, P.decodeUtf8 content = some text ∧ (text = "" ∨ Parses P text)
  | .httpError code (.body content) => Parses P (P.decodeUtf8Replace content) ∧
      ∀ details, safeGraphErrorDetails P (.body content) = .ok details → R (graphHttpError code details)
  | .urlError => True
  | _ => False

/-- The post ends well, and so does the second one when the first is answered 400 and has attachments; what is asked of
an error is asked of the last one. -/
def GraphPostsHandled (P : Platform) (R : GraphDeliveryError → Prop) (message : NormalizedMessage)
    (send retry : UrlOutcome) : Prop :=
  GraphPostHandled P (fun e => e.statusCode = some 400 ∧ adaptiveCardAttachments message ≠ [] ∨ R e) send ∧
    ∀ read, send = .httpError 400 read → adaptiveCardAttachments message ≠ [] → GraphPostHandled P R retry

/-- A token response with a token can be applied to the credential: its claims can be decoded, a new refresh token
encoded, and its lifetime is a number that a `datetime` can hold. -/
def GraphTokenApplies (P : Platform) (now : Int) (members : List (String × Json)) : Prop :=
  (∃ claims, decodeJwtClaims P (strOf P (member "access_token" (.str "") members)) = .ok claims) ∧
    encodable P (strOf P (member "refresh_token" (.str "") members)) = true ∧
    ∃ seconds, intOf P (member "expires_in" (.int 3600) members) = .ok seconds ∧
    now + max seconds 1 * 1000000 ≤ maxDatetime

/-- The credential that a token response with a token fills. -/
def filledCredential (P : Platform) (s : Settings) (now : Int) (members : List (String × Json))
    (credential : GraphDelegatedCredential) : Except Exn GraphDelegatedCredential :=
  let refreshToken := strOf P (member "refresh_token" (.str "") members)
  applySuccessfulTokenResponse P s now (.obj members) defaultDelegatedGraphScopes (if refreshToken = "" then none
    else some refreshToken)
    credential

/-- The token request ends in an error that the client reports, in an object without a token, or in one with a token
that can be applied; then the filled credential can be flushed and the posts have to end well, or its flush raises and
that counts. -/
def GraphTokenHandled (P : Platform) (s : Settings) (now : Int) (credential : GraphDelegatedCredential) (refused : Prop)
    (posts : GraphDelegatedCredential → Prop) : UrlOutcome → Prop
  | .response _ (.body content) => ∃ text, P.decodeUtf8 content = some text ∧
      (P.jsonLoads text = .error .jsonDecodeError ∨
        ∃ members, P.jsonLoads text = .ok (.obj members) ∧
          (strOf P (member "access_token" (.str "") members) = "" ∨ GraphTokenApplies P now members ∧
            ∀ row, filledCredential P s now members credential = .ok row →
              if credential.flushes P row then posts row else refused))
  | .httpError _ (.body content) => ∀ text, P.decodeUtf8 content = some text →
      P.jsonLoads text = .error .jsonDecodeError ∨ ∃ members, P.jsonLoads text = .ok (.obj members)
  | .urlError => True
  | _ => False

/-- What counts of an error of the posts: the text that is written of it, with the guidance it is given, counts. -/
def WriteRules.graphError (W : WriteRules) (P : Platform) (target : GraphTarget) (credential : GraphDelegatedCredential)
    (e : GraphDeliveryError) : Prop :=
  W.error (applyOperatorGuidance P target credential e).message

/-- The target is refused, or the app registration is complete and the credential is missing, or it can be decrypted and
the requests end well. -/
def GraphHandled (P : Platform) (s : Settings) (W : WriteRules) (route : WebhookRoute) (message : NormalizedMessage)
    (run : ProviderRun) (credentials : List GraphDelegatedCredential) : Prop :=
  ∀ target, targetForRoute route = .ok target →
    missingAppRegistration s = [] ∧
      match credentials.find? (·.organizationId == route.organizationId) with
      | none => True
      | some credential => credential.encryptedRefreshToken = "" ∨
          (Python.strip s.settingsEncKey ≠ "" ∧
            P.fernetDecrypt (Python.strip s.settingsEncKey) credential.encryptedRefreshToken ≠ none) ∧
          GraphTokenHandled P s run.sentAt credential W.refused
            (fun row => GraphPostsHandled P (W.graphError P target row) message run.send run.retry) run.token

/-- An exception of the delegated token that is handled: one that leaves `_delegated_token` as a `GraphDeliveryError`,
or the one of the credential's flush, when that counts. -/
def Exn.IsGraphReported (R : GraphDeliveryError → Prop) (refused : Prop) (e : Exn) : Prop :=
  (∃ message, e = .graphDelegatedAuth message) ∨ (∃ message, e = .expiredRefreshToken message) ∨
    e.IsGraphDelivery R refused

section Posts

variable {R : GraphDeliveryError → Prop} {refused : Prop}

/-- The details of an error that are read: those of a body that parses. -/
theorem ends_safeGraphErrorDetails {content : Bytes} {Q : String × String → Prop} :
    (safeGraphErrorDetails P (.body content)).Ends Q (Exn.IsGraphDelivery R refused) ↔
      Parses P (P.decodeUtf8Replace content) ∧ ∀ details, safeGraphErrorDetails P (.body content) = .ok details →
      Q details := by
  rw [Except.ends_iff_errors_and]
  refine and_congr_left fun _ => ?_
  simp only [safeGraphErrorDetails, BodyRead.read, Except.ends_bind, Except.ends_ok, jsonLoads, Parses]
  cases P.jsonLoads (P.decodeUtf8Replace content) with
  | ok body =>
    dsimp only
    split <;> simp
  | error e => cases e <;> simp [JsonError.exn, Exn.IsGraphDelivery]

/-- A post ends in a response or in a `GraphDeliveryError` that counts when it is handled, and only then. -/
theorem ends_graphPostJson
    (hfailed : R { message := "Microsoft Graph delivery failed.", errorType := "graph_request_error" })
    (out : UrlOutcome) : (graphPostJson P out).Ends (fun _ => True) (Exn.IsGraphDelivery R refused) ↔
    GraphPostHandled P R out := by
  cases out with
  | response status read =>
    cases read with
    | body content =>
      simp only [graphPostJson, BodyRead.read, Except.ends_bind, Except.ends_ok, ends_decodeUtf8, GraphPostHandled]
      cases P.decodeUtf8 content with
      | none => simp [Exn.IsGraphDelivery]
      | some text =>
        simp only [Option.some.injEq, exists_eq_left', reduceCtorEq, false_and, or_false]
        by_cases htext : text = ""
        · simp [htext]
        · simp only [htext, if_false, false_or, jsonLoads, Parses]
          cases P.jsonLoads text with
          | ok body => cases body <;> simp
          | error e => cases e <;> simp [JsonError.exn, Exn.IsGraphDelivery, hfailed]
    | _ => simp [graphPostJson, BodyRead.read, Exn.IsGraphDelivery, GraphPostHandled]
  | httpError code read =>
    cases read with
    | body content =>
      simp only [graphPostJson, Except.ends_bind, ends_safeGraphErrorDetails, GraphPostHandled]
      simp [Exn.IsGraphDelivery]
    | _ => simp [graphPostJson, safeGraphErrorDetails, BodyRead.read, Exn.IsGraphDelivery, GraphPostHandled]
  | _ => simp [graphPostJson, Exn.IsGraphDelivery, GraphPostHandled, hfailed]

/-- A post that ends in a `GraphDeliveryError` has the status of the `HTTPError`, if it was one. -/
theorem statusCode_graphPostJson (P : Platform) (out : UrlOutcome) :
    (graphPostJson P out).Ends (fun _ => ∀ code read, out ≠ .httpError code read)
      (fun x => ∀ e, x = .graphDelivery e → ∀ code, e.statusCode = some code ↔ ∃ read, out = .httpError code read) := by
  cases out with
  | response status read =>
    cases read with
    | body content =>
      simp only [graphPostJson, BodyRead.read, Except.ends_bind, Except.ends_ok, ends_decodeUtf8]
      cases P.decodeUtf8 content with
      | none => simp
      | some text =>
        simp only [Option.some.injEq, exists_eq_left', reduceCtorEq, false_and, or_false]
        by_cases htext : text = ""
        · simp [htext]
        · simp only [htext, if_false, jsonLoads]
          cases P.jsonLoads text with
          | ok body => cases body <;> simp
          | error e => cases e <;> simp +contextual [JsonError.exn]
    | _ => simp [graphPostJson, BodyRead.read]
  | httpError code read =>
    cases read with
    | body content =>
      have hcode : ∀ (details : String × String) (e : GraphDeliveryError),
          Exn.graphDelivery {
            message := "Microsoft Graph delivery failed with HTTP " ++ toString code ++ ": " ++ details.2
            errorType := "graph_http_error"
            statusCode := some code
            graphErrorCode := details.1
            graphErrorMessage := details.2 } = .graphDelivery e →
          ∀ code', e.statusCode = some code' ↔ ∃ read, UrlOutcome.httpError code (.body content) =
              .httpError code' read := by
        rintro details _ ⟨⟩ code'
        simp
      simp only [graphPostJson, safeGraphErrorDetails, BodyRead.read, Except.ends_bind, Except.ends_ok, jsonLoads]
      cases P.jsonLoads (P.decodeUtf8Replace content) with
      | ok body =>
        dsimp only
        split
        · exact hcode _
        · exact hcode _
      | error e =>
        cases e with
        | jsonDecodeError => exact hcode _
        | _ => simp [JsonError.exn]
    | _ => simp [graphPostJson, safeGraphErrorDetails, BodyRead.read]
  | _ => simp +contextual [graphPostJson]

/-- The payload has attachments when the message has Adaptive Cards. -/
theorem attachments_truthy (message : NormalizedMessage) :
    ((Json.lookup "attachments" (buildChatMessagePayload message true)).getD .null).truthy = true ↔
      adaptiveCardAttachments message ≠ [] := by
  unfold buildChatMessagePayload
  cases adaptiveCardAttachments message with
  | nil => simp [Json.lookup, Json.truthy]
  | cons => simp [Json.lookup, Json.truthy]

/-- A post writes nothing. -/
theorem graphPostJson_ne_dataError (out : UrlOutcome) : graphPostJson P out ≠ .error .dataError := by
  intro h
  have hrefused := @ends_graphPostJson P (fun _ => True) True trivial out
  have hnot := @ends_graphPostJson P (fun _ => True) False trivial out
  rw [h, Except.ends_error] at hrefused hnot
  have hhandled := hrefused.1 (.inr ⟨rfl, trivial⟩)
  simpa [Exn.IsGraphDelivery] using hnot.2 hhandled

/-- The posts of a message end in a response or in a `GraphDeliveryError` that counts when they are handled, and only
then. -/
theorem ends_postGraphMessage
    (hfailed : R { message := "Microsoft Graph delivery failed.", errorType := "graph_request_error" })
    {message : NormalizedMessage} {send retry : UrlOutcome} :
    (postGraphMessage P message send retry).Ends (fun _ => True) (Exn.IsGraphDelivery R refused) ↔
      GraphPostsHandled P R message send retry := by
  unfold postGraphMessage GraphPostsHandled
  simp only
  rw [← @ends_graphPostJson P _ refused (.inr hfailed) send, ← @ends_graphPostJson P _ refused hfailed retry]
  have hstatus := statusCode_graphPostJson P send
  cases h : graphPostJson P send with
  | ok r =>
    rw [h] at hstatus
    simpa using fun read hread => absurd hread (hstatus 400 read)
  | error e =>
    rw [h] at hstatus
    by_cases hgraph : ∃ error, e = .graphDelivery error
    · obtain ⟨error, rfl⟩ := hgraph
      have hretry : shouldRetryWithoutAttachments error (buildChatMessagePayload message true) = true ↔
          error.statusCode = some 400 ∧ adaptiveCardAttachments message ≠ [] := by
        rw [shouldRetryWithoutAttachments, Bool.and_eq_true, beq_iff_eq, attachments_truthy]
      have hread := hstatus error rfl 400
      have hcounts : ∀ Q : GraphDeliveryError → Prop, Exn.IsGraphDelivery Q refused (.graphDelivery error) ↔ Q error :=
        fun Q => by
        simp [Exn.IsGraphDelivery]
      simp only [Except.ends_ite, Except.ends_map, Except.ends_error, hcounts]
      by_cases hr : shouldRetryWithoutAttachments error (buildChatMessagePayload message true) = true
      · obtain ⟨hcode, hcards⟩ := hretry.1 hr
        obtain ⟨read, rfl⟩ := hread.1 hcode
        simp [hr, hcode, hcards]
      · have hnot : ¬(error.statusCode = some 400 ∧ adaptiveCardAttachments message ≠ []) := fun h => hr (hretry.2 h)
        rw [if_neg hr, or_iff_right hnot]
        exact ⟨fun h => ⟨h, fun read hsend hcards => absurd ⟨hread.2 ⟨read, hsend⟩, hcards⟩ hnot⟩, And.left⟩
    · have hother : ∀ Q : GraphDeliveryError → Prop, ¬Exn.IsGraphDelivery Q refused e := by
        rintro Q (⟨error, he, -⟩ | ⟨rfl, -⟩)
        · exact hgraph ⟨error, he⟩
        · exact graphPostJson_ne_dataError send h
      rw [Except.ends_error]
      refine iff_of_false ?_ fun hand => hother _ hand.1
      cases e with
      | graphDelivery error => exact absurd ⟨error, rfl⟩ hgraph
      | _ => exact hother _

/-- How the token request of a delegated credential ends. -/
theorem ends_requestToken {out : UrlOutcome} {Q : Json → Prop} :
    (requestToken P out).Ends Q (Exn.IsGraphReported R refused) ↔
      match out with
      | .response _ (.body content) => ∃ text, P.decodeUtf8 content = some text ∧
          (P.jsonLoads text = .error .jsonDecodeError ∨ ∃ body, P.jsonLoads text = .ok body ∧ Q body)
      | .httpError _ (.body content) => ∀ text, P.decodeUtf8 content = some text →
          P.jsonLoads text = .error .jsonDecodeError ∨ ∃ members, P.jsonLoads text = .ok (.obj members)
      | .urlError => True
      | _ => False := by
  cases out with
  | response status read =>
    cases read with
    | body content =>
      simp only [requestToken, json_body]
      cases P.decodeUtf8 content with
      | none => simp [Exn.IsGraphReported, Exn.IsGraphDelivery]
      | some text =>
        simp only [jsonLoads, Option.some.injEq, exists_eq_left']
        cases P.jsonLoads text with
        | ok body => simp
        | error e => cases e <;> simp [JsonError.exn, Exn.IsGraphReported, Exn.IsGraphDelivery]
    | _ => simp [requestToken, Exn.IsGraphReported, Exn.IsGraphDelivery]
  | httpError code read =>
    cases read with
    | body content =>
      have hend : ∀ code : String, ((if code = "invalid_grant" then
            throw (.expiredRefreshToken "Delegated Graph refresh token is expired or revoked")
          else throw (.graphDelegatedAuth "Delegated Graph token request failed")) : Except Exn Json).Ends Q
            (Exn.IsGraphReported R refused) := by
        intro code
        split
        · exact .inr (.inl ⟨_, rfl⟩)
        · exact .inl ⟨_, rfl⟩
      simp only [requestToken, tokenErrorCode, BodyRead.read, Except.ends_bind, Except.ends_ok, hend, decodeUtf8]
      cases P.decodeUtf8 content with
      | none => exact iff_of_true trivial fun _ h => by cases h
      | some text =>
        simp only [show (Except.ok text >>= jsonLoads P) = jsonLoads P text from rfl, jsonLoads,
          Option.some.injEq, forall_eq']
        cases P.jsonLoads text with
        | ok body => cases body <;> simp [getItem, Exn.IsGraphReported, Exn.IsGraphDelivery]
        | error e => cases e <;> simp [JsonError.exn, Exn.IsGraphReported, Exn.IsGraphDelivery]
    | _ => simp [requestToken, tokenErrorCode, BodyRead.read, Exn.IsGraphReported, Exn.IsGraphDelivery]
  | _ => simp [requestToken, UrlOutcome.json, Exn.IsGraphReported, Exn.IsGraphDelivery]

/-- Claims that cannot be decoded count as none, unless their nesting is too deep. -/
theorem decodeJwtClaims_errors (P : Platform) (token : String) :
    (decodeJwtClaims P token).Ends (fun _ => True) (· = .recursionError) := by
  unfold decodeJwtClaims
  split
  · rename_i payload _ _
    dsimp only
    split
    · trivial
    · split <;> simp
  · trivial

/-- A token response with a token is applied when it can be, and the errors of that are not reported. -/
theorem ends_filledCredential {now : Int} {members : List (String × Json)} {credential : GraphDelegatedCredential}
    {Q : GraphDelegatedCredential → Prop} (hkey : Python.strip s.settingsEncKey ≠ "") :
    (filledCredential P s now members credential).Ends Q (Exn.IsGraphReported R refused) ↔
      GraphTokenApplies P now members ∧ ∀ row, filledCredential P s now members credential = .ok row → Q row := by
  rw [Except.ends_iff_errors_and]
  refine and_congr_left fun _ => ?_
  have hclaims : ∀ token (Q : List (String × Json) → Prop),
    (decodeJwtClaims P token).Ends Q (Exn.IsGraphReported R refused) ↔
      ∃ claims, decodeJwtClaims P token = .ok claims ∧ Q claims := fun token Q =>
    Except.ends_iff_of_errors (decodeJwtClaims_errors P token) (by simp [Exn.IsGraphReported, Exn.IsGraphDelivery])
  have hint : ∀ v (Q : Int → Prop), (intOf P v).Ends Q (Exn.IsGraphReported R refused) ↔ ∃ n, intOf P v = .ok n ∧ Q n :=
    fun v Q =>
    Except.ends_iff_of_errors (intOf_errors P v) (by simp [Exn.IsGraphReported, Exn.IsGraphDelivery])
  have hoverflow : ¬Exn.IsGraphReported R refused .overflowError := by simp [Exn.IsGraphReported, Exn.IsGraphDelivery]
  have hencrypt : ∀ (token : String) (Q : String → Prop),
    (encryptSecret P s now token).Ends Q (Exn.IsGraphReported R refused) ↔
      encodable P token = true ∧ Q (P.fernetEncrypt now (Python.strip s.settingsEncKey) token) := by
    intro token Q
    cases hencodable : encodable P token <;> simp [encryptSecret, fernet, hkey, hencodable, Exn.IsGraphReported,
      Exn.IsGraphDelivery]
  unfold filledCredential
  dsimp only
  by_cases hblank : strOf P (member "refresh_token" (.str "") members) = ""
  · have hencodable : encodable P (strOf P (member "refresh_token" (.str "") members)) = true := by
      rw [hblank]
      rfl
    rw [if_pos hblank, GraphTokenApplies, and_iff_right hencodable]
    simp only [applySuccessfulTokenResponse, getItem, Except.ends_bind, Except.ends_ok, Except.ends_pure, hclaims, hint,
      ends_addSeconds hoverflow, member, and_true, exists_and_right]
  · rw [if_neg hblank, GraphTokenApplies]
    simp only [applySuccessfulTokenResponse, getItem, Except.ends_bind, Except.ends_ok, Except.ends_pure, hclaims,
      hint, hencrypt, ends_addSeconds hoverflow, member, and_true, exists_and_right]
    refine and_congr_right fun _ => ?_
    constructor
    · rintro ⟨seconds, hseconds, hencodable, hle⟩
      exact ⟨hencodable, seconds, hseconds, hle⟩
    · rintro ⟨hencodable, seconds, hseconds, hle⟩
      exact ⟨seconds, hseconds, hencodable, hle⟩

/-- The secret is decrypted, and the errors of that are not reported. -/
theorem ends_decryptSecret {value : String} {Q : Prop} :
    (decryptSecret P s value).Ends (fun _ => Q) (Exn.IsGraphReported R refused) ↔
      (Python.strip s.settingsEncKey ≠ "" ∧ P.fernetDecrypt (Python.strip s.settingsEncKey) value ≠ none) ∧ Q := by
  unfold decryptSecret fernet
  by_cases hkey : Python.strip s.settingsEncKey = ""
  · simp [hkey, Exn.IsGraphReported, Exn.IsGraphDelivery]
  · simp only [hkey, if_false, Except.ends_bind, Except.ends_ok, ne_eq, not_false_eq_true, true_and]
    cases P.fernetDecrypt (Python.strip s.settingsEncKey) value <;> simp [Exn.IsGraphReported, Exn.IsGraphDelivery]

/-- The refresh of a credential, with the row it leaves beside its token. -/
def refreshedCredential (P : Platform) (s : Settings) (now : Int) (out : UrlOutcome)
    (credential : GraphDelegatedCredential) : Except Exn (String × GraphDelegatedCredential) :=
  let r := refreshCredential P s now out credential
  r.2.map fun token => (token, r.1)

/-- The refresh raises what filling the credential raises, and what its flush does. -/
theorem ends_credentialFilled (credential : GraphDelegatedCredential) {Q : GraphDelegatedCredential → Prop}
    (x : Except Exn GraphDelegatedCredential) (token : String) :
    (let r : GraphDelegatedCredential × Except Exn String := match x with
        | .error e => (credential, .error e)
        | .ok credential' =>
          if credential.flushes P credential' then (credential', .ok token) else (credential, .error .dataError)
      r.2.map fun token => (token, r.1)).Ends (fun t => Q t.2) (Exn.IsGraphReported R refused) ↔
      x.Ends (fun row => if credential.flushes P row then Q row else refused) (Exn.IsGraphReported R refused) := by
  cases x with
  | error e => rfl
  | ok row =>
    cases hflushes : credential.flushes P row <;> simp [hflushes, Except.map, Exn.IsGraphReported, Exn.IsGraphDelivery]

/-- How the refresh of a credential ends. -/
theorem ends_refreshCredential {now : Int} {out : UrlOutcome} {credential : GraphDelegatedCredential}
    {Q : GraphDelegatedCredential → Prop} :
    (refreshedCredential P s now out credential).Ends (fun t => Q t.2) (Exn.IsGraphReported R refused) ↔
      (Python.strip s.settingsEncKey ≠ "" ∧
          P.fernetDecrypt (Python.strip s.settingsEncKey) credential.encryptedRefreshToken ≠ none) ∧
        GraphTokenHandled P s now credential refused Q out := by
  have hrequest : (decryptSecret P s credential.encryptedRefreshToken >>= fun _ => requestToken P out).Ends
        (fun response => ∃ members, response = .obj members ∧
          (strOf P (member "access_token" (.str "") members) = "" ∨ GraphTokenApplies P now members ∧
            ∀ row, filledCredential P s now members credential = .ok row → if credential.flushes P row then Q row
              else refused))
        (Exn.IsGraphReported R refused) ↔
      (Python.strip s.settingsEncKey ≠ "" ∧
          P.fernetDecrypt (Python.strip s.settingsEncKey) credential.encryptedRefreshToken ≠ none) ∧
        GraphTokenHandled P s now credential refused Q out := by
    rw [Except.ends_bind, ends_decryptSecret]
    refine and_congr_right fun hsecret => ?_
    rw [ends_requestToken]
    cases out with
    | response status read =>
      cases read with
      | body content =>
        refine exists_congr fun text => and_congr_right fun _ => or_congr_right ⟨?_, ?_⟩
        · rintro ⟨_, hbody, members, rfl, hmembers⟩
          exact ⟨members, hbody, hmembers⟩
        · rintro ⟨members, hbody, hmembers⟩
          exact ⟨_, hbody, members, rfl, hmembers⟩
      | _ => rfl
    | httpError code read => cases read <;> rfl
    | _ => rfl
  unfold refreshedCredential
  by_cases hkey : Python.strip s.settingsEncKey = ""
  · have herror : (decryptSecret P s credential.encryptedRefreshToken >>= fun _ => requestToken P out) =
        .error (.http 500 settingsEncKeyMissingDetail) := by
      simp only [decryptSecret, fernet, hkey, if_true]
      rfl
    rw [refreshCredential, herror]
    simp [hkey, Except.map, Exn.IsGraphReported, Exn.IsGraphDelivery]
  rw [← hrequest]
  unfold refreshCredential
  generalize (decryptSecret P s credential.encryptedRefreshToken >>= fun _ => requestToken P out) = x
  cases x with
  | error e => cases e <;> simp [Except.map, Exn.IsGraphReported, Exn.IsGraphDelivery]
  | ok response =>
    cases response with
    | obj members =>
      simp only [getItem, Except.ends_ok, Json.obj.injEq, exists_eq_left']
      by_cases htoken : strOf P (member "access_token" (.str "") members) = ""
      · simp only [member] at htoken
        simp [htoken, member, Except.map, Exn.IsGraphReported, Exn.IsGraphDelivery]
      · rw [or_iff_right htoken, ← ends_filledCredential hkey]
        simp only [member] at htoken
        rw [if_neg htoken]
        exact ends_credentialFilled credential _ _
    | _ => simp [getItem, Except.map, Exn.IsGraphReported, Exn.IsGraphDelivery]

/-- How the request for a delegated token ends. -/
theorem ends_refreshDelegatedAccessToken {now : Int} {organizationId : Nat} {out : UrlOutcome}
    {credentials : List GraphDelegatedCredential} {Q : GraphDelegatedCredential → Prop} :
    (refreshDelegatedAccessToken P s now organizationId out credentials).2.Ends (fun t => Q t.2)
      (Exn.IsGraphReported R refused) ↔
      missingAppRegistration s = [] ∧
        match credentials.find? (·.organizationId == organizationId) with
        | none => True
        | some credential => credential.encryptedRefreshToken = "" ∨
            (Python.strip s.settingsEncKey ≠ "" ∧
              P.fernetDecrypt (Python.strip s.settingsEncKey) credential.encryptedRefreshToken ≠ none) ∧
            GraphTokenHandled P s now credential refused Q out := by
  unfold refreshDelegatedAccessToken requireAppRegistration
  by_cases hreg : missingAppRegistration s = []
  · simp only [hreg, ne_eq, not_true_eq_false, if_false, true_and]
    cases credentials.find? (·.organizationId == organizationId) with
    | none => simp [Exn.IsGraphReported]
    | some credential =>
      by_cases hempty : credential.encryptedRefreshToken = ""
      · simp [hempty, Exn.IsGraphReported]
      · simp only [hempty, if_false, false_or]
        exact ends_refreshCredential
  · simp [hreg, Exn.IsGraphReported, Exn.IsGraphDelivery]

/-- The Graph client reports the two errors of the refresh that it catches as a delivery error. -/
theorem ends_tokenErrorReported
    (hready : R {
      message := "Delegated Graph delivery is not ready. Reconnect the service user in Settings."
      errorType := "auth_error" })
    {Q : String × GraphDelegatedCredential → Prop} (r : Except Exn (String × GraphDelegatedCredential)) :
    (match r with
      | .error (.graphDelegatedAuth _) | .error (.expiredRefreshToken _) =>
        .error (.graphDelivery {
          message := "Delegated Graph delivery is not ready. Reconnect the service user in Settings."
          errorType := "auth_error" })
      | r => r : Except Exn (String × GraphDelegatedCredential)).Ends Q (Exn.IsGraphDelivery R refused) ↔
      r.Ends Q (Exn.IsGraphReported R refused) := by
  obtain e | r := r
  · cases e <;> simp [Exn.IsGraphDelivery, Exn.IsGraphReported, hready]
  · rfl

end Posts

/-- With its token the Graph client posts the message, twice at most; without one it raises what the refresh raised. -/
theorem ends_postAfterToken (target : GraphTarget) (message : NormalizedMessage) {run : ProviderRun}
    (r : List GraphDelegatedCredential × Except Exn (String × GraphDelegatedCredential)) :
    (match r with
      | (credentials', .error e) => (credentials', (.error e : Except Exn GraphDeliveryResult))
      | (credentials', .ok (_, credential)) =>
        match postGraphMessage P message run.send run.retry with
        | .error e => (credentials', .error (describeError P target credential e))
        | .ok (payload, status, body) =>
          (credentials', .ok {
            mode := "real"
            statusCode := status
            messageId := (Json.lookup "id" body).getD (.str "")
            target := target
            request := safeRequestSummary payload })).2.Ends (fun _ => True)
              (Exn.IsGraphDelivery (W.error ·.message) W.refused) ↔
      r.2.Ends (fun t => GraphPostsHandled P (W.graphError P target t.2) message run.send run.retry)
        (Exn.IsGraphDelivery (W.error ·.message) W.refused) := by
  obtain ⟨credentials', e | ⟨token, credential⟩⟩ := r
  · rfl
  · have hfailed : W.graphError P target credential
        { message := "Microsoft Graph delivery failed.", errorType := "graph_request_error" } := by
      unfold WriteRules.graphError applyOperatorGuidance
      rw [if_neg (by simp)]
      exact W.plain _ (isPlainText_ofList (by decide))
    rw [Except.ends_ok, ← @ends_postGraphMessage P _ W.refused hfailed]
    dsimp only
    cases postGraphMessage P message run.send run.retry with
    | error e => cases e <;> simp [describeError, Exn.IsGraphDelivery, WriteRules.graphError]
    | ok r => rfl

/-- The errors of a target that is refused are of plain text. -/
theorem plain_targetForRoute {route : WebhookRoute} {e : GraphDeliveryError} (h : targetForRoute route = .error e) :
    isPlainText e.message = true := by
  unfold targetForRoute at h
  dsimp only at h
  repeat' split at h
  all_goals cases h
  all_goals exact isPlainText_ofList (by decide)

/-- The Graph client ends in a result or in a handled exception when it is handled, and only then. -/
theorem ends_sendGraphMessage {route : WebhookRoute} {message : NormalizedMessage} {run : ProviderRun}
    {credentials : List GraphDelegatedCredential} :
    (sendGraphMessage P s run.sentAt route message run.token run.send run.retry credentials).2.Ends (fun _ => True)
        (Exn.IsGraphDelivery (W.error ·.message) W.refused) ↔ GraphHandled P s W route message run credentials := by
  unfold sendGraphMessage GraphHandled
  cases htarget : targetForRoute route with
  | error e => simp [Exn.IsGraphDelivery, W.plain _ (plain_targetForRoute htarget)]
  | ok target =>
    simp only [Except.ok.injEq, forall_eq']
    refine (ends_postAfterToken target message _).trans ?_
    refine (ends_tokenErrorReported (W.plain _ (isPlainText_ofList (by decide))) _).trans ?_
    exact ends_refreshDelegatedAccessToken (Q := fun row =>
      GraphPostsHandled P (W.graphError P target row) message run.send run.retry)

/-! ## Both backends -/

/-- The delivery ends in a result or in an exception that is handled: its client's condition holds, or its backend is
unknown and the error that says so counts. -/
def DeliveryHandled (P : Platform) (s : Settings) (W : WriteRules) (route : WebhookRoute) (message : NormalizedMessage)
    (run : ProviderRun) (credentials : List GraphDelegatedCredential) : Prop :=
  if routeDeliveryBackend route = "graph" then GraphHandled P s W route message run credentials
  else if routeDeliveryBackend route = "bot_framework" then BotHandled P s W route run
  else W.error ("Unsupported delivery backend: " ++ routeDeliveryBackend route)

/-- What becomes of a delivery is recorded with an error that counts, or its credential could not be flushed and that
counts, when it is handled, and only then. -/
theorem ends_deliverToRoute {route : WebhookRoute} {message : NormalizedMessage} {run : ProviderRun}
    {credentials : List GraphDelegatedCredential} :
    (deliverToRoute P s route message run credentials).2.Ends (fun sent => W.error sent.error) (fun e =>
      e = .dataError ∧ W.refused) ↔
      DeliveryHandled P s W route message run credentials := by
  have hdelivered : W.error "" := W.plain _ rfl
  unfold deliverToRoute DeliveryHandled
  simp only
  by_cases hgraph : routeDeliveryBackend route = "graph"
  · rw [if_pos hgraph, if_pos hgraph, ← ends_sendGraphMessage]
    dsimp only
    cases (sendGraphMessage P s run.sentAt route message run.token run.send run.retry credentials).2 with
    | ok result => simp [hdelivered]
    | error e => cases e <;> simp [Exn.IsGraphDelivery]
  · rw [if_neg hgraph, if_neg hgraph]
    by_cases hbot : routeDeliveryBackend route = "bot_framework"
    · rw [if_neg (not_not.2 hbot), if_pos hbot, ← ends_sendBotActivity message]
      dsimp only
      cases (sendBotActivity P s run.sentAt route.botServiceUrl route.botConversationId message run.token run.send
        run.manager).2 with
      | ok result => simp [hdelivered]
      | error e => cases e <;> simp [Exn.IsBotDelivery]
    · simp [hbot]

/-- What becomes of a delivery is recorded, whatever its text, or its credential could not be flushed. -/
theorem deliverToRoute_any_iff {route : WebhookRoute} {message : NormalizedMessage} {run : ProviderRun}
    {credentials : List GraphDelegatedCredential} :
    ((∃ sent, (deliverToRoute P s route message run credentials).2 = .ok sent) ∨
        (deliverToRoute P s route message run credentials).2 = .error .dataError) ↔
      DeliveryHandled P s .any route message run credentials := by
  rw [← ends_deliverToRoute]
  cases (deliverToRoute P s route message run credentials).2 with
  | ok sent => simp [WriteRules.any]
  | error e => simp [WriteRules.any]

/-- What becomes of a delivery is recorded in a text that its event takes. -/
theorem deliverToRoute_written_iff {d : Reserved} {run : ProviderRun} {credentials : List GraphDelegatedCredential} :
    (∃ sent, (deliverToRoute P s d.route d.message run credentials).2 = .ok sent ∧ d.takesError P sent.error = true) ↔
      DeliveryHandled P s (d.writeRules P) d.route d.message run credentials := by
  rw [← ends_deliverToRoute]
  cases (deliverToRoute P s d.route d.message run credentials).2 with
  | ok sent => simp [Reserved.writeRules]
  | error e => simp [Reserved.writeRules]

end TeamsRehook
