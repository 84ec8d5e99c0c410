import TeamsRehook.Models

/-!
# Bot Framework delivery

`services/teams_bot.py`: the access token of the bot and the activity sent to the conversation. What the token endpoint
and the conversation's service do is given by a `UrlOutcome` each.
-/

namespace TeamsRehook

/-- `BotDeliveryResult`. -/
structure BotDeliveryResult where
  mode : String
  activityId : Option String
  statusCode : Int
  activity : List (String × Json)
  deriving Repr

/-- `BotDeliveryResult.to_dict`. -/
def BotDeliveryResult.toDict (r : BotDeliveryResult) : List (String × Json) :=
  [("mode", .str r.mode), ("activity_id", (r.activityId.map Json.str).getD .null), ("status_code", .int r.statusCode),
    ("activity", .obj r.activity)]

/-- The process's `BotTokenManager`: the cached token. -/
structure BotTokenManager where
  accessToken : String := ""
  expiresAt : Option Int := none
  deriving DecidableEq, Repr

/-- The names of the settings of the app registration that are empty. -/
def missingAppRegistration (s : Settings) : List String :=
  ([("MS_APP_TENANT_ID", s.msAppTenantId), ("MS_APP_CLIENT_ID", s.msAppClientId),
    ("MS_APP_CLIENT_SECRET", s.msAppClientSecret)].filter fun p => p.2 == "").map (·.1)

/-- `fetch_botframework_token`. -/
def fetchBotframeworkToken (P : Platform) (s : Settings) (out : UrlOutcome) : Except Exn (String × Int) :=
  if missingAppRegistration s ≠ [] then
    .error (.botDelivery ("Missing Bot Framework credentials: " ++ ", ".intercalate (missingAppRegistration s)))
  else
    match out.json P with
    | .error .urlError | .error .jsonDecodeError => .error (.botDelivery "Failed to fetch Bot Framework access token")
    | .error e => .error e
    | .ok body => do
      let accessToken ← getItem "access_token" body
      let expiresIn ← getItem "expires_in" body
      let seconds ← intOf P (orElse expiresIn (.int 3600))
      return (strOf P (orElse accessToken (.str "")), seconds)

/-- Whether `get_token` gives the cached token: it is there for more than the refresh window of 60 seconds. -/
def BotTokenManager.cached (now : Int) (m : BotTokenManager) : Bool :=
  m.accessToken != "" && m.expiresAt.any fun e => decide (60000000 < e - now)

/-- `BotTokenManager.get_token`: the token, and the manager that has cached it. -/
def BotTokenManager.getToken (P : Platform) (s : Settings) (now : Int) (out : UrlOutcome) (m : BotTokenManager) :
    Except Exn (String × BotTokenManager) :=
  if m.cached now then .ok (m.accessToken, m)
  else do
    let (token, expiresIn) ← fetchBotframeworkToken P s out
    if token = "" then throw (.botDelivery "Bot Framework token response did not include an access token")
    let expiresAt ← addSeconds now (max expiresIn 1)
    return (token, ⟨token, some expiresAt⟩)

/-- `build_activity`. -/
def buildActivity (message : NormalizedMessage) : List (String × Json) :=
  match message.activity with
  | some (m :: ms) => if (Json.lookup "type" (m :: ms)).isSome then m :: ms else m :: ms ++ [("type", .str "message")]
  | _ =>
    let lines := ["**" ++ message.title ++ "**", message.text]
    [("type", .str "message"), ("text", .str ("\n\n".intercalate (lines.filter (· != ""))))]

/-- The text of the error for an answer with the status `code` and such a body. -/
def botHttpError (P : Platform) (code : Int) (content : Bytes) : String :=
  let safeBody := Python.clip (P.decodeUtf8Replace content) 500
  "Bot Framework delivery failed with HTTP " ++ toString code ++ ": " ++ safeBody

/-- The request of `send_bot_activity` and what becomes of its outcome. -/
def postBotActivity (P : Platform) (activity : List (String × Json)) : UrlOutcome → Except Exn BotDeliveryResult
  | .response status read => do
    let content ← read.read
    let text ← decodeUtf8 P content
    let parsed ← if text = "" then pure (.obj []) else jsonLoads P text
    let activityId := (Json.get? "id" parsed).getD .null
    return {
      mode := "real"
      activityId := if activityId.truthy then some (strOf P activityId) else none
      statusCode := status
      activity := activity }
  | .httpError code read => do
    let content ← read.read
    throw (.botDelivery (botHttpError P code content))
  | .urlError => .error (.botDelivery "Bot Framework delivery failed")
  | .timeoutError => .error .timeoutError
  | .connectionError => .error .connectionError

/-- `send_bot_activity`: the manager it leaves, and the result. -/
def sendBotActivity (P : Platform) (s : Settings) (now : Int) (serviceUrl conversationId : String)
    (message : NormalizedMessage) (tokenOut sendOut : UrlOutcome) (m : BotTokenManager) :
    BotTokenManager × Except Exn BotDeliveryResult :=
  let activity := buildActivity message
  if !s.realBotDelivery P then
    (m, .ok { mode := "mock", activityId := some "mock-activity", statusCode := 202, activity := activity })
  else if Python.rstripChar (Python.strip serviceUrl) '/' = "" ∨ Python.strip conversationId = "" then
    (m, .error (.botDelivery "Bot service URL and conversation ID are required for real delivery"))
  else
    match m.getToken P s now tokenOut with
    | .error e => (m, .error e)
    | .ok (_, m') => (m', postBotActivity P activity sendOut)

end TeamsRehook
