import TeamsRehook.Delivery.GraphAuth

/-!
# Graph delivery

`services/teams_graph_delivery.py`: the chat message posted to the channel or chat of a route, once more without its
attachments when Graph answers 400. What Graph does to the two posts is given by a `UrlOutcome` each.
-/

namespace TeamsRehook

/-- A target: a `dict` of texts. -/
abbrev GraphTarget := List (String × String)

/-- `target.get(key, "")`. -/
def GraphTarget.get (target : GraphTarget) (key : String) : String := ((target.find? (·.1 == key)).map (·.2)).getD ""

/-- The target as a JSON value. -/
def GraphTarget.json (target : GraphTarget) : Json := .obj (target.map fun p => (p.1, .str p.2))

/-- `GraphDeliveryResult`. -/
structure GraphDeliveryResult where
  mode : String
  statusCode : Int
  messageId : Json
  target : GraphTarget
  request : List (String × Json)

/-- `GraphDeliveryResult.to_dict`. -/
def GraphDeliveryResult.toDict (r : GraphDeliveryResult) : List (String × Json) :=
  [("backend", .str "graph"), ("mode", .str r.mode), ("status_code", .int r.statusCode), ("message_id", r.messageId),
    ("target", r.target.json), ("request", .obj r.request)]

/-- `_target_for_route`. -/
def targetForRoute (route : WebhookRoute) : Except GraphDeliveryError GraphTarget :=
  let kind := Python.strip route.graphTargetKind
  if kind = "channel" then
    let teamId := Python.strip route.graphTeamId
    let channelId := Python.strip route.graphChannelId
    if teamId = "" ∨ channelId = "" then
      .error { message := "Graph channel delivery requires a team ID and channel ID.", errorType := "validation_error" }
    else
      .ok [("kind", "channel"), ("team_id", teamId), ("team_name", Python.strip route.graphTeamName),
        ("channel_id", channelId), ("target_name", Python.strip route.targetName)]
  else if kind = "chat" then
    let chatId := Python.strip route.graphTargetId
    if chatId = "" then
      .error { message := "Graph chat delivery requires an existing chat ID.", errorType := "validation_error" }
    else .ok [("kind", "chat"), ("chat_id", chatId), ("target_name", Python.strip route.targetName)]
  else if kind = "user" then
    .error {
      message := "Graph user and 1:1 delivery is not supported in V1. Select an existing chat or channel."
      errorType := "unsupported_target" }
  else
    .error {
      message := "Graph delivery supports channel and existing chat targets in V1."
      errorType := "unsupported_target" }

/-! ## The payload -/

/-- `_plain_text_to_html`. -/
def plainTextToHtml (value : String) : String := "<br>".intercalate ((Python.splitlines value).map Python.htmlEscape)

/-- `_message_html`. -/
def messageHtml (message : NormalizedMessage) : String :=
  let lines :=
    (if message.title = "" then [] else ["<strong>" ++ Python.htmlEscape message.title ++ "</strong>"]) ++
      (if message.text = "" then [] else [plainTextToHtml message.text]) ++
      (if message.status = "" then [] else ["<strong>Status:</strong> " ++ Python.htmlEscape message.status]) ++
      (if message.severity = "" ∨ message.severity = "info" then []
        else ["<strong>Severity:</strong> " ++ Python.htmlEscape message.severity])
  Python.orElse ("<br><br>".intercalate lines) "<strong>Webhook message</strong>"

/-- The attachment of a payload for one attachment of the activity, if it is an Adaptive Card. -/
def adaptiveCardAttachment (index : Nat) (attachment : Json) : Option Json :=
  match attachment with
  | .obj members =>
    match Json.lookup "contentType" members, Json.lookup "content" members with
    | some (.str "application/vnd.microsoft.card.adaptive"), some (.obj content) =>
      some (.obj [("id", .str (toString index)), ("contentType", .str "application/vnd.microsoft.card.adaptive"),
        ("contentUrl", .null), ("content", .str (Json.dumps false false (.obj content))), ("name", .str "Adaptive Card")])
    | _, _ => none
  | _ => none

/-- `_adaptive_card_attachments`. The attachments of an activity are a list (`_is_bot_activity_with_attachments`). -/
def adaptiveCardAttachments (message : NormalizedMessage) : List Json :=
  match Json.lookup "attachments" (message.activity.getD []) with
  | some (.arr attachments) => (attachments.zipIdx 1).filterMap fun p => adaptiveCardAttachment p.2 p.1
  | _ => []

/-- `build_chat_message_payload`. -/
def buildChatMessagePayload (message : NormalizedMessage) (includeAttachments : Bool) : List (String × Json) :=
  let body := ("body", Json.obj [("contentType", .str "html"), ("content", .str (messageHtml message))])
  let attachments := if includeAttachments then adaptiveCardAttachments message else []
  if attachments.isEmpty then [body] else [body, ("attachments", .arr attachments)]

/-- `_safe_request_summary`. -/
def safeRequestSummary (payload : List (String × Json)) : List (String × Json) :=
  let attachments :=
    match Json.lookup "attachments" payload with
    | some (.arr items) => items
    | _ => []
  [("content_type", ((Json.lookup "body" payload).bind (Json.get? "contentType")).getD (.str "")),
    ("has_attachments", .bool !attachments.isEmpty), ("attachment_count", .int attachments.length)]

/-! ## Posting -/

/-- `_safe_graph_error_details` of an `HTTPError` with a body. -/
def safeGraphErrorDetails (P : Platform) (read : BodyRead) : Except Exn (String × String) := do
  let content ← read.read
  match jsonLoads P (P.decodeUtf8Replace content) with
  | .error .jsonDecodeError => return ("", "The Graph response could not be parsed.")
  | .error e => throw e
  | .ok body =>
    match Json.get? "error" body with
    | some (.obj error) =>
      let item := fun key => (Json.lookup key error).getD .null
      let message := Python.strip (strOf P (orElse (item "message") (.str "Microsoft Graph returned an error.")))
      let code := Python.strip (strOf P (orElse (item "code") (.str "")))
      return (code, if code = "" then message else code ++ ": " ++ message)
    | _ => return ("", "Microsoft Graph returned an error.")

/-- The error of an answer with the status `code` and such details. -/
def graphHttpError (code : Int) (details : String × String) : GraphDeliveryError where
  message := "Microsoft Graph delivery failed with HTTP " ++ toString code ++ ": " ++ details.2
  errorType := "graph_http_error"
  statusCode := some code
  graphErrorCode := details.1
  graphErrorMessage := details.2

/-- `_graph_post_json`: the status and the body, a `dict`. -/
def graphPostJson (P : Platform) : UrlOutcome → Except Exn (Int × List (String × Json))
  | .response status read => do
    let content ← read.read
    let text ← decodeUtf8 P content
    match if text = "" then .ok (.obj []) else jsonLoads P text with
    | .ok (.obj members) => return (status, members)
    | .ok _ => return (status, [])
    | .error .jsonDecodeError =>
      throw (.graphDelivery { message := "Microsoft Graph delivery failed.", errorType := "graph_request_error" })
    | .error e => throw e
  | .httpError code read => do
    let details ← safeGraphErrorDetails P read
    throw (.graphDelivery (graphHttpError code details))
  | .urlError =>
    .error (.graphDelivery { message := "Microsoft Graph delivery failed.", errorType := "graph_request_error" })
  | .timeoutError => .error .timeoutError
  | .connectionError => .error .connectionError

/-! ## Errors -/

/-- `_should_retry_without_attachments`. -/
def shouldRetryWithoutAttachments (e : GraphDeliveryError) (payload : List (String × Json)) : Bool :=
  e.statusCode == some 400 && ((Json.lookup "attachments" payload).getD .null).truthy

/-- `_service_user_label`. -/
def serviceUserLabel (credential : GraphDelegatedCredential) : String :=
  let principal := Python.strip credential.serviceUserPrincipalName
  let displayName := Python.strip credential.serviceUserDisplayName
  if principal ≠ "" ∧ displayName ≠ "" then displayName ++ " (" ++ principal ++ ")"
  else Python.orElse (Python.orElse principal displayName) "configured in Settings"

/-- `_target_label`. -/
def targetLabel (P : Platform) (target : GraphTarget) : String :=
  let teamName := Python.strip (target.get "team_name")
  let channelName := Python.strip (target.get "target_name")
  if teamName ≠ "" ∧ (P.lower channelName).startsWith (P.lower teamName ++ " /") then channelName
  else if teamName ≠ "" ∧ channelName ≠ "" then teamName ++ " / " ++ channelName
  else Python.orElse (Python.orElse channelName teamName) "the selected channel"

/-- `_apply_operator_guidance`. -/
def applyOperatorGuidance (P : Platform) (target : GraphTarget) (credential : GraphDelegatedCredential)
    (e : GraphDeliveryError) : GraphDeliveryError :=
  if e.statusCode = some 403 ∧ target.get "kind" = "channel" then
    { e with
      errorType := "graph_channel_access_denied"
      message := "Microsoft Graph denied channel delivery to " ++ targetLabel P target ++
        " with HTTP 403. Add the connected Graph service user " ++ serviceUserLabel credential ++
        " to the target Team/channel and verify delegated ChannelMessage.Send consent, then run Send test again." }
  else e

/-- `_error_result`. -/
def errorResult (target : GraphTarget) (e : GraphDeliveryError) : List (String × Json) :=
  [("backend", .str "graph"), ("target", target.json), ("error_type", .str e.errorType)] ++
    (match e.statusCode with
      | some code => [("status_code", .int code)]
      | none => []) ++
    (if e.graphErrorCode = "" then [] else [("graph_error_code", .str e.graphErrorCode)]) ++
    (if e.graphErrorMessage = "" then [] else [("graph_error_message", .str e.graphErrorMessage)]) ++
    (if e.message = "" then [] else [("operator_message", .str e.message)])

/-- An error of a post as `send_graph_message` raises it: a delivery error with guidance and the result, any other as it
is. -/
def describeError (P : Platform) (target : GraphTarget) (credential : GraphDelegatedCredential) : Exn → Exn
  | .graphDelivery e =>
    let e := applyOperatorGuidance P target credential e
    .graphDelivery { e with result := errorResult target e }
  | e => e

/-! ## `send_graph_message` -/

/-- `_delegated_token`. -/
def delegatedToken (P : Platform) (s : Settings) (now : Int) (organizationId : Nat) (out : UrlOutcome)
    (credentials : List GraphDelegatedCredential) :
    List GraphDelegatedCredential × Except Exn (String × GraphDelegatedCredential) :=
  let r := refreshDelegatedAccessToken P s now organizationId out credentials
  (r.1,
    match r.2 with
    | .error (.graphDelegatedAuth _) | .error (.expiredRefreshToken _) =>
      .error (.graphDelivery {
        message := "Delegated Graph delivery is not ready. Reconnect the service user in Settings."
        errorType := "auth_error" })
    | r => r)

/-- The posts of `send_graph_message`: the payload that was accepted, with Graph's answer. -/
def postGraphMessage (P : Platform) (message : NormalizedMessage) (sendOut retryOut : UrlOutcome) :
    Except Exn (List (String × Json) × Int × List (String × Json)) :=
  let payload := buildChatMessagePayload message true
  match graphPostJson P sendOut with
  | .ok r => .ok (payload, r)
  | .error (.graphDelivery e) =>
    if shouldRetryWithoutAttachments e payload then
      (graphPostJson P retryOut).map fun r => (buildChatMessagePayload message false, r)
    else .error (.graphDelivery e)
  | .error e => .error e

/-- `send_graph_message`: the credentials it leaves, and the result. -/
def sendGraphMessage (P : Platform) (s : Settings) (now : Int) (route : WebhookRoute) (message : NormalizedMessage)
    (tokenOut sendOut retryOut : UrlOutcome) (credentials : List GraphDelegatedCredential) :
    List GraphDelegatedCredential × Except Exn GraphDeliveryResult :=
  match targetForRoute route with
  | .error e => (credentials, .error (.graphDelivery e))
  | .ok target =>
    match delegatedToken P s now route.organizationId tokenOut credentials with
    | (credentials', .error e) => (credentials', .error e)
    | (credentials', .ok (_, credential)) =>
      match postGraphMessage P message sendOut retryOut with
      | .error e => (credentials', .error (describeError P target credential e))
      | .ok (payload, status, body) =>
        (credentials', .ok {
          mode := "real"
          statusCode := status
          messageId := (Json.lookup "id" body).getD (.str "")
          target := target
          request := safeRequestSummary payload })

end TeamsRehook
