import TeamsRehook.Webhook.Events
import TeamsRehook.Delivery.Graph

/-!
# `receive_webhook`

The endpoint of `routers/webhook_routes.py`, in its two transactions. `admitWebhook` checks the request and ends it, or
reserves a delivery event and commits it; `complete` sends the message and commits what became of it. An exception that
leaves a function closes the session, which rolls back what was not committed.
-/

namespace TeamsRehook

/-- What the endpoint takes from other modules: `normalize_webhook_payload`, of the body and the content type, and
`client_ip_allowed`, of the client and the allowlist. -/
structure Services where
  normalizeWebhookPayload : Bytes → String → Except Exn NormalizedMessage
  clientIpAllowed : String → String → Bool

/-- A request. The client addresses are those `_resolve_client_host` gives, the body is what `_read_limited_body` reads:
the partial body when the payload is too large. -/
structure WebhookRequest where
  routeToken : String
  idempotencyKeyHeader : String := ""
  contentType : String := ""
  contentLength : Option String := none
  method : String := "POST"
  path : String := ""
  clientHost : String := ""
  directClientHost : String := ""
  xForwardedFor : String := ""
  clientHostSource : String := "direct"
  userAgent : String := ""
  body : Except Bytes Bytes
  /-- When `check_block` reads the clock. -/
  checkedAt : Int
  /-- When the body is read. -/
  readAt : Int

/-- An answer. -/
inductive Response where
  /-- `WebhookDeliveryOut`. -/
  | out (ok : Bool) (status : DeliveryStatus) (routeId deliveryEventId : Nat) (message : String)
  /-- An `HTTPException`. -/
  | error (statusCode : Nat) (detail : String)
  deriving DecidableEq, Repr

/-- What the first transaction leaves for the second one: the objects of the session. -/
structure Reserved where
  route : WebhookRoute
  event : WebhookDeliveryEvent
  message : NormalizedMessage
  requestMetadata : List (String × Json)
  deriving Repr

/-- How the first transaction ends. -/
inductive Admission where
  /-- Answered, and not to be delivered. -/
  | responded (r : Response)
  /-- An exception that is not an answer. -/
  | raised (e : Exn)
  /-- The event is reserved and committed. -/
  | reserved (d : Reserved)
  deriving Repr

/-! ## The first transaction -/

/-- `payload_preview`. -/
def payloadPreview (P : Platform) (payload : Bytes) : String :=
  let text := P.decodeUtf8Replace payload
  if text.length ≤ 2000 then text else Python.clip text 1997 ++ "..."

/-- `_request_metadata`. -/
def requestMetadata (P : Platform) (r : WebhookRequest) (body : Bytes) (idempotencyKey : String) : List (String × Json) :=
  [("trigger", .str "external_webhook"), ("method", .str r.method), ("path", .str r.path),
    ("content_type", .str r.contentType), ("content_length", .str (r.contentLength.getD (toString body.length))),
    ("client_host", .str r.clientHost), ("direct_client_host", .str r.directClientHost),
    ("x_forwarded_for", .str r.xForwardedFor), ("client_host_source", .str r.clientHostSource),
    ("user_agent", .str r.userAgent), ("idempotency_key", .str idempotencyKey),
      ("payload_preview", .str (payloadPreview P body))]

/-- `_delivery_backend_disabled_message`. -/
def deliveryBackendDisabledMessage (backend : String) (s : Settings) : String :=
  if backend = "bot_framework" ∧ !s.botFrameworkEnabled then "Bot Framework delivery is disabled"
  else if backend = "graph" then
    if !s.graphLookupEnabled then "Microsoft Graph delivery requires Graph lookup to be enabled"
    else if !s.graphDeliveryEnabled then "Microsoft Graph delivery is disabled"
    else ""
  else ""

/-- `_route_feature_disabled_message`. -/
def routeFeatureDisabledMessage (route : WebhookRoute) (s : Settings) : String :=
  deliveryBackendDisabledMessage (routeDeliveryBackend route) s

/-- `_route_allows_client_ip`. A mode that is not known counts as public. -/
def routeAllowsClientIp (P : Platform) (V : Services) (route : WebhookRoute) (clientHost : String) : Bool :=
  if P.lower (Python.strip (Python.orElse route.clientIpAccessMode "public")) = "restricted" then
    V.clientIpAllowed clientHost route.clientIpAllowlist
  else true

/-- A rejection: the failure is recorded for abuse tracking, the event is recorded, and the request is answered. -/
def reject (P : Platform) (s : Settings) (r : WebhookRequest) (recordedFor : Option String) (route : Option WebhookRoute)
    (tokenHash : String) (metadata : List (String × Json)) (reason error : String) (code : Nat) (detail : String)
    (db : Database) : Database × Admission :=
  let abuse := (recordFailure P s r.readAt r.clientHost recordedFor reason db.abuse).1
  match recordEvent r.readAt route tokenHash { status := .rejected, requestMetadata := metadata, error := error } db with
  | .ok (db', _) => ({ db' with abuse := abuse }, .responded (.error code detail))
  | .error e => (db, .raised e)

/-- A rejection once the route is found, which is marked on the route too. -/
def rejectRoute (P : Platform) (s : Settings) (r : WebhookRequest) (route : WebhookRoute)
    (metadata : List (String × Json)) (reason error : String) (code : Nat) (db : Database) : Database × Admission :=
  let tokenHash := lookupSecretHash P r.routeToken
  let result := reject P s r (some tokenHash) (some route) tokenHash metadata reason error code
    (Python.clip error 1000) db
  match result.2 with
  | .responded _ =>
    ({ result.1 with
        routes := Table.update (·.id == route.id)
          (fun row => row.flushed r.readAt
            { row with lastDeliveryStatus := some .rejected, lastDeliveryAt := some r.readAt }) result.1.routes },
      result.2)
  | _ => result

/-- What is left once a request is accepted: reserve a delivery event, record the success, commit. -/
def reserve (P : Platform) (s : Settings) (r : WebhookRequest) (route : WebhookRoute) (key : String)
    (metadata : List (String × Json)) (message : NormalizedMessage) (db : Database) :
    Except Exn (Database × Admission) := do
  let (db', delivery, shouldDeliver) ←
    if key = "" then do
      let (db', e) ← recordEvent r.readAt (some route) route.routeTokenHash (pendingFields route metadata message none) db
      pure (db', e, true)
    else reserveIdempotentDelivery r.readAt route key metadata message db
  if shouldDeliver then
    let abuse := recordSuccess P s r.readAt r.clientHost (some (lookupSecretHash P r.routeToken)) db'.abuse
    return ({ db' with abuse := abuse },
      .reserved { route := route, event := delivery, message := message, requestMetadata := metadata })
  else
    return (db, .responded
      (.out (delivery.status == .delivered) delivery.status route.id delivery.id "Webhook delivery already processed"))

/-- How the reservation of a delivery ends: nothing is committed when the answer is that of an earlier delivery, or an
exception. -/
def settle (db : Database) : Except Exn (Database × Admission) → Database × Admission
  | .ok (db', .reserved d) => (db', .reserved d)
  | .ok (_, admission) => (db, admission)
  | .error (.http code detail) => (db, .responded (.error code detail))
  | .error e => (db, .raised e)

/-- `receive_webhook` up to the commit before the message is sent: the committed tables, and how it ends. -/
def admitWebhook (P : Platform) (V : Services) (s : Settings) (r : WebhookRequest) (db : Database) :
    Database × Admission :=
  let tokenHash := lookupSecretHash P r.routeToken
  let checked := checkBlock P s r.checkedAt r.clientHost (some tokenHash) db.abuse
  let db₁ := { db with abuse := checked.1 }
  match checked.2 with
  | some _ => (db₁, .responded (.error 429 "Too many failed webhook attempts"))
  | none =>
    let key := requestIdempotencyKey r.idempotencyKeyHeader
    match r.body with
    | .error partialBody =>
      let error := "Payload exceeds " ++ toString s.webhookMaxPayloadBytes ++ " bytes"
      reject P s r (some tokenHash) none tokenHash (requestMetadata P r partialBody key) "payload_too_large" error 400
        error db₁
    | .ok body =>
      let metadata := requestMetadata P r body key
      match db.routes.find? (·.routeTokenHash == tokenHash) with
      | none =>
        reject P s r none none tokenHash
          metadata "unknown_route" "Unknown webhook route" 404 "Webhook route not found" db₁
      | some route =>
        if !route.isActive then rejectRoute P s r route metadata "route_disabled" "Webhook route is disabled" 409 db₁
        else if routeFeatureDisabledMessage route s ≠ "" then
          rejectRoute P s r route metadata "delivery_backend_disabled" (routeFeatureDisabledMessage route s) 409 db₁
        else if !routeAllowsClientIp P V route r.clientHost then
          rejectRoute P s r route metadata "client_ip_not_allowed" "Client IP is not allowed for this webhook route" 403
          db₁
        else
          match V.normalizeWebhookPayload body r.contentType with
          | .error (.webhookPayload message) => rejectRoute P s r route metadata "invalid_payload" message 400 db₁
          | .error e => (db, .raised e)
          | .ok message =>
            settle db (reserve P s r route key metadata message db₁)

/-! ## The second transaction -/

/-- What the services called by a delivery do, and the token manager of the process. -/
structure ProviderRun where
  token : UrlOutcome
  send : UrlOutcome
  retry : UrlOutcome
  manager : BotTokenManager := {}
  /-- When the delivery is recorded. -/
  sentAt : Int
  deriving Repr

/-- What `_deliver_to_route` records. -/
structure Sent where
  status : DeliveryStatus
  deliveryResult : List (String × Json)
  error : String := ""
  deriving Repr

/-- `_deliver_to_route`: the credentials it leaves, and what it records, or the exception it lets through. -/
def deliverToRoute (P : Platform) (s : Settings) (route : WebhookRoute) (message : NormalizedMessage) (run : ProviderRun)
    (credentials : List GraphDelegatedCredential) : List GraphDelegatedCredential × Except Exn Sent :=
  let backend := routeDeliveryBackend route
  if backend = "graph" then
    let r := sendGraphMessage P s run.sentAt route message run.token run.send run.retry credentials
    (r.1,
      match r.2 with
      | .ok result => .ok { status := .delivered, deliveryResult := result.toDict }
      | .error (.graphDelivery e) =>
        let result := if e.result.isEmpty then [("backend", .str "graph"), ("error_type", .str e.errorType)] else e.result
        .ok { status := .failed, deliveryResult := result, error := e.message }
      | .error e => .error e)
  else if backend ≠ "bot_framework" then
    (credentials, .ok {
      status := .failed
      deliveryResult := [("backend", .str backend)]
      error := "Unsupported delivery backend: " ++ backend })
  else
    let r := sendBotActivity P s run.sentAt route.botServiceUrl route.botConversationId message run.token
      run.send run.manager
    (credentials,
      match r.2 with
      | .ok result =>
        .ok { status := .delivered, deliveryResult := result.toDict ++ [("backend", .str "bot_framework")] }
      | .error (.botDelivery message) =>
        .ok { status := .failed, deliveryResult := [("backend", .str "bot_framework")], error := message }
      | .error e => .error e)

/-- Whether the flush has a changed column of the route to write. -/
def routeChanged (route : WebhookRoute) (sent : Sent) (now : Int) : Bool :=
  route.lastDeliveryStatus != some sent.status || route.lastDeliveryAt != some now

/-- The row of the route after the flush. -/
def finishRoute (now : Int) (d : Reserved) (sent : Sent) (row : WebhookRoute) : WebhookRoute :=
  { row with
    lastDeliveryStatus := Table.ormWrite d.route.lastDeliveryStatus (some sent.status) row.lastDeliveryStatus
    lastDeliveryAt := Table.ormWrite d.route.lastDeliveryAt (some now) row.lastDeliveryAt
    updatedAt := if routeChanged d.route sent now then now else row.updatedAt }

/-- The row of the event after the flush. The columns that `_record_event` assigns besides these hold what they held. -/
def finishEvent (d : Reserved) (sent : Sent) (row : WebhookDeliveryEvent) : WebhookDeliveryEvent :=
  { row with
    status := sent.status
    requestMetadata := d.requestMetadata
    normalizedMessage := d.message.toDict
    deliveryResult := sent.deliveryResult
    error := Python.clip sent.error 1000 }

/-- Whether the event of a delivery takes the text of an error. The other texts that are written of it are JSON, which
is ASCII. -/
def Reserved.takesError (P : Platform) (d : Reserved) (error : String) : Bool :=
  flushesText P none d.event.error (Python.clip error 1000)

/-- The flush of the route and the event of a delivery: an update of a row that is not there any more raises
`StaleDataError`, and an error that the event does not take raises too. -/
def flushDelivery (P : Platform) (now : Int) (d : Reserved) (sent : Sent) (db : Database) : Except Exn Database :=
  if routeChanged d.route sent now ∧ db.routes.all (·.id != d.route.id) then .error .staleDataError
  else if !d.takesError P sent.error then .error .dataError
  else if db.events.all (·.id != d.event.id) then .error .staleDataError
  else .ok { db with
    routes := Table.update (·.id == d.route.id) (finishRoute now d sent) db.routes
    events := Table.update (·.id == d.event.id) (finishEvent d sent) db.events }

/-- The answer to a request whose delivery is recorded. -/
def deliveryResponse (d : Reserved) (sent : Sent) : Response :=
  if sent.status = .failed then .error 502 (Python.clip sent.error 1000)
  else .out true .delivered d.route.id d.event.id "Webhook delivered"

/-- `receive_webhook` from the commit before the message is sent on: the committed tables, and the answer or the
exception. -/
def complete (P : Platform) (s : Settings) (run : ProviderRun) (d : Reserved) (db : Database) :
    Database × Except Exn Response :=
  let delivered := deliverToRoute P s d.route d.message run db.credentials
  match delivered.2 with
  | .error e => (db, .error e)
  | .ok sent =>
    match flushDelivery P run.sentAt d sent { db with credentials := delivered.1 } with
    | .error e => (db, .error e)
    | .ok db' => (db', .ok (deliveryResponse d sent))

end TeamsRehook
