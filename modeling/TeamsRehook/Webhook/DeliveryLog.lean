import TeamsRehook.LogRetention
import TeamsRehook.Webhook.LiveHistory
import TeamsRehook.Webhook.Receive

/-!
# The log of deliveries

The listings of `routers/webhook_routes.py` that an administrator reads the delivery events from, `test_webhook_route`,
and the histories of what writes the table while the log is read.
-/

namespace TeamsRehook

/-! ## Searching -/

/-- SQLite's `LIKE`: `%` stands for any text and `_` for any character. -/
def likeMatches : List Char → List Char → Bool
  | [], cs => cs.isEmpty
  | '%' :: ps, cs => cs.tails.any (likeMatches ps)
  | _ :: _, [] => false
  | p :: ps, c :: cs => (p == '_' || p == c) && likeMatches ps cs

/-- `column.ilike(f"%{search}%")`: both sides are folded with SQLite's `lower`, which knows ASCII only. -/
def ilikeContains (search text : String) : Bool :=
  likeMatches (('%' :: search.toList ++ ['%']).map Char.toLower) (text.toList.map Char.toLower)

/-- The filters of a listing: `status_filter`, `route_id` and `q`. -/
structure DeliveryEventFilters where
  status : Option DeliveryStatus := none
  routeId : Option Nat := none
  q : String := ""

/-- The route an event is joined with. -/
def Database.routeOf (db : Database) (event : WebhookDeliveryEvent) : Option WebhookRoute :=
  db.routes.find? fun route => event.routeId == some route.id

/-- The columns that a search looks at, those of the route only when there is one. -/
def searchedTexts (event : WebhookDeliveryEvent) (route : Option WebhookRoute) : List String :=
  [event.error, Json.dumps true true (.obj event.requestMetadata), Json.dumps true true (.obj event.normalizedMessage),
    Json.dumps true true (.obj event.deliveryResult)] ++
    (match route with
      | some route => [route.name, route.targetName]
      | none => [])

/-- The conditions of a listing. -/
def DeliveryEventFilters.selects (f : DeliveryEventFilters) (organizationId : Nat) (db : Database)
    (event : WebhookDeliveryEvent) : Bool :=
  let search := Python.strip f.q
  event.organizationId == some organizationId &&
    f.routeId.all (fun routeId => event.routeId == some routeId) &&
    f.status.all (event.status == ·) &&
    (search == "" || (searchedTexts event (db.routeOf event)).any (ilikeContains search))

/-! ## Listing -/

/-- `_string_value`. -/
def stringValue (record : List (String × Json)) (key : String) : String :=
  match Json.lookup key record with
  | some (.str value) => Python.strip value
  | _ => ""

/-- `_int_value`: a `bool` is an `int`. -/
def intValue (record : List (String × Json)) (key : String) : Option Int :=
  match Json.lookup key record with
  | some (.int value) => some value
  | some (.bool value) => some (if value then 1 else 0)
  | _ => none

/-- `WebhookDeliveryEventSummaryOut`. -/
structure DeliveryEventSummary where
  id : Nat
  routeId : Option Nat
  routeName : String
  targetName : String
  status : DeliveryStatus
  title : String
  payloadType : String
  deliveryBackend : String
  deliveryMode : String
  statusCode : Option Int
  error : String
  createdAt : Int
  deriving DecidableEq, Repr

/-- `_delivery_event_summary_out`. -/
def deliveryEventSummaryOut (event : WebhookDeliveryEvent) (route : Option WebhookRoute) : DeliveryEventSummary where
  id := event.id
  routeId := event.routeId
  routeName := (route.map (·.name)).getD ""
  targetName := (route.map (·.targetName)).getD ""
  status := event.status
  title := stringValue event.normalizedMessage "title"
  payloadType := stringValue event.normalizedMessage "raw_type"
  deliveryBackend := Python.orElse (stringValue event.deliveryResult "backend") ((route.map routeDeliveryBackend).getD "")
  deliveryMode := stringValue event.deliveryResult "mode"
  statusCode := intValue event.deliveryResult "status_code"
  error := event.error
  createdAt := event.createdAt

/-- `WebhookDeliveryEventPageOut`. -/
structure DeliveryEventPage where
  items : List DeliveryEventSummary
  total : Nat
  page : Nat
  pageSize : Nat
  totalPages : Nat
  retentionDays : Int
  deriving DecidableEq, Repr

/-- The tables, the time of the last cleanup, and the deliveries that are being sent. -/
structure LogState where
  db : Database := {}
  lastLogCleanupAt : Option Int := none
  inFlight : List Reserved := []

/-- `ORDER BY created_at DESC, id DESC`. -/
def latestEvents (events : List WebhookDeliveryEvent) : List WebhookDeliveryEvent :=
  events.insertionSort fun e e' => e'.newerThan e = false

/-- The events of a listing. -/
def DeliveryEventFilters.events (f : DeliveryEventFilters) (organizationId : Nat) (db : Database) :
    List WebhookDeliveryEvent :=
  db.events.filter (f.selects organizationId db)

/-- The page of the events that are listed: one statement counts them, and another one reads the rows. -/
def deliveryEventPage (s : Settings) (organizationId page pageSize : Nat) (f : DeliveryEventFilters)
    (counted listed : Database) : DeliveryEventPage :=
  let total := (f.events organizationId counted).length
  { items := (((latestEvents (f.events organizationId listed)).drop ((page - 1) * pageSize)).take pageSize).map fun event =>
      deliveryEventSummaryOut event (listed.routeOf event)
    total := total
    page := page
    pageSize := pageSize
    totalPages := (total + pageSize - 1) / pageSize
    retentionDays := max 0 s.logRetentionDays }

/-- `list_webhook_delivery_events`: what the cleanup leaves and commits, and the page or the exception. The route of the
filter, the count and the rows are read by statements of their own, each from the tables it finds. -/
def listWebhookDeliveryEvents (s : Settings) (now : Int) (organizationId page pageSize : Nat) (f : DeliveryEventFilters)
    (x : LogState) (checked counted listed : Database) : LogState × Except Exn DeliveryEventPage :=
  match cleanupLogEvents s now false x.lastLogCleanupAt x.db with
  | .error e => (x, .error e)
  | .ok (db, lastLogCleanupAt) =>
    ({ x with db := db, lastLogCleanupAt := lastLogCleanupAt },
      match f.routeId.map fun routeId => getOrgRoute organizationId routeId checked with
      | some (.error e) => .error e
      | _ => .ok (deliveryEventPage s organizationId page pageSize f counted listed))

/-- `get_webhook_delivery_event`: the event and its route. -/
def getWebhookDeliveryEvent (organizationId eventId : Nat) (db : Database) :
    Except Exn (WebhookDeliveryEvent × Option WebhookRoute) :=
  match db.events.find? fun event => event.id == eventId && event.organizationId == some organizationId with
  | some event => .ok (event, db.routeOf event)
  | none => .error (.http 404 "Delivery event not found")

/-! ## Testing a route -/

/-- `WebhookRouteTestRequest`. -/
structure WebhookRouteTestRequest where
  title : String := "Teams Rehook test"
  text : String := "This is a test message from the relay service."
  severity : String := "info"

/-- `_manual_test_metadata`. -/
def manualTestMetadata (route : WebhookRoute) : List (String × Json) :=
  [("trigger", .str "manual_test"),
    ("graph_target", .obj [("kind", .str route.graphTargetKind), ("target_name", .str route.targetName),
      ("target_id", .str route.graphTargetId), ("team_id", .str route.graphTeamId),
      ("team_name", .str route.graphTeamName), ("channel_id", .str route.graphChannelId),
      ("user_id", .str route.graphUserId), ("user_display_name", .str route.graphUserDisplayName),
        ("user_principal_name", .str route.graphUserPrincipalName)]),
    ("bot_target", .obj [("service_url", .str route.botServiceUrl), ("conversation_id", .str route.botConversationId)])]

/-- The message of a test. -/
def WebhookRouteTestRequest.message (P : Platform) (payload : WebhookRouteTestRequest) : NormalizedMessage where
  title := Python.strip payload.title
  text := Python.strip payload.text
  severity := Python.orElse (P.lower (Python.strip payload.severity)) "info"
  rawType := "test"

/-- `test_webhook_route`: the committed tables, and the answer or the exception. -/
def testWebhookRoute (P : Platform) (s : Settings) (run : ProviderRun) (organizationId routeId : Nat)
    (payload : WebhookRouteTestRequest) (db : Database) : Database × Except Exn Response :=
  match getOrgRoute organizationId routeId db with
  | .error e => (db, .error e)
  | .ok route =>
    if routeFeatureDisabledMessage route s ≠ "" then (db, .error (.http 409 (routeFeatureDisabledMessage route s)))
    else
      let message := payload.message P
      let delivered := deliverToRoute P s route message run db.credentials
      match delivered.2 with
      | .error e => (db, .error e)
      | .ok sent =>
        let fields :=
          { status := sent.status, requestMetadata := manualTestMetadata route, normalizedMessage := message.toDict,
                        deliveryResult := sent.deliveryResult, error := sent.error }
        match recordEvent run.sentAt (some route) route.routeTokenHash fields
            (storeRoute run.sentAt
              { route with lastDeliveryStatus := some sent.status, lastDeliveryAt := some run.sentAt }
              { db with credentials := delivered.1 }) with
        | .error e => (db, .error e)
        | .ok (db', event) =>
          (db', if sent.status = .failed then .error (.http 502 event.error)
            else .ok (.out true .delivered route.id event.id "Test message delivered"))

/-! ## Histories -/

/-- What a history of the log is made of. -/
inductive LogStep where
  /-- `receive_webhook` up to the commit before the message is sent. -/
  | receive (s : Settings) (r : WebhookRequest)
  /-- The rest of `receive_webhook`, for one of the deliveries that are being sent. -/
  | finish (s : Settings) (run : ProviderRun) (delivery : Nat)
  /-- `test_webhook_route`. -/
  | test (s : Settings) (run : ProviderRun) (organizationId routeId : Nat) (payload : WebhookRouteTestRequest)
  /-- `cleanup_log_events`: forced by `cleanup_log_event_retention`, and not by the listings. -/
  | cleanup (s : Settings) (now : Int) (force : Bool)
  /-- An operation that writes routes or conversation references. -/
  | live (step : LiveStep)

/-- One step of a history. -/
def logStep (P : Platform) (V : Services) (x : LogState) : LogStep → Option LogState
  | .receive s r =>
    let admitted := admitWebhook P V s r x.db
    some { x with
      db := admitted.1
      inFlight := match admitted.2 with
        | .reserved d => x.inFlight ++ [d]
        | _ => x.inFlight }
  | .finish s run delivery =>
    x.inFlight[delivery]?.map fun d =>
      { x with db := (complete P s run d x.db).1, inFlight := x.inFlight.eraseIdx delivery }
  | .test s run organizationId routeId payload =>
    some { x with db := (testWebhookRoute P s run organizationId routeId payload x.db).1 }
  | .cleanup s now force =>
    match cleanupLogEvents s now force x.lastLogCleanupAt x.db with
    | .ok (db, lastLogCleanupAt) => some { x with db := db, lastLogCleanupAt := lastLogCleanupAt }
    | .error _ => some x
  | .live step => (liveStep P x.db step).map fun db => { x with db := db }

/-- A page that was read, with the tables its events are counted in and those its rows are read from. -/
structure LogRead where
  counted : Database
  listed : Database
  page : DeliveryEventPage

/-- A page is read; anything can happen between the statements of the listing. -/
inductive ReadsPage (P : Platform) (V : Services) (organizationId pageSize : Nat) (f : DeliveryEventFilters)
    (page : Nat) : LogState → LogRead → LogState → Prop
  | read {x x' checked counted listed : LogState} {s : Settings} {now : Int} {out : DeliveryEventPage}
      {steps₁ steps₂ steps₃ : List LogStep}
      (hread : listWebhookDeliveryEvents s now organizationId page pageSize f x checked.db counted.db listed.db =
      (x', .ok out)) (hchecked : Transition.exec (logStep P V) x' steps₁ = some checked)
      (hcounted : Transition.exec (logStep P V) checked steps₂ = some counted)
      (hlisted : Transition.exec (logStep P V) counted steps₃ = some listed) :
      ReadsPage P V organizationId pageSize f page x ⟨counted.db, listed.db, out⟩ listed

/-- An administrator reads one page after the other, from `page` on, until the answer says that there are no more pages;
anything can happen between two pages. -/
inductive LogWalk (P : Platform) (V : Services) (organizationId pageSize : Nat) (f : DeliveryEventFilters) :
    Nat → LogState → List LogRead → Prop
  | last {page : Nat} {x x' : LogState} {r : LogRead} (hread : ReadsPage P V organizationId pageSize f page x r x')
      (hend : r.page.totalPages ≤ page) : LogWalk P V organizationId pageSize f page x [r]
  | more {page : Nat} {x x' x₁ : LogState} {r : LogRead} {steps : List LogStep} {reads : List LogRead}
      (hread : ReadsPage P V organizationId pageSize f page x r x') (hmore : page < r.page.totalPages)
      (hrun : Transition.exec (logStep P V) x' steps = some x₁)
        (hrest : LogWalk P V organizationId pageSize f (page + 1) x₁ reads) :
      LogWalk P V organizationId pageSize f page x (r :: reads)

end TeamsRehook
