import TeamsRehook.Webhook.Receive
import TeamsRehook.Lib.Transition

/-!
# Histories of webhook requests

Requests handled one after the other, with changes of the settings and of the routes in between.
-/

namespace TeamsRehook

/-- The settings in force and the tables. -/
structure WebhookState where
  settings : Settings
  db : Database

/-- What a history is made of. -/
inductive WebhookStep where
  /-- A request, with what the services do when it is delivered; the process stops before it delivers when there is no
  run. -/
  | request (r : WebhookRequest) (run : Option ProviderRun)
  /-- A route is edited, in the columns the checks of a request read. -/
  | editRoute (now : Int) (routeId : Nat) (isActive : Bool)
      (deliveryBackend clientIpAccessMode clientIpAllowlist : String)
  /-- The settings change. -/
  | configure (s : Settings)
  /-- `regenerate_webhook_route_url`, with the token it issues. -/
  | regenerate (now : Int) (routeId : Nat) (routeToken : String)

/-- `receive_webhook` from its start to its end, or to the point where the process stops: the committed tables. -/
def handleWebhook (P : Platform) (V : Services) (s : Settings) (r : WebhookRequest) (run : Option ProviderRun)
    (db : Database) : Database :=
  let admitted := admitWebhook P V s r db
  match admitted.2 with
  | .reserved d =>
    match run with
    | some run => (complete P s run d admitted.1).1
    | none => admitted.1
  | _ => admitted.1

/-- `regenerate_webhook_route_url`, for a token whose hash no route has (`route_token_hash` is unique). -/
def regenerateWebhookRouteUrl (P : Platform) (now : Int) (routeId : Nat) (routeToken : String) (db : Database) :
    Option Database :=
  if db.routes.any (·.routeTokenHash == lookupSecretHash P routeToken) then none
  else some { db with
    routes := Table.update (·.id == routeId)
      (fun route => route.flushed now
        { route with routeToken := routeToken, routeTokenHash := lookupSecretHash P routeToken }) db.routes }

/-- One step of a history. -/
def webhookStep (P : Platform) (V : Services) (x : WebhookState) : WebhookStep → Option WebhookState
  | .request r run => some { x with db := handleWebhook P V x.settings r run x.db }
  | .editRoute now routeId isActive deliveryBackend clientIpAccessMode clientIpAllowlist =>
    some { x with db := { x.db with
      routes := Table.update (·.id == routeId)
        (fun route => route.flushed now { route with
          isActive := isActive
          deliveryBackend := deliveryBackend
          clientIpAccessMode := clientIpAccessMode
          clientIpAllowlist := clientIpAllowlist }) x.db.routes } }
  | .configure s => some { x with settings := s }
  | .regenerate now routeId routeToken =>
    (regenerateWebhookRouteUrl P now routeId routeToken x.db).map fun db => { x with db := db }

/-! ## Fixed inputs -/

/-- Services for runs on fixed inputs: every payload is a plain text. -/
def Services.plain : Services where
  normalizeWebhookPayload _ _ := .ok { title := "Webhook message", text := "Disk full", rawType := "text" }
  clientIpAllowed _ _ := true

/-- A route whose messages are simulated. -/
def alertsRoute : WebhookRoute where
  id := 1
  organizationId := 1
  name := "alerts"
  routeTokenHash := "first-token"
  routeToken := "first-token"
  botServiceUrl := "https://smba.example"
  botConversationId := "19:alerts"

/-- The state with the route, before any request. -/
def alertsState : WebhookState := ⟨{ botDeliveryMode := "mock" }, { routes := [alertsRoute], nextId := 2 }⟩

/-- A request with a key, to the URL with the token. -/
def keyedRequest (routeToken : String) (now : Int) : WebhookRequest where
  routeToken := routeToken
  idempotencyKeyHeader := "order-0001"
  body := .ok [68, 105, 115, 107]
  checkedAt := now
  readAt := now

/-- Services that are not called. -/
def mockRun (sentAt : Int) : ProviderRun :=
  { token := .urlError, send := .urlError, retry := .urlError, sentAt := sentAt }

end TeamsRehook
