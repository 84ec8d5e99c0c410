import TeamsRehook.Bot.Receive
import TeamsRehook.Webhook.History
import TeamsRehook.Webhook.RouteDeletion

/-!
# Reveal links

`reveal_webhook_url`, and the histories in which links are issued by bot commands while URLs are regenerated and routes
deleted.
-/

namespace TeamsRehook

/-- `_build_webhook_url`. -/
def buildWebhookUrl (s : Settings) (routeToken : String) : String :=
  Python.rstripChar s.appPublicBaseUrl '/' ++ Python.rstripChar s.apiV1Prefix '/' ++ "/webhooks/" ++ routeToken

/-- `WebhookUrlRevealOut`. -/
structure WebhookUrlRevealOut where
  webhookUrl : String
  routeName : String
  expiresAt : Int
  deriving DecidableEq, Repr

/-- `reveal_webhook_url`. -/
def revealWebhookUrl (P : Platform) (s : Settings) (now : Int) (token : String) (db : Database) :
    Except Exn WebhookUrlRevealOut :=
  let notFound := Exn.http 404 "Webhook URL reveal link is invalid or expired"
  match db.reveals.find? (·.tokenHash == lookupSecretHash P token) with
  | none => .error notFound
  | some reveal =>
    if reveal.expiresAt ≤ now then .error notFound
    else
      match db.routes.find? fun route => route.id == reveal.routeId && route.organizationId == reveal.organizationId with
      | none => .error notFound
      | some route =>
        if route.routeToken = "" then .error notFound
        else .ok ⟨buildWebhookUrl s route.routeToken, route.name, reveal.expiresAt⟩

/-! ## Histories -/

/-- A link that was issued: the hash of its token, its route with the URL the route had, and the end of its lifetime. -/
structure IssuedLink where
  tokenHash : String
  routeId : Nat
  webhookUrl : String
  expiresAt : Int
  deriving DecidableEq, Repr

/-- The links whose tokens an activity stored, with the URLs of their routes after it and the configured lifetime. -/
def linksIssued (s : Settings) (now : Int) (db db' : Database) : List IssuedLink :=
  (db'.reveals.filter fun reveal => !db.reveals.contains reveal).filterMap fun reveal =>
    (db'.routes.find? (·.id == reveal.routeId)).map fun route =>
      ⟨reveal.tokenHash, reveal.routeId, buildWebhookUrl s route.routeToken, now + hours s.webhookUrlRevealTtlHours⟩

/-- The settings in force, the tables, the time and the links issued so far. -/
structure RevealHistory where
  settings : Settings
  db : Database
  clock : Int := 0
  issued : List IssuedLink := []

/-- What a history is made of. -/
inductive RevealStep where
  /-- `receive_bot_activity`. -/
  | activity (run : BotRun) (body : Bytes)
  /-- `regenerate_webhook_route_url`, with the token it issues. -/
  | regenerate (now : Int) (routeId : Nat) (routeToken : String)
  /-- `delete_webhook_route`. -/
  | deleteRoute (organizationId routeId : Nat)
  /-- `delete_bot_conversation_reference`. -/
  | deleteReference (organizationId referenceId : Nat) (deleteLinkedRoutes : Bool)
  /-- The settings change, but not the public address. -/
  | configure (s : Settings)
  /-- Time passes. -/
  | wait (now : Int)

/-- The tables after a request: those it commits, or the ones from before when it raises. -/
def committed (db : Database) (result : Except Exn Database) : Database :=
  match result with
  | .ok db' => db'
  | .error _ => db

/-- One step of a history. The clock does not go back, and the secrets that are drawn are new. -/
def revealStep (P : Platform) (x : RevealHistory) : RevealStep → Option RevealHistory
  | .activity run body =>
    let db := committed x.db ((receiveBotActivity P x.settings run body x.db).map (·.1))
    let issued := x.issued ++ linksIssued x.settings run.now x.db db
    if x.clock ≤ run.now ∧ (issued.map (·.tokenHash)).Nodup then
      some { x with db := db, clock := run.now, issued := issued } else none
  | .regenerate now routeId routeToken =>
    if x.clock ≤ now then
      (regenerateWebhookRouteUrl P now routeId routeToken x.db).map fun db => { x with db := db, clock := now }
    else none
  | .deleteRoute organizationId routeId =>
    some { x with db := committed x.db (deleteWebhookRoute organizationId routeId x.db) }
  | .deleteReference organizationId referenceId deleteLinkedRoutes =>
    some { x with db := committed x.db (deleteBotConversationReference organizationId referenceId deleteLinkedRoutes x.db) }
  | .configure s =>
    if s.appPublicBaseUrl = x.settings.appPublicBaseUrl ∧ s.apiV1Prefix = x.settings.apiV1Prefix then
      some { x with settings := s }
    else none
  | .wait now => if x.clock ≤ now then some { x with clock := now } else none

end TeamsRehook
