import TeamsRehook.LogRetention
import TeamsRehook.Webhook.RevealLinks

/-!
# Deliveries in flight

What the administration and the bot can commit while a message is sent, between the two transactions of
`receive_webhook`, and what is asked of the delivery then.
-/

namespace TeamsRehook

/-- What can be committed while a delivery is in flight. -/
inductive InFlightOp where
  /-- `delete_webhook_route`. -/
  | deleteRoute (organizationId routeId : Nat)
  /-- `delete_bot_conversation_reference`. -/
  | deleteReference (organizationId referenceId : Nat) (deleteLinkedRoutes : Bool)
  /-- `receive_bot_activity`, with the `delete` command among others. -/
  | activity (s : Settings) (run : BotRun) (body : Bytes)
  /-- `regenerate_webhook_route_url`, with the token it issues. -/
  | regenerate (now : Int) (routeId : Nat) (routeToken : String)
  /-- `cleanup_log_events`, under any retention. -/
  | cleanup (s : Settings) (now : Int) (force : Bool) (lastLogCleanupAt : Option Int)

/-- Whether the operation is a cleanup of the logs. -/
def InFlightOp.isCleanup : InFlightOp → Bool
  | .cleanup .. => true
  | _ => false

/-- The tables after an operation: those it commits, or the ones from before when it raises. -/
def inFlightStep (P : Platform) (db : Database) : InFlightOp → Option Database
  | .deleteRoute organizationId routeId => some (committed db (deleteWebhookRoute organizationId routeId db))
  | .deleteReference organizationId referenceId deleteLinkedRoutes =>
    some (committed db (deleteBotConversationReference organizationId referenceId deleteLinkedRoutes db))
  | .activity s run body => some (committed db ((receiveBotActivity P s run body db).map (·.1)))
  | .regenerate now routeId routeToken => regenerateWebhookRouteUrl P now routeId routeToken db
  | .cleanup s now force lastLogCleanupAt =>
    some (committed db ((cleanupLogEvents s now force lastLogCleanupAt db).map (·.1)))

/-- Whether an exception is one of the database. -/
def Exn.isDatabaseError : Exn → Bool
  | .integrityError | .staleDataError | .operationalError | .dataError => true
  | _ => false

/-- The foreign keys of the delivery events and the reveal tokens: the route of a row exists. -/
structure Database.ForeignKeys (db : Database) : Prop where
  events : ∀ event ∈ db.events, ∀ routeId, event.routeId = some routeId → ∃ route ∈ db.routes, route.id = routeId
  reveals : ∀ reveal ∈ db.reveals, ∃ route ∈ db.routes, route.id = reveal.routeId

/-- The table still has the event of a delivery. -/
def Reserved.EventStored (d : Reserved) (db : Database) : Prop := ∃ event ∈ db.events, event.id = d.event.id

/-- The table still has the route of a delivery. -/
def Reserved.RouteStored (d : Reserved) (db : Database) : Prop := ∃ route ∈ db.routes, route.id = d.route.id

/-- What is asked of a delivery, when `ops` were committed while it was in flight, the provider's outcome is `outcome`
and the request ends with `result`: it ends without an error of the database, its event shows the outcome unless a
cleanup removed it, and no event or reveal token has a route that does not exist. -/
structure SurvivesInFlight (d : Reserved) (ops : List InFlightOp) (outcome : Except Exn Sent)
    (result : Database × Except Exn Response) : Prop where
  answered : ∀ e, result.2 = .error e → e.isDatabaseError = false
  recorded : ∀ event ∈ result.1.events, event.id = d.event.id →
    ∃ sent, outcome = .ok sent ∧ event.status = sent.status ∧ (event.status = .delivered ∨ event.status = .failed)
  kept : d.EventStored result.1 ∨ ∃ op ∈ ops, op.isCleanup = true
  foreignKeys : result.1.ForeignKeys

/-! ## Fixed inputs -/

/-- The tables while the message of a request for the route is sent. -/
def alertsInFlight : Database :=
  (admitWebhook .plain .plain alertsState.settings (keyedRequest "first-token" 0) alertsState.db).1

end TeamsRehook
