import TeamsRehook.Webhook.RestartHistory

/-!
# Live operations

Histories of what writes routes and conversation references while the service runs: the steps of `RouteStep` but no
restart, of requests the schema accepts, and the regeneration of URLs.
-/

namespace TeamsRehook

/-- What a live history is made of. -/
inductive LiveStep where
  | routes (step : RouteStep)
  /-- `regenerate_webhook_route_url`, with the token it issues. -/
  | regenerate (now : Int) (routeId : Nat) (routeToken : String)

/-- Whether the step is one of a running service, of a request that the schema accepts. -/
def RouteStep.live : RouteStep → Bool
  | .create _ _ _ payload => payload.accepted
  | .update _ _ _ _ payload => payload.accepted
  | .restart _ => false
  | _ => true

/-- One step of a live history. -/
def liveStep (P : Platform) (db : Database) : LiveStep → Option Database
  | .routes step => if step.live then routeStep P db step else none
  | .regenerate now routeId routeToken => regenerateWebhookRouteUrl P now routeId routeToken db

end TeamsRehook
