import TeamsRehook.Bot.Commands

/-!
# Deleting routes

The two endpoints of the administration that delete routes: one route, and a conversation reference with the routes that
use it. The command of the bot is in `Bot.Commands`.
-/

namespace TeamsRehook

/-- `_get_org_route`. -/
def getOrgRoute (organizationId routeId : Nat) (db : Database) : Except Exn WebhookRoute :=
  match db.routes.find? fun route => route.id == routeId && route.organizationId == organizationId with
  | some route => .ok route
  | none => .error (.http 404 "Webhook route not found")

/-- `delete_webhook_route`, for an admin of the organization. -/
def deleteWebhookRoute (organizationId routeId : Nat) (db : Database) : Except Exn Database := do
  let route ← getOrgRoute organizationId routeId db
  return deleteRoute route.id db

/-- Whether a route is linked to a reference: it delivers to the conversation or to the channel. -/
def WebhookRoute.linkedTo (route : WebhookRoute) (reference : BotConversationReference) : Bool :=
  (reference.conversationId != "" &&
      (route.botConversationId == reference.conversationId ||
        (route.graphTargetKind == TargetKind.chat.value && route.graphTargetId == reference.conversationId))) ||
    (reference.graphTeamId != "" && reference.channelId != "" && route.graphTeamId == reference.graphTeamId &&
      route.graphChannelId == reference.channelId)

/-- `_find_routes_for_conversation_reference`. -/
def findRoutesForConversationReference (organizationId : Nat) (reference : BotConversationReference) (db : Database) :
    List WebhookRoute :=
  routesById (newestFirst (db.routes.filter fun route => route.organizationId == organizationId &&
    route.linkedTo reference))

/-- `delete_bot_conversation_reference`, for an admin of the organization. -/
def deleteBotConversationReference (organizationId referenceId : Nat) (deleteLinkedRoutes : Bool) (db : Database) :
    Except Exn Database :=
  match db.references.find? (·.id == referenceId) with
  | none => .error (.http 404 "Conversation reference not found")
  | some reference =>
    let linkedRoutes := findRoutesForConversationReference organizationId reference db
    if linkedRoutes ≠ [] ∧ deleteLinkedRoutes = false then
      .error (.http 409 "Conversation is still used by webhook routes. Confirm linked route deletion first.")
    else
      let db := linkedRoutes.foldl (fun db route => deleteRoute route.id db) db
      .ok { db with references := Table.delete (·.id == reference.id) db.references }

end TeamsRehook
