import TeamsRehook.Bot.Receive
import TeamsRehook.Lib.Transition
import TeamsRehook.Seed
import TeamsRehook.Webhook.Administration
import TeamsRehook.Webhook.RevealLinks

/-!
# Live operations and restarts

The target of a conversation, and the histories of the operations that write targets, names and members, with restarts
in between.
-/

namespace TeamsRehook

/-! ## Targets -/

/-- What a route delivers to in Graph. -/
structure DeliveryTarget where
  graphTargetKind : String
  graphTargetId : String
  graphTeamId : String
  graphChannelId : String
  deriving DecidableEq, Repr

/-- The target of a route. -/
def WebhookRoute.deliveryTarget (route : WebhookRoute) : DeliveryTarget :=
  ⟨route.graphTargetKind, route.graphTargetId, route.graphTeamId, route.graphChannelId⟩

/-- What is known of a conversation: whether it is a chat of a group or one of a team, and its ids. -/
structure ConversationIds where
  groupChat : Bool
  inTeam : Bool
  channelId : String
  graphTeamId : String
  userId : String
  conversationId : String
  deriving DecidableEq, Repr

/-- The target of a conversation: the chat of a group, else the channel or the team it is in, else the user. -/
def ConversationIds.target (ids : ConversationIds) : DeliveryTarget :=
  if ids.groupChat then ⟨"chat", ids.conversationId, ids.graphTeamId, ""⟩
  else if ids.channelId ≠ "" then ⟨"channel", ids.channelId, ids.graphTeamId, ids.channelId⟩
  else if ids.inTeam ∨ ids.graphTeamId ≠ "" then ⟨"team", ids.graphTeamId, ids.graphTeamId, ""⟩
  else ⟨"user", ids.userId, ids.graphTeamId, ""⟩

/-- What a reference knows of its conversation. -/
def BotConversationReference.ids (P : Platform) (reference : BotConversationReference) : ConversationIds where
  groupChat := reference.ofChat P
  inTeam := reference.scope == "team"
  channelId := reference.channelId
  graphTeamId := reference.graphTeamId
  userId := Python.orElse reference.graphUserId reference.userId
  conversationId := reference.conversationId

/-- What an activity tells of its conversation, with the ids that only the stored reference has. -/
def Database.capturedIds (P : Platform) (captured : Captured) (db : Database) : ConversationIds :=
  let stored := db.referenceOf captured.conversationId
  { groupChat := scopeFor P captured == .chat || P.lower captured.conversationType == "groupchat"
    inTeam := scopeFor P captured == .team
    channelId := captured.channelId
    graphTeamId := Python.orElse captured.graphTeamId ((stored.map (·.graphTeamId)).getD "")
    userId := Python.orElse (Python.orElse captured.graphUserId ((stored.map (·.graphUserId)).getD "")) captured.fromId
    conversationId := captured.conversationId }

/-! ## Histories -/

/-- What a history is made of. Every request has the settings in force when it is handled. -/
inductive RouteStep where
  /-- `receive_bot_activity`. -/
  | activity (s : Settings) (run : BotRun) (body : Bytes)
  /-- `create_webhook_route`. -/
  | create (s : Settings) (run : RouteRun) (organizationId : Nat) (payload : WebhookRouteCreate)
  /-- `update_webhook_route`. -/
  | update (s : Settings) (run : RouteRun) (organizationId routeId : Nat) (payload : WebhookRouteUpdate)
  /-- `refresh_webhook_route_members`. -/
  | refreshMembers (now : Int) (fetched : Except Exn ConversationMembers) (valueErrorText : String)
      (organizationId routeId : Nat)
  /-- `refresh_bot_conversation_reference_members`, or the list of the references for one of them. -/
  | refreshReferenceMembers (now : Int) (force : Bool) (fetched : Except Exn ConversationMembers) (referenceId : Nat)
  /-- `refresh_webhook_route_graph_names`. -/
  | refreshNames (s : Settings) (now : Int) (G : GraphNames) (organizationId : Nat)
  /-- `refresh_single_webhook_route_graph_names`. -/
  | refreshRouteNames (s : Settings) (now : Int) (G : GraphNames) (organizationId routeId : Nat)
  /-- `delete_webhook_route`. -/
  | deleteRoute (organizationId routeId : Nat)
  /-- `delete_bot_conversation_reference`. -/
  | deleteReference (organizationId referenceId : Nat) (deleteLinkedRoutes : Bool)
  /-- `_backfill_webhook_route_targets`. -/
  | restart (now : Int)

/-- One step of a history: a request that raises leaves the tables as they were. -/
def routeStep (P : Platform) (db : Database) : RouteStep → Option Database
  | .activity s run body => some (committed db ((receiveBotActivity P s run body db).map (·.1)))
  | .create s run organizationId payload => some (committed db (createWebhookRoute P s run organizationId payload db))
  | .update s run organizationId routeId payload =>
    some (committed db (updateWebhookRoute P s run organizationId routeId payload db))
  | .refreshMembers now fetched valueErrorText organizationId routeId =>
    some (committed db (refreshWebhookRouteMembers now fetched valueErrorText organizationId routeId db))
  | .refreshReferenceMembers now force fetched referenceId =>
    some (committed db (refreshBotConversationReferenceMembers P now force fetched referenceId db))
  | .refreshNames s now G organizationId => some (committed db (refreshWebhookRouteGraphNames s now G organizationId db))
  | .refreshRouteNames s now G organizationId routeId =>
    some (committed db (refreshSingleWebhookRouteGraphNames s now G organizationId routeId db))
  | .deleteRoute organizationId routeId => some (committed db (deleteWebhookRoute organizationId routeId db))
  | .deleteReference organizationId referenceId deleteLinkedRoutes =>
    some (committed db (deleteBotConversationReference organizationId referenceId deleteLinkedRoutes db))
  | .restart now => some (backfillWebhookRouteTargets P now db)

end TeamsRehook
