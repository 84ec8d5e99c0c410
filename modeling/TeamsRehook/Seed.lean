import TeamsRehook.Bot.Commands

/-!
# Targets at startup

`_backfill_webhook_route_targets` of `seed.py`: at startup the target of a route that came from a conversation is
derived once more, from the reference of the conversation, with functions of its own.
-/

namespace TeamsRehook

/-- Whether a reference is one of a chat: `reference.scope == "chat" or reference.conversation_type.lower() ==
"groupchat"`. -/
def BotConversationReference.ofChat (P : Platform) (reference : BotConversationReference) : Bool :=
  reference.scope == "chat" || P.lower reference.conversationType == "groupchat"

/-- `_reference_target_name`. -/
def referenceTargetName (P : Platform) (reference : BotConversationReference) : String :=
  if reference.teamName ≠ "" ∧ reference.channelName ≠ "" then
    Python.clip (reference.teamName ++ " / " ++ reference.channelName) 200
  else if reference.channelName ≠ "" then Python.clip reference.channelName 200
  else if reference.teamName ≠ "" then Python.clip reference.teamName 200
  else if reference.memberSummary ≠ "" then Python.clip reference.memberSummary 200
  else if reference.ofChat P then "Group chat"
  else
    Python.clip (Python.orElse reference.userName (Python.orElse reference.graphUserId (Python.orElse reference.userId
      reference.conversationId))) 200

/-- `_reference_graph_kind`. -/
def referenceGraphKind (P : Platform) (reference : BotConversationReference) : TargetKind :=
  if reference.ofChat P then .chat
  else if reference.scope = "channel" ∨ reference.channelId ≠ "" then .channel
  else if reference.scope = "team" ∨ reference.graphTeamId ≠ "" then .team
  else .user

/-- `_reference_graph_target_id`. -/
def referenceGraphTargetId (P : Platform) (reference : BotConversationReference) : String :=
  match referenceGraphKind P reference with
  | .channel => reference.channelId
  | .team => reference.graphTeamId
  | .chat => reference.conversationId
  | .user | .none => Python.orElse reference.graphUserId reference.userId

/-- A route as the reference of its conversation has it. -/
def backfilledRoute (P : Platform) (reference : BotConversationReference) (route : WebhookRoute) : WebhookRoute :=
  { route with
    targetName := referenceTargetName P reference
    graphTargetKind := (referenceGraphKind P reference).value
    graphTargetId := referenceGraphTargetId P reference
    graphTeamId := reference.graphTeamId
    graphTeamName := reference.teamName
    graphChannelId := if referenceGraphKind P reference = .channel then reference.channelId else ""
    memberSummary := reference.memberSummary
    memberCount := reference.memberCount
    memberListJson := reference.memberListJson
    membersRefreshedAt := reference.membersRefreshedAt
    membersLookupError := reference.membersLookupError
    botRegisteredById := Python.orElse route.botRegisteredById (Python.orElse reference.graphUserId reference.userId) }

/-- The sources of the routes that came from a conversation. -/
def WebhookRoute.fromConversation (route : WebhookRoute) : Bool :=
  route.botTargetSource == "bot_command" || route.botTargetSource == "conversation_reference"

/-- `references.get(conversation_id)`: of references with one conversation id, the dictionary keeps the last. -/
def Database.lastReferenceOf (db : Database) (conversationId : String) : Option BotConversationReference :=
  db.references.reverse.find? (·.conversationId == conversationId)

/-- The loop of `_backfill_webhook_route_targets`, for one route. -/
def backfillRoute (P : Platform) (now : Int) (db : Database) (route : WebhookRoute) : WebhookRoute :=
  if route.fromConversation then
    match db.lastReferenceOf route.botConversationId with
    | some reference => route.flushed now (backfilledRoute P reference route)
    | none => route
  else route

/-- `_backfill_webhook_route_targets`. -/
def backfillWebhookRouteTargets (P : Platform) (now : Int) (db : Database) : Database :=
  { db with routes := db.routes.map (backfillRoute P now db) }

end TeamsRehook
