import TeamsRehook.Bot.Activity
import TeamsRehook.Bot.ConversationMembers
import TeamsRehook.Database
import TeamsRehook.GraphNameResolution

/-!
# Conversation references

The reference of a conversation, which every activity with a conversation and a service URL creates or brings up to date.
-/

namespace TeamsRehook

/-- `CHAT_MEMBER_REFRESH_AFTER`. -/
def chatMemberRefreshAfter : Int := hours 6

/-- Whether the members of a conversation are fetched: of group chats, when the last time was long enough ago or they
are asked for. -/
def refreshesChatMembers (P : Platform) (now : Int) (force : Bool) (reference : BotConversationReference) : Bool :=
  (reference.scope == ConversationScope.chat.value || P.lower reference.conversationType == "groupchat") &&
    reference.serviceUrl != "" && reference.conversationId != "" &&
    (force || !reference.membersRefreshedAt.any fun refreshedAt => decide (now - refreshedAt < chatMemberRefreshAfter))

/-- `_refresh_reference_chat_members`, from what fetching the members does. -/
def refreshReferenceChatMembers (P : Platform) (now : Int) (force : Bool) (fetched : Except Exn ConversationMembers)
    (reference : BotConversationReference) : Except Exn BotConversationReference :=
  if refreshesChatMembers P now force reference then
    match fetched with
    | .ok members =>
      .ok { reference with
        memberSummary := members.memberSummary
        memberCount := members.memberCount
        memberListJson := members.memberListJson
        membersLookupError := ""
        membersRefreshedAt := some now
        updatedAt := now }
    | .error (.botConversationMembers message) | .error (.botDelivery message) =>
      .ok { reference with
        membersLookupError := Python.clip message 1000
        membersRefreshedAt := some now
        updatedAt := now }
    | .error e => .error e
  else .ok reference

/-- The reference with what was captured: a name or an id from Graph that the activity does not give is kept. -/
def BotConversationReference.captures (P : Platform) (now : Int) (captured : Captured)
    (reference : BotConversationReference) : BotConversationReference :=
  { reference with
    scope := (scopeFor P captured).value
    serviceUrl := captured.serviceUrl
    tenantId := captured.tenantId
    teamId := captured.teamId
    graphTeamId := Python.orElse captured.graphTeamId reference.graphTeamId
    channelId := captured.channelId
    conversationType := captured.conversationType
    teamName := Python.orElse captured.teamName reference.teamName
    channelName := Python.orElse captured.channelName reference.channelName
    userId := captured.fromId
    userName := Python.orElse captured.userName reference.userName
    graphUserId := Python.orElse captured.graphUserId reference.graphUserId
    rawActivityType := captured.activityType
    lastSeenAt := now
    updatedAt := now }

/-- The reference of a conversation. -/
def Database.referenceOf (db : Database) (conversationId : String) : Option BotConversationReference :=
  db.references.find? (·.conversationId == conversationId)

/-- `_upsert_reference`: the reference of the conversation, if there is one to be had. -/
def upsertReference (P : Platform) (now : Int) (names : GraphNames) (fetched : Except Exn ConversationMembers)
    (captured : Captured) (db : Database) : Except Exn (Database × Option BotConversationReference) :=
  if captured.conversationId = "" ∨ captured.serviceUrl = "" then .ok (db, none)
  else do
    let loaded := (db.referenceOf captured.conversationId).getD
      { id := db.nextId, conversationId := captured.conversationId, lastSeenAt := now, updatedAt := now }
    let reference ← tryResolveReferenceGraphNames names false (loaded.captures P now captured)
    let reference ← refreshReferenceChatMembers P now false fetched reference
    if (db.referenceOf captured.conversationId).isSome then
      return ({ db with references := Table.update (·.id == reference.id) (fun _ => reference) db.references },
        some reference)
    else
      return ({ db with references := db.references ++ [reference], nextId := db.nextId + 1 }, some reference)

end TeamsRehook
