import TeamsRehook.Seed
import TeamsRehook.Webhook.Administration
import TeamsRehook.Webhook.RevealLinks

/-!
# Stored activities and their replay

The rows of `bot_activity_events` and `_backfill_bot_reference_metadata` of `seed.py`, which at startup applies the
stored activities to the conversation references once more.

The text of `raw_activity_json` is left out: a row has the value that `json.loads` reads back of it. Rows are listed in
the order of `created_at`, which is the one in which they were stored.
-/

namespace TeamsRehook

/-! ## Stored activities -/

mutual

/-- `_truncate`. -/
def truncate : Json → Json
  | .str s => .str (Python.clip s 2000)
  | .obj members => .obj (truncateMembers members)
  | .arr items => .arr ((truncateItems items).take 25)
  | value => value

/-- The members of an object, each truncated. -/
def truncateMembers : List (String × Json) → List (String × Json)
  | [] => []
  | (key, value) :: members => (key, truncate value) :: truncateMembers members

/-- The items of an array, each truncated. -/
def truncateItems : List Json → List Json
  | [] => []
  | value :: items => truncate value :: truncateItems items

end

/-- `allowed_keys`. -/
def allowedKeys : List String :=
  ["type", "id", "timestamp", "serviceUrl", "channelId", "from", "conversation", "recipient", "channelData",
    "membersAdded", "membersRemoved", "name"]

/-- The preview of an activity's text. -/
def textPreview (activity : List (String × Json)) : List (String × Json) :=
  match item "text" activity with
  | .str text => if text = "" then [] else [("text_preview", .str (Python.clip text 200))]
  | _ => []

/-- `_safe_activity`. -/
def safeActivity (activity : List (String × Json)) : List (String × Json) :=
  truncateMembers (activity.filter fun member => allowedKeys.contains member.1) ++ textPreview activity

/-- What a row of `bot_activity_events` has of the activity. -/
structure BotActivityEvent where
  activityType : String
  serviceUrl : String
  conversationId : String
  tenantId : String
  teamId : String
  graphTeamId : String
  channelId : String
  conversationType : String
  teamName : String
  channelName : String
  fromId : String
  userName : String
  graphUserId : String
  recipientId : String
  rawActivity : List (String × Json)

/-- The row that `receive_bot_activity` adds. -/
def botActivityEvent (P : Platform) (activity : List (String × Json)) : BotActivityEvent :=
  let captured := extractActivity P activity
  { activityType := captured.activityType
    serviceUrl := captured.serviceUrl
    conversationId := captured.conversationId
    tenantId := captured.tenantId
    teamId := captured.teamId
    graphTeamId := captured.graphTeamId
    channelId := captured.channelId
    conversationType := captured.conversationType
    teamName := captured.teamName
    channelName := captured.channelName
    fromId := captured.fromId
    userName := captured.userName
    graphUserId := captured.graphUserId
    recipientId := captured.recipientId
    rawActivity := safeActivity activity }

/-! ## The replay -/

/-- `_extract_bot_activity`, which reads neither the type of an activity nor its recipient. -/
def extractBotActivity (P : Platform) (event : BotActivityEvent) : Captured :=
  let raw := event.rawActivity
  let channelData := dict (item "channelData" raw)
  let conversation := dict (item "conversation" raw)
  let sender := dict (item "from" raw)
  let tenant := dict (item "tenant" channelData)
  let team := dict (item "team" channelData)
  let channel := dict (item "channel" channelData)
  let settings := dict (item "settings" channelData)
  let selectedChannel := dict (item "selectedChannel" settings)
  let rawConversationId := Python.orElse (string (item "id" conversation)) event.conversationId
  let conversationId := normalizeConversationId rawConversationId
  let conversationType := P.lower (string (item "conversationType" conversation))
  let channelId := Python.orElse (string (item "id" channel)) (Python.orElse (string (item "teamsChannelId" channelData))
    (Python.orElse (string (item "id" selectedChannel)) (if conversationType = "channel" then conversationId else "")))
  { serviceUrl := Python.orElse (string (item "serviceUrl" raw)) event.serviceUrl
    conversationId := conversationId
    rawConversationId := rawConversationId
    tenantId :=
      Python.orElse (string (item "id" tenant)) (Python.orElse (string (item "tenantId" conversation)) event.tenantId)
    teamId :=
      Python.orElse (string (item "id" team)) (Python.orElse (string (item "teamsTeamId" channelData)) event.teamId)
    graphTeamId := Python.orElse (string (item "aadGroupId" team)) event.graphTeamId
    channelId := Python.orElse channelId event.channelId
    conversationType := Python.clip (Python.orElse conversationType event.conversationType) 40
    isGroup := match item "isGroup" conversation with
      | .bool b => b
      | _ => false
    teamName := Python.clip (Python.orElse (string (item "name" team)) event.teamName) 200
    channelName :=
      Python.clip (Python.orElse (string (item "name" channel)) (Python.orElse (string (item "name" selectedChannel))
      (Python.orElse (string (item "name" conversation)) event.channelName))) 200
    fromId := Python.orElse (string (item "id" sender)) event.fromId
    userName := Python.clip (Python.orElse (string (item "name" sender)) event.userName) 200
    graphUserId := Python.orElse (string (item "aadObjectId" sender)) event.graphUserId }

/-- `_apply_reference_metadata`. -/
def applyReferenceMetadata (P : Platform) (captured : Captured) (activityType : String)
    (reference : BotConversationReference) : BotConversationReference :=
  { reference with
    scope := (scopeFor P captured).value
    serviceUrl := captured.serviceUrl
    tenantId := captured.tenantId
    teamId := captured.teamId
    graphTeamId := Python.orElse captured.graphTeamId reference.graphTeamId
    channelId := captured.channelId
    conversationType := captured.conversationType
    teamName := Python.orElse captured.teamName reference.teamName
    channelName := Python.orElse captured.channelName reference.channelName
    userId := captured.fromId
    userName := Python.orElse captured.userName reference.userName
    graphUserId := Python.orElse captured.graphUserId reference.graphUserId
    rawActivityType := activityType }

/-- The reference that a query of the replay finds by its conversation id. -/
def replayedReference (conversationId : String) (references : List BotConversationReference) :
    Option BotConversationReference :=
  references.find? (·.conversationId == conversationId)

/-- Change one reference in the table. -/
def changeReference (now : Int) (target : BotConversationReference)
    (f : BotConversationReference → BotConversationReference) (references : List BotConversationReference) :
    List BotConversationReference :=
  Table.update (·.id == target.id) (fun row => row.flushed now (f row)) references

/-- A flush fails when two references come to have one conversation id. -/
def flushReferences (references : List BotConversationReference) : Except Exn (List BotConversationReference) :=
  if Table.UniqueOn (·.conversationId) references then .ok references else .error .integrityError

/-- The loop of `_backfill_bot_reference_metadata`, for one event. The session flushes before each query, so that the
next event finds what this one has changed. -/
def backfillEvent (P : Platform) (now : Int) (references : List BotConversationReference) (event : BotActivityEvent) :
    Except Exn (List BotConversationReference) :=
  let captured := extractBotActivity P event
  if captured.conversationId = "" ∨ captured.serviceUrl = "" then .ok references
  else
    let apply := applyReferenceMetadata P captured event.activityType
    let rawReference :=
      if captured.rawConversationId ≠ "" ∧ captured.rawConversationId ≠ captured.conversationId then
        replayedReference captured.rawConversationId references
      else none
    match replayedReference captured.conversationId references, rawReference with
    | none, none => .ok references
    | none, some rawReference =>
      flushReferences (changeReference now rawReference
        (fun row => apply { row with conversationId := captured.conversationId }) references)
    | some reference, none => flushReferences (changeReference now reference apply references)
    | some reference, some rawReference =>
      flushReferences (changeReference now reference apply
        (if rawReference.id = reference.id then references else Table.delete (·.id == rawReference.id) references))

/-- `_backfill_bot_reference_metadata`. -/
def backfillBotReferenceMetadata (P : Platform) (now : Int) (events : List BotActivityEvent) (db : Database) :
    Except Exn Database :=
  (events.foldlM (backfillEvent P now) db.references).map fun references => { db with references := references }

/-! ## Histories -/

/-- The tables, with the activities that have been stored. -/
structure ActivityHistory where
  db : Database
  events : List BotActivityEvent

/-- What a history is made of. -/
inductive ActivityStep where
  /-- `receive_bot_activity`. -/
  | activity (s : Settings) (run : BotRun) (body : Bytes)
  /-- `refresh_webhook_route_graph_names`. -/
  | refreshNames (s : Settings) (now : Int) (G : GraphNames) (organizationId : Nat)
  /-- `refresh_single_webhook_route_graph_names`. -/
  | refreshRouteNames (s : Settings) (now : Int) (G : GraphNames) (organizationId routeId : Nat)

/-- The row that is added for a body. -/
def storedActivity (P : Platform) (body : Bytes) : List BotActivityEvent :=
  match activityOfBody P body with
  | .ok (some activity) => [botActivityEvent P activity]
  | _ => []

/-- One step of a history. An activity whose handling raises leaves no row, as it leaves the other tables. -/
def activityStep (P : Platform) (h : ActivityHistory) : ActivityStep → Option ActivityHistory
  | .activity s run body =>
    match receiveBotActivity P s run body h.db with
    | .ok (db, _) => some ⟨db, h.events ++ storedActivity P body⟩
    | .error _ => some h
  | .refreshNames s now G organizationId =>
    some { h with db := committed h.db (refreshWebhookRouteGraphNames s now G organizationId h.db) }
  | .refreshRouteNames s now G organizationId routeId =>
    some { h with db := committed h.db (refreshSingleWebhookRouteGraphNames s now G organizationId routeId h.db) }

end TeamsRehook
