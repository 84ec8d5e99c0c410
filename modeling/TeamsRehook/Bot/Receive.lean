import TeamsRehook.Bot.Commands

/-!
# `receive_bot_activity`

An authenticated activity, from its body to the commit. The reply that is sent after the commit is left out, as are the
rows of the activity log and the audit log.
-/

namespace TeamsRehook

/-- The activity in a body: `json.loads(body)`, when there is one and it is an object. -/
def activityOfBody (P : Platform) (body : Bytes) : Except Exn (Option (List (String × Json))) :=
  if body = [] then .ok none
  else
    match P.jsonLoadsBytes body with
    | .ok (.obj activity) => .ok (some activity)
    | .ok _ | .error .jsonDecodeError => .ok none
    | .error e => .error e

/-- The command of an activity: only a message has one. -/
def commandOf (P : Platform) (activity : List (String × Json)) : Option (BotCommand × String) :=
  if (extractActivity P activity).activityType = "message" then parseActivityCommand P activity else none

/-- What a command that was parsed does: it is authorized and then run. -/
def runBotCommand (P : Platform) (s : Settings) (run : BotRun) (captured : Captured)
    (reference : Option BotConversationReference) (command : BotCommand) (argument : String) (db : Database) :
    Except Exn (Database × BotCommandAuthorization) := do
  let (db, authorization) ← authorizeBotCommand P s run.now run.membership captured command argument db
  if authorization.allowed then
    let db ← handleCommand P s run captured reference command argument authorization.permissions db
    return (db, authorization)
  else return (db, authorization)

/-- The handling of an activity: the tables at the commit, and the authorization of its command, if it has one. -/
def receiveActivity (P : Platform) (s : Settings) (run : BotRun) (activity : List (String × Json)) (db : Database) :
    Except Exn (Database × Option BotCommandAuthorization) := do
  let captured := extractActivity P activity
  let (db, reference) ← upsertReference P run.now run.referenceNames run.members captured db
  match commandOf P activity with
  | some (command, argument) => do
    let (db, authorization) ← runBotCommand P s run captured reference command argument db
    return (db, some authorization)
  | none => return (db, none)

/-- `receive_bot_activity`: the tables and the authorization, or the exception that leaves the tables as they were. -/
def receiveBotActivity (P : Platform) (s : Settings) (run : BotRun) (body : Bytes) (db : Database) :
    Except Exn (Database × Option BotCommandAuthorization) := do
  match ← activityOfBody P body with
  | some activity => receiveActivity P s run activity db
  | none => return (db, none)

/-! ## Fixed inputs -/

/-- Ada's message in a personal conversation, in which the bot is sent a text. -/
def personalMessageOfAda (text : String) : List (String × Json) :=
  [("type", .str "message"), ("text", .str text), ("serviceUrl", .str "https://smba.example/"),
    ("conversation", .obj [("id", .str "19:ada"), ("conversationType", .str "personal")]),
    ("from", .obj [("id", .str "29:ada"), ("aadObjectId", .str "ada")])]

/-- The platform on which every body that is not empty is Ada's message. -/
def Platform.bodyOfAda (text : String) : Platform :=
  { Platform.plain with jsonLoadsBytes := fun _ => .ok (.obj (personalMessageOfAda text)) }

/-- Handling an activity when no service answers. -/
def offlineRun : BotRun where
  now := 0
  members := .error (.botConversationMembers "no members")
  membership := ⟨.error (.graphLookup "no token"), fun _ => .urlError⟩
  routeToken := "route-token"
  revealTokens := fun n => "reveal-" ++ toString n

/-- Tables without routes, where Ada may do everything. -/
def adaDatabase : Database where
  organizations := [{ id := 1, slug := "default", name := "Default Organization" }]
  botUsers :=
    [{ id := 2, organizationId := 1, aadObjectId := "ada", displayName := "Ada", permissions := .ofFields fun _ => true }]
  nextId := 3

end TeamsRehook
