import TeamsRehook.Models

/-!
# Bot activities

What `routers/bot_messages.py` reads off an activity: the ids and names of its sender and its conversation, and the
command in it.
-/

namespace TeamsRehook

/-! ## What is captured -/

/-- The scope of a conversation. -/
inductive ConversationScope where
  | user | team | channel | chat
  deriving DecidableEq, Repr

/-- The text of a scope. -/
def ConversationScope.value : ConversationScope → String
  | .user => "user"
  | .team => "team"
  | .channel => "channel"
  | .chat => "chat"

/-- What `_extract_activity` captures. A summary of the members comes from the stored reference only. -/
structure Captured where
  activityType : String := ""
  serviceUrl : String := ""
  conversationId : String := ""
  rawConversationId : String := ""
  tenantId : String := ""
  teamId : String := ""
  graphTeamId : String := ""
  channelId : String := ""
  conversationType : String := ""
  isGroup : Bool := false
  teamName : String := ""
  channelName : String := ""
  fromId : String := ""
  userName : String := ""
  graphUserId : String := ""
  recipientId : String := ""
  memberSummary : String := ""
  deriving DecidableEq, Repr

/-- `_normalize_conversation_id`. -/
def normalizeConversationId (value : String) : String :=
  match Python.splitFirst value ";messageid=" with
  | some (conversationId, _) => conversationId
  | none => value

/-- `_extract_activity`. -/
def extractActivity (P : Platform) (activity : List (String × Json)) : Captured :=
  let channelData := dict (item "channelData" activity)
  let conversation := dict (item "conversation" activity)
  let sender := dict (item "from" activity)
  let recipient := dict (item "recipient" activity)
  let tenant := dict (item "tenant" channelData)
  let team := dict (item "team" channelData)
  let channel := dict (item "channel" channelData)
  let settings := dict (item "settings" channelData)
  let selectedChannel := dict (item "selectedChannel" settings)
  let conversationId := normalizeConversationId (string (item "id" conversation))
  let conversationType := P.lower (string (item "conversationType" conversation))
  { activityType := string (item "type" activity)
    serviceUrl := string (item "serviceUrl" activity)
    conversationId := conversationId
    rawConversationId := string (item "id" conversation)
    tenantId := Python.orElse (string (item "id" tenant)) (string (item "tenantId" conversation))
    teamId := Python.orElse (string (item "id" team)) (string (item "teamsTeamId" channelData))
    graphTeamId := string (item "aadGroupId" team)
    channelId := Python.orElse (string (item "id" channel)) (Python.orElse (string (item "teamsChannelId" channelData))
      (Python.orElse (string (item "id" selectedChannel)) (if conversationType = "channel" then conversationId else "")))
    conversationType := Python.clip conversationType 40
    isGroup := match item "isGroup" conversation with
      | .bool b => b
      | _ => false
    teamName := Python.clip (string (item "name" team)) 200
    channelName := Python.clip (Python.orElse (string (item "name" channel))
      (Python.orElse (string (item "name" selectedChannel)) (string (item "name" conversation)))) 200
    fromId := string (item "id" sender)
    userName := Python.clip (string (item "name" sender)) 200
    graphUserId := string (item "aadObjectId" sender)
    recipientId := string (item "id" recipient) }

/-- `_is_group_conversation`. -/
def isGroupConversation (P : Platform) (captured : Captured) : Bool :=
  captured.isGroup || ["groupchat", "group", "chat"].contains (P.lower captured.conversationType)

/-- `_scope_for`. -/
def scopeFor (P : Platform) (captured : Captured) : ConversationScope :=
  if captured.conversationType = "personal" then .user
  else if captured.teamId ≠ "" ∧ captured.channelId ≠ "" then .channel
  else if captured.teamId ≠ "" then .team
  else if isGroupConversation P captured then .chat
  else .user

/-! ## Commands -/

/-- The commands of the bot: `KNOWN_COMMANDS`. -/
inductive BotCommand where
  | register | webhook | disable | enable | delete | info | allowlist | help
  deriving DecidableEq, Repr

/-- The command with a name. -/
def BotCommand.ofName? : String → Option BotCommand
  | "register" => some .register
  | "webhook" => some .webhook
  | "disable" => some .disable
  | "enable" => some .enable
  | "delete" => some .delete
  | "info" => some .info
  | "allowlist" => some .allowlist
  | "help" => some .help
  | _ => none

/-- Whether the button of a card may run the command: `SAFE_SUBMIT_COMMANDS`. -/
def BotCommand.safeSubmit : BotCommand → Bool
  | .webhook | .disable | .enable | .info | .help => true
  | .register | .delete | .allowlist => false

/-- Whether the characters start with a pattern in lower case, up to the case of ASCII letters. -/
def startsWithIgnoringCase (pattern cs : List Char) : Bool :=
  pattern.isPrefixOf ((cs.take pattern.length).map Char.toLower)

/-- How many characters there are up to the end of the first `</at>`, nothing when there is none. -/
def mentionEnd : List Char → Option Nat
  | [] => none
  | c :: cs =>
    if startsWithIgnoringCase ['<', '/', 'a', 't', '>'] (c :: cs) then some 5 else (mentionEnd cs).map (· + 1)

/-- `re.sub(r"<at>.*?</at>", "", text, flags=re.IGNORECASE | re.DOTALL)`, after as many characters as are still part of
a mention. -/
def removeMentions : Nat → List Char → List Char
  | _, [] => []
  | skip + 1, _ :: cs => removeMentions skip cs
  | 0, c :: cs =>
    match if startsWithIgnoringCase ['<', 'a', 't', '>'] (c :: cs) then mentionEnd (cs.drop 3) else none with
    | some n => removeMentions (3 + n) cs
    | none => c :: removeMentions 0 cs

/-- The characters of a command after its first one: `[A-Za-z0-9_-]`. -/
def isCommandChar (c : Char) : Bool := c.isAlphanum || c == '_' || c == '-'

/-- `re.match(r"^([A-Za-z][A-Za-z0-9_-]*)(?:\s+(.+))?$", text, flags=re.DOTALL)` of a stripped text: its two groups. -/
def matchCommand : List Char → Option (List Char × List Char)
  | [] => none
  | c :: cs =>
    if c.isAlpha then
      match cs.dropWhile isCommandChar with
      | [] => some (c :: cs, [])
      | s :: rest =>
        if Python.isSpace s then some (c :: cs.takeWhile isCommandChar, rest.dropWhile Python.isSpace) else none
    else none

/-- `_parse_command`: the command and its argument. -/
def parseCommand (P : Platform) (text : String) : Option (BotCommand × String) :=
  let cleaned := Python.strip (P.htmlUnescape (String.ofList (removeMentions 0 text.toList)))
  if cleaned = "" ∨ Python.startsWith cleaned "/" then none
  else
    match matchCommand cleaned.toList with
    | none => none
    | some (name, argument) =>
      (BotCommand.ofName? (String.ofList (name.map Char.toLower))).map fun command =>
        (command, Python.collapse (Python.strip (String.ofList argument)))

/-- `_parse_submit_command`: the command of a card's button, whose route may be named in a field of its own. -/
def parseSubmitCommand (P : Platform) (value : List (String × Json)) : Option (BotCommand × String) :=
  let commandValue := Python.strip (string (item "command" value))
  if commandValue = "" then none
  else
    let parsed := (parseCommand P commandValue).or ((BotCommand.ofName? (P.lower commandValue)).map fun command =>
      (command, ""))
    match parsed with
    | none => none
    | some (command, embeddedArgument) =>
      if command.safeSubmit then
        let routeName := Python.orElse (string (item "route_name" value)) (Python.orElse (string (item "routeName" value))
          (Python.orElse (string (item "route" value)) (string (item "argument" value))))
        some (command, Python.collapse (Python.strip (Python.orElse routeName embeddedArgument)))
      else none

/-- `_parse_activity_command`. -/
def parseActivityCommand (P : Platform) (activity : List (String × Json)) : Option (BotCommand × String) :=
  (parseSubmitCommand P (dict (item "value" activity))).or (parseCommand P (string (item "text" activity)))

/-- An argument is a collapsed text. -/
theorem parseCommand_argument {P : Platform} {text : String} {command : BotCommand} {argument : String}
    (h : parseCommand P text = some (command, argument)) : ∃ value, argument = Python.collapse value := by
  unfold parseCommand at h
  simp only at h
  split at h
  · nomatch h
  · split at h
    · nomatch h
    · obtain ⟨_, -, h⟩ := Option.map_eq_some_iff.1 h
      obtain ⟨-, rfl⟩ := Prod.mk.inj h
      exact ⟨_, rfl⟩

/-- The argument of an activity's command is a collapsed text. -/
theorem parseActivityCommand_argument {P : Platform} {activity : List (String × Json)} {command : BotCommand}
    {argument : String} (h : parseActivityCommand P activity = some (command, argument)) :
    ∃ value, argument = Python.collapse value := by
  unfold parseActivityCommand at h
  rcases Option.or_eq_some_iff.1 h with h | ⟨-, h⟩
  · unfold parseSubmitCommand at h
    simp only at h
    split at h
    · nomatch h
    · split at h
      · nomatch h
      · split at h
        · obtain ⟨-, rfl⟩ := Prod.mk.inj (Option.some.inj h)
          exact ⟨_, rfl⟩
        · nomatch h
  · exact parseCommand_argument h

example : parseCommand .plain "<at>Rehook</AT> register  jira   alerts" = some (.register, "jira alerts") := by rfl

end TeamsRehook
