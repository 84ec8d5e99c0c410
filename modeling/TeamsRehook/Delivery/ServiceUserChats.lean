import TeamsRehook.Delivery.DelegatedLookup
import TeamsRehook.GraphTargets

/-!
# Chats of the service user

`list_service_user_chats` of `services/graph_delegated_lookup.py` from its token on, and the endpoint
`search_service_user_chats` of `routers/teams_targets.py` with it. The answers of Graph are given by `fetch`, from the
number of the request and its URL. Graph may refuse to order the chats or to expand their members; the listing then asks
again without it.
-/

namespace TeamsRehook

/-! ## The listing -/

/-- `_chat_list_params`. -/
def chatListParams (limit : Int) (includeOrdering includeMembers : Bool) : List (String × String) :=
  [("$top", toString limit), ("$select", "id,topic,chatType")] ++ (if includeMembers then
    [("$expand", "members")] else []) ++
    if includeOrdering then [("$orderby", "lastMessagePreview/createdDateTime desc")] else []

/-- The URL of `_graph_get` for a path of Graph. -/
def lookupUrl (P : Platform) (path : String) (params : List (String × String)) : String :=
  let query := urlencode P params
  "https://graph.microsoft.com/v1.0" ++ path ++ (if query = "" then "" else "?") ++ query

/-- The URL of the listing with its options. -/
def chatListUrl (P : Platform) (limit : Int) (includeOrdering includeMembers : Bool) : String :=
  lookupUrl P "/me/chats" (chatListParams limit includeOrdering includeMembers)

/-- `exc.status_code` of the error that a request ends with. -/
def UrlOutcome.statusCode : UrlOutcome → Option Int
  | .httpError code _ => some code
  | _ => none

/-- `_is_orderby_rejection`. -/
def isOrderbyRejection (P : Platform) (statusCode : Option Int) (message : String) : Bool :=
  statusCode == some 400 && (Python.contains (P.lower message) "order by" || Python.contains (P.lower message) "orderby")

/-- `_is_member_expand_rejection`. -/
def isMemberExpandRejection (P : Platform) (statusCode : Option Int) (message : String) : Bool :=
  (statusCode == some 400 || statusCode == some 403) &&
    (Python.contains (P.lower message) "expand" || Python.contains (P.lower message) "member")

/-- The loop of `_list_chats_with_fallbacks`, from the request `n` on. -/
def listChatsFrom (P : Platform) (fetch : Nat → String → UrlOutcome) (limit : Int) (n : Nat)
    (includeOrdering includeMembers : Bool) (attempted : List (Bool × Bool)) (lastError : Option Exn) :
    Requested (List (String × Json)) :=
  if (includeOrdering, includeMembers) ∈ attempted then
    ([], match lastError with
      | some e => .error e
      | none => .ok [])
  else
    let attempted := (includeOrdering, includeMembers) :: attempted
    let url := chatListUrl P limit includeOrdering includeMembers
    let out := fetch n url
    match lookupGet P out with
    | .ok data => ([url], .ok data)
    | .error (.graphDelegatedLookup message) =>
      if includeOrdering && isOrderbyRejection P out.statusCode message then
        let rest :=
          listChatsFrom P fetch limit (n + 1) false includeMembers attempted (some (.graphDelegatedLookup message))
        (url :: rest.1, rest.2)
      else if includeMembers && isMemberExpandRejection P out.statusCode message then
        let rest :=
          listChatsFrom P fetch limit (n + 1) includeOrdering false attempted (some (.graphDelegatedLookup message))
        (url :: rest.1, rest.2)
      else ([url], .error (.graphDelegatedLookup message))
    | .error e => ([url], .error e)
termination_by includeOrdering.toNat + includeMembers.toNat
decreasing_by
  · simp_all
  · simp_all

/-- `_list_chats_with_fallbacks`. -/
def listChatsWithFallbacks (P : Platform) (fetch : Nat → String → UrlOutcome) (limit : Int) :
    Requested (List (String × Json)) :=
  listChatsFrom P fetch limit 0 true true [] none

/-! ## How a chat is shown -/

/-- `DelegatedGraphChatMember`. -/
structure DelegatedGraphChatMember where
  userId : String := ""
  displayName : String := ""
  email : String := ""
  deriving DecidableEq, Repr

/-- `str(members.get(key) or "").strip()`. -/
def textOf (P : Platform) (key : String) (members : List (String × Json)) : String :=
  Python.strip (strOf P (orElse (item key members) (.str "")))

/-- The member that an item of `members` is, nothing when it has no field of one. -/
def chatMember (P : Platform) : Json → Option DelegatedGraphChatMember
  | .obj raw =>
    let member : DelegatedGraphChatMember :=
      { userId := textOf P "userId" raw
        displayName := textOf P "displayName" raw
        email := Python.strip (strOf P (orElse (orElse (item "email" raw) (item "userPrincipalName" raw)) (.str ""))) }
    if member.userId ≠ "" ∨ member.displayName ≠ "" ∨ member.email ≠ "" then some member else none
  | _ => none

/-- `_chat_members`. -/
def chatMembers (P : Platform) (chat : List (String × Json)) : List DelegatedGraphChatMember :=
  match item "members" chat with
  | .arr raw => raw.filterMap (chatMember P)
  | _ => []

/-- The service user, as a listing knows it. -/
structure ServiceUser where
  id : String
  principalName : String
  deriving DecidableEq, Repr

/-- `_is_service_user_member`. -/
def ServiceUser.is (P : Platform) (u : ServiceUser) (member : DelegatedGraphChatMember) : Bool :=
  (P.lower u.id != "" && P.lower member.userId == P.lower u.id) ||
    (P.lower u.principalName != "" && P.lower member.email == P.lower u.principalName)

/-- `_short_id`. -/
def shortId (value : String) : String :=
  let value := Python.strip value
  if value.length > 11 then Python.clip value 8 ++ "..." else value

/-- `_member_label`. -/
def DelegatedGraphChatMember.label (member : DelegatedGraphChatMember) : String :=
  Python.orElse member.displayName (Python.orElse member.email (shortId member.userId))

/-- `_chat_type_label`. -/
def chatTypeLabel (chatType : String) : String :=
  if chatType = "oneOnOne" then "1:1 chat" else if chatType = "meeting" then "Meeting chat" else "Group chat"

/-- `_chat_subtitle`. -/
def chatSubtitle (chatType : String) (members : List DelegatedGraphChatMember) : String :=
  let label :=
    if ["group", "meeting", "oneOnOne"].contains chatType then chatTypeLabel chatType else Python.orElse chatType "chat"
  if members = [] then Python.orElse chatType "chat"
  else label ++ " - " ++ toString members.length ++ " " ++ if members.length = 1 then "member" else "members"

/-- `_other_one_on_one_member`. -/
def otherOneOnOneMember (P : Platform) (u : ServiceUser) (members : List DelegatedGraphChatMember) :
    Option DelegatedGraphChatMember :=
  match members.find? (!u.is P ·) with
  | some member => some member
  | none =>
    match members with
    | [member] => some member
    | _ => none

/-- `_member_summary`. -/
def memberSummary (P : Platform) (u : ServiceUser) (members : List DelegatedGraphChatMember) : String :=
  let others := members.filter (!u.is P ·)
  let labels := ((if others = [] then members else others).map (·.label)).filter (· != "")
  if labels = [] then ""
  else
    let hidden := labels.length - 3
    ", ".intercalate (labels.take 3) ++ if hidden > 0 then " + " ++ toString hidden else ""

/-- `_chat_display`: the name and the subtitle. -/
def chatDisplay (P : Platform) (u : ServiceUser) (chatType topic : String) (members : List DelegatedGraphChatMember) :
    String × String :=
  match if chatType = "oneOnOne" then otherOneOnOneMember P u members else none with
  | some other => (other.label, if other.email = "" then "1:1 chat" else "1:1 chat - " ++ other.email)
  | none =>
    let summary := if chatType = "group" ∧ topic = "" then memberSummary P u members else ""
    (Python.orElse summary (Python.orElse topic (chatTypeLabel chatType)), chatSubtitle chatType members)

/-- What the query is looked for in. -/
def chatHaystack (P : Platform) (chatId topic chatType displayName subtitle : String)
    (members : List DelegatedGraphChatMember) : String :=
  P.lower (" ".intercalate
    ([chatId, topic, chatType, displayName, subtitle] ++ members.flatMap fun member =>
      [member.userId, member.displayName, member.email]))

/-- The chat that an item of the answer is shown as, nothing when the loop passes over it. -/
def shownChat (P : Platform) (u : ServiceUser) (needle : String) : Json → Option DelegatedGraphChat
  | .obj chat =>
    let chatId := textOf P "id" chat
    let chatType := textOf P "chatType" chat
    let topic := textOf P "topic" chat
    if chatId = "" then none
    else
      let members := chatMembers P chat
      let display := chatDisplay P u chatType topic members
      if needle ≠ "" ∧ !Python.contains (chatHaystack P chatId topic chatType display.1 display.2 members) needle then
        none
      else some { id := chatId, displayName := display.1, subtitle := display.2 }
  | _ => none

/-- The loop over the items of the answer, with the chats found so far. -/
def scanChats (P : Platform) (u : ServiceUser) (needle : String) (limit : Int) :
    List Json → List DelegatedGraphChat → List DelegatedGraphChat
  | [], chats => chats
  | value :: values, chats =>
    match shownChat P u needle value with
    | none => scanChats P u needle limit values chats
    | some chat =>
      let chats := chats ++ [chat]
      if (chats.length : Int) ≥ limit then chats else scanChats P u needle limit values chats

/-! ## The search -/

/-- The service user of a token, from the credential or from Graph, with the URLs that were requested. -/
def serviceUserOf (P : Platform) (fetch : Nat → String → UrlOutcome) (n : Nat) (credential : GraphDelegatedCredential) :
    Requested ServiceUser :=
  let id := Python.strip credential.serviceUserId
  let principalName := Python.strip credential.serviceUserPrincipalName
  if id ≠ "" then ([], .ok { id := id, principalName := principalName })
  else
    let url := lookupUrl P "/me" [("$select", "id")]
    ([url],
      match currentUserId P (fetch n url) with
      | .ok id => .ok { id := id, principalName := principalName }
      | .error (.graphDelegatedLookup _) => .ok { id := "", principalName := principalName }
      | .error e => .error e)

/-- `list_service_user_chats` from its token on, which was fetched for the credential. -/
def chatsWithToken (P : Platform) (fetch : Nat → String → UrlOutcome) (query : String) (limit : Int)
    (credential : GraphDelegatedCredential) : Requested (List DelegatedGraphChat) :=
  let limit := max 1 (min limit 50)
  let listed := listChatsWithFallbacks P fetch limit
  match listed.2 with
  | .error e => (listed.1, .error e)
  | .ok data =>
    let user := serviceUserOf P fetch listed.1.length credential
    (listed.1 ++ user.1, do
      let user ← user.2
      let values ← iterate ((Json.lookup "value" data).getD (.arr []))
      return scanChats P user (P.lower (Python.strip query)) limit values [])

/-- `search_service_user_chats` of an organization: what Graph answers to the request for the token is `token`, and to
the others what `fetch` gives. -/
def searchedServiceUserChats (P : Platform) (s : Settings) (now : Int) (organizationId : Nat) (token : UrlOutcome)
    (fetch : Nat → String → UrlOutcome) (query : String) (db : Database) :
    Database × Except Exn (List DelegatedGraphChat) :=
  searchServiceUserChats P s now organizationId token
    ((lookupToken P s now organizationId token db.credentials).2.bind fun t => (chatsWithToken P fetch query 25 t.2).2) db

end TeamsRehook
