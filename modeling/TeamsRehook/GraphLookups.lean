import TeamsRehook.GraphNameResolution
import TeamsRehook.GraphTargets
import TeamsRehook.Lib.OData

/-!
# Lookups in Graph

The searches and lookups of `services/graph_targets.py` and the endpoints of `routers/teams_targets.py` that run them.
What Graph answers is given by `fetch`, from the URL. Beside what a function returns or raises stand the URLs it has
requested.
-/

namespace TeamsRehook

/-- The dataclass `GraphTarget` of `services/graph_targets.py`. -/
structure LookedUpTarget where
  kind : String
  id : String
  displayName : String
  subtitle : String := ""
  teamId : String := ""
  teamName : String := ""
  channelId : String := ""
  mail : String := ""
  securityEnabled : Bool := false
  groupTypes : List String := []
  deriving DecidableEq, Repr

/-- What a lookup in Graph has: the outcome of the token manager, and what Graph answers to a URL. -/
structure GraphSession where
  token : Except Exn Unit
  fetch : String → UrlOutcome

/-- `_odata_string`. -/
def odataString (value : String) : String := String.ofList (OData.escape value.toList)

/-- `_graph_get`. -/
def graphGet (P : Platform) (G : GraphSession) (path : String) (params : List (String × String)) : Requested Json :=
  match G.token with
  | .error e => ([], .error e)
  | .ok () =>
    let url := "https://graph.microsoft.com/v1.0" ++ path ++ "?" ++ urlencode P params
    ([url], graphGetUrl P (G.fetch url))

/-- `_graph_get_text`. -/
def graphGetText (P : Platform) (G : GraphSession) (path : String) (params : List (String × String)) : Requested String :=
  match G.token with
  | .error e => ([], .error e)
  | .ok () =>
    let query := urlencode P params
    let url := "https://graph.microsoft.com/v1.0" ++ path ++ if query = "" then "" else "?" ++ query
    ([url],
      match G.fetch url with
      | .response _ read => do
        let content ← read.read
        decodeUtf8 P content
      | .httpError code read => do
        let content ← read.read
        let safeBody := Python.clip (P.decodeUtf8Replace content) 500
        throw (.graphLookup ("Microsoft Graph request failed with HTTP " ++ toString code ++ ": " ++ safeBody))
      | .urlError => .error (.graphLookup "Microsoft Graph request failed")
      | .timeoutError => .error .timeoutError
      | .connectionError => .error .connectionError)

/-- `str(value.get(a) or value.get(b) or default).strip()`, for the keys that are tried. -/
def targetText (P : Platform) (keys : List String) (value : Json) (default : String := "") : Except Exn String :=
  match value with
  | .obj members =>
    .ok (Python.strip (strOf P (keys.foldr (fun key rest => orElse (item key members) rest) (.str default))))
  | _ => .error .attributeError

/-- `data.get("value", [])`, as a loop goes through it. -/
def valuesOf : Json → Except Exn (List Json)
  | .obj members => iterate ((Json.lookup "value" members).getD (.arr []))
  | _ => .error .attributeError

/-- What is done with the answer of a request. -/
def Requested.bindAnswer {α β : Type} (r : Requested α) (f : α → Except Exn β) : Requested β := (r.1, r.2.bind f)

/-! ## Searches -/

/-- The filter of a search: one of the fields begins with the query. -/
def startswithFilter (fields : List String) (query : String) : String :=
  " or ".intercalate (fields.map fun field => "startswith(" ++ field ++ ",'" ++ odataString query ++ "')")

/-- The user that an item of the answer is, nothing when it has no name or no id. -/
def readUserTarget (P : Platform) (user : Json) : Except Exn (Option LookedUpTarget) := do
  let displayName ← targetText P ["displayName", "userPrincipalName"] user
  let id ← targetText P ["id"] user
  if displayName = "" ∨ id = "" then return none
  let subtitle ← targetText P ["mail", "userPrincipalName"] user
  return some { kind := "user", id := id, displayName := displayName, subtitle := subtitle }

/-- `_search_users`. -/
def searchUsers (P : Platform) (G : GraphSession) (query : String) (limit : Int) : Requested (List LookedUpTarget) :=
  (graphGet P G "/users"
    [("$top", toString limit), ("$select", "id,displayName,userPrincipalName,mail"),
      ("$filter", startswithFilter ["displayName", "mail", "userPrincipalName"] query)]).bindAnswer fun data => do
    let users ← valuesOf data
    let targets ← users.mapM (readUserTarget P)
    return targets.reduceOption

/-- The team that an item of the answer is, nothing when it has no name or no id. -/
def readTeamTarget (P : Platform) (team : Json) : Except Exn (Option LookedUpTarget) := do
  let displayName ← targetText P ["displayName"] team
  let id ← targetText P ["id"] team
  if displayName = "" ∨ id = "" then return none
  let subtitle ← targetText P ["description", "mailNickname"] team
  return some
    { kind := "team", id := id, displayName := displayName, subtitle := subtitle, teamId := id, teamName := displayName }

/-- `_search_teams`. -/
def searchTeams (P : Platform) (G : GraphSession) (query : String) (limit : Int) : Requested (List LookedUpTarget) :=
  (graphGet P G "/teams"
    [("$top", toString limit), ("$select", "id,displayName,description"),
      ("$filter", startswithFilter ["displayName"] query)]).bindAnswer fun data => do
    let teams ← valuesOf data
    let targets ← teams.mapM (readTeamTarget P)
    return targets.reduceOption

/-- The group that an item of the answer is, nothing when it has no name or no id. -/
def readGroupTarget (P : Platform) (group : Json) : Except Exn (Option LookedUpTarget) := do
  let displayName ← targetText P ["displayName", "mailNickname"] group
  let id ← targetText P ["id"] group
  if displayName = "" ∨ id = "" then return none
  let types ← iterate ((Json.get? "groupTypes" group).getD (.arr []))
  let groupTypes := (types.map fun value => Python.strip (strOf P value)).filter (· != "")
  let mail ← targetText P ["mail"] group
  let mailNickname ← targetText P ["mailNickname"] group
  let address := if mail ≠ "" then [mail] else if mailNickname ≠ "" then [mailNickname] else []
  let securityEnabled ← getItem "securityEnabled" group
  return some {
    kind := "group"
    id := id
    displayName := displayName
    subtitle :=
      " · ".intercalate (address ++ [if groupTypes.contains "Unified" then "Microsoft 365 group" else "Security group"])
    mail := mail
    securityEnabled := securityEnabled.truthy
    groupTypes := groupTypes }

/-- `_search_groups`. -/
def searchGroups (P : Platform) (G : GraphSession) (query : String) (limit : Int) : Requested (List LookedUpTarget) :=
  (graphGet P G "/groups"
    [("$top", toString limit), ("$select", "id,displayName,mail,mailNickname,securityEnabled,groupTypes"),
      ("$filter", startswithFilter ["displayName", "mail", "mailNickname"] query)]).bindAnswer fun data => do
    let groups ← valuesOf data
    let targets ← groups.mapM (readGroupTarget P)
    return targets.reduceOption

/-- The kinds that can be searched for. -/
inductive SearchKind where
  | user | team | group
  deriving DecidableEq, Repr

/-- `search_targets`. -/
def searchTargets (P : Platform) (G : GraphSession) (kind : SearchKind) (query : String) (limit : Int) :
    Requested (List LookedUpTarget) :=
  let q := Python.strip query
  if q.length < 2 then ([], .ok [])
  else
    match kind with
    | .user => searchUsers P G q limit
    | .group => searchGroups P G q limit
    | .team => searchTeams P G q limit

/-! ## Lookups by id -/

/-- The loop of `list_team_channels`, with the channels found so far. -/
def scanChannels (P : Platform) (teamId needle : String) (limit : Int) :
    List Json → List LookedUpTarget → Except Exn (List LookedUpTarget)
  | [], targets => .ok targets
  | channel :: channels, targets => do
    let displayName ← targetText P ["displayName"] channel
    if displayName = "" then scanChannels P teamId needle limit channels targets
    else
      let description ← getItem "description" channel
      if needle ≠ "" ∧ !Python.contains (P.lower displayName) needle ∧
          !Python.contains (P.lower (strOf P (orElse description (.str "")))) needle then
        scanChannels P teamId needle limit channels targets
      else
        let id ← targetText P ["id"] channel
        let subtitle ← targetText P ["description", "membershipType"] channel
        let targets := targets ++
          [{ kind := "channel", id := id, displayName := displayName, subtitle := subtitle, teamId := teamId,
             channelId := id }]
        if (targets.length : Int) ≥ limit then return targets else scanChannels P teamId needle limit channels targets

/-- `list_team_channels`. -/
def listTeamChannels (P : Platform) (G : GraphSession) (teamId query : String) (limit : Int) :
    Requested (List LookedUpTarget) :=
  let teamId := Python.strip teamId
  if teamId = "" then ([], .ok [])
  else
    (graphGet P G ("/teams/" ++ P.quote teamId ++ "/channels")
      [("$select", "id,displayName,description,membershipType")]).bindAnswer
      fun data => do
        let channels ← valuesOf data
        scanChannels P teamId (P.lower (Python.strip query)) limit channels []

/-- `get_user_target`. -/
def getUserTarget (P : Platform) (G : GraphSession) (userId : String) : Requested (Option LookedUpTarget) :=
  let userId := Python.strip userId
  if userId = "" then ([], .ok none)
  else
    (graphGet P G ("/users/" ++ P.quote userId) [("$select", "id,displayName,userPrincipalName,mail")]).bindAnswer
    fun data => do
      let displayName ← targetText P ["displayName", "userPrincipalName"] data
      let resolvedId ← targetText P ["id"] data userId
      if displayName = "" then return none
      let subtitle ← targetText P ["mail", "userPrincipalName"] data
      return some { kind := "user", id := resolvedId, displayName := displayName, subtitle := subtitle }

/-- `get_team_target`. -/
def getTeamTarget (P : Platform) (G : GraphSession) (teamId : String) : Requested (Option LookedUpTarget) :=
  let teamId := Python.strip teamId
  if teamId = "" then ([], .ok none)
  else
    (graphGet P G ("/teams/" ++ P.quote teamId) [("$select", "id,displayName,description")]).bindAnswer fun data => do
      let displayName ← targetText P ["displayName"] data
      let resolvedId ← targetText P ["id"] data teamId
      if displayName = "" then return none
      let subtitle ← targetText P ["description", "mailNickname"] data
      return some
        { kind := "team", id := resolvedId, displayName := displayName, subtitle := subtitle, teamId := resolvedId,
          teamName := displayName }

/-- `get_channel_target`. -/
def getChannelTarget (P : Platform) (G : GraphSession) (teamId channelId : String) : Requested (Option LookedUpTarget) :=
  let teamId := Python.strip teamId
  let channelId := Python.strip channelId
  if teamId = "" ∨ channelId = "" then ([], .ok none)
  else
    (graphGet P G ("/teams/" ++ P.quote teamId ++ "/channels/" ++ P.quote channelId)
      [("$select", "id,displayName,description,membershipType")]).bindAnswer fun data => do
        let displayName ← targetText P ["displayName"] data
        let resolvedId ← targetText P ["id"] data channelId
        if displayName = "" then return none
        let subtitle ← targetText P ["description", "membershipType"] data
        return some
          { kind := "channel", id := resolvedId, displayName := displayName, subtitle := subtitle, teamId := teamId,
            channelId := resolvedId }

/-- `count_group_transitive_user_members`. -/
def countGroupTransitiveUserMembers (P : Platform) (G : GraphSession) (groupId : String) : Requested Int :=
  let groupId := Python.strip groupId
  if groupId = "" then ([], .ok 0)
  else
    (graphGetText P G ("/groups/" ++ P.quote groupId ++ "/transitiveMembers/microsoft.graph.user/$count") []).bindAnswer
    fun rawCount =>
      match P.intOfText (Python.strip rawCount) with
      | some count => .ok (max count 0)
      | none => .error (.graphLookup "Microsoft Graph group member count response was not numeric")

/-- The names that the lookups give, as `services/graph_name_resolution.py` takes them of the targets. -/
def GraphSession.names (P : Platform) (G : GraphSession) : GraphNames where
  team teamId := (getTeamTarget P G teamId).2.map fun target => (target.map (·.displayName)).getD ""
  channel teamId channelId := (getChannelTarget P G teamId channelId).2.map fun target =>
    (target.map (·.displayName)).getD ""
  user userId := (getUserTarget P G userId).2.map fun target => (target.map (·.displayName)).getD ""

/-! ## The endpoints -/

/-- An endpoint that looks something up, when lookups are enabled. -/
def lookedUp {α : Type} (s : Settings) (token : GraphTokenOutcome) (search : Requested α) : Requested α :=
  if !s.graphLookupEnabled then ([], .error (.http 409 "Microsoft Graph lookup is disabled"))
  else runGraphSearch token search

/-- `search_teams_targets`. -/
def searchTeamsTargets (P : Platform) (s : Settings) (token : GraphTokenOutcome) (fetch : String → UrlOutcome)
    (kind : SearchKind) (q : String) : Requested (List LookedUpTarget) :=
  lookedUp s token (searchTargets P ⟨token.outcome, fetch⟩ kind q 10)

/-- `search_team_channels`. -/
def searchTeamChannels (P : Platform) (s : Settings) (token : GraphTokenOutcome) (fetch : String → UrlOutcome)
    (teamId q : String) : Requested (List LookedUpTarget) :=
  lookedUp s token (listTeamChannels P ⟨token.outcome, fetch⟩ teamId q 25)

/-- `count_group_members`. -/
def countGroupMembers (P : Platform) (s : Settings) (token : GraphTokenOutcome) (fetch : String → UrlOutcome)
    (groupId : String) : Requested Int :=
  lookedUp s token (countGroupTransitiveUserMembers P ⟨token.outcome, fetch⟩ groupId)

end TeamsRehook
