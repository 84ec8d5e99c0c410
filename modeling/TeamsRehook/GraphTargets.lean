import TeamsRehook.Bot.Authorization
import TeamsRehook.Lib.Paging

/-!
# Members of a Graph group

`list_group_transitive_members` and `_iter_graph_pages` of `services/graph_targets.py`, and the endpoint
`list_group_members` of `routers/teams_targets.py`. The answers of Graph are given by `fetch`, from the number of the
request and its URL. Beside what a function returns or raises stand the URLs it has requested.
-/

namespace TeamsRehook

/-- `urllib.parse.urlencode(params)`. -/
def urlencode (P : Platform) (params : List (String × String)) : String :=
  "&".intercalate (params.map fun param => P.quotePlus param.1 ++ "=" ++ P.quotePlus param.2)

/-- The URLs that were requested, in order, and how it ended. -/
abbrev Requested (α : Type) := List String × Except Exn α

/-- A page that the body of a loop has gone through: what it returns, or what it goes on with and the next page. -/
def visitGraphPage {σ ρ : Type} (P : Platform) (out : UrlOutcome) (body : Json → σ → Except Exn (ρ ⊕ σ)) (x : σ) :
    Except Exn (ρ ⊕ σ × String) := do
  let data ← graphGetUrl P out
  match ← body data x with
  | .inl result => return .inl result
  | .inr x =>
    -- the generator looks for the next link when it is asked for another page
    let next ← getItem "@odata.nextLink" data
    return .inr (x, strOf P (orElse next (.str "")))

/-- A `for` loop over `_iter_graph_pages`, from the request `n` of `url` on when that many pages may still be read: what
its body returns, or what it has at the end of the loop. -/
def forGraphPages {σ ρ : Type} (P : Platform) (fetch : Nat → String → UrlOutcome) (body : Json → σ → Except Exn (ρ ⊕ σ)) :
    Nat → Nat → String → σ → Requested (ρ ⊕ σ)
  | left, n, url, x =>
    if url = "" then ([], .ok (.inr x))
    else
      match left with
      | 0 => ([], .error (.graphLookup "Microsoft Graph pagination exceeded the safety limit"))
      | left + 1 =>
        match visitGraphPage P (fetch n url) body x with
        | .error e => ([url], .error e)
        | .ok (.inl result) => ([url], .ok (.inl result))
        | .ok (.inr (x, next)) =>
          let rest := forGraphPages P fetch body left (n + 1) next x
          (url :: rest.1, rest.2)

/-- `GraphGroupMember`. -/
structure GraphGroupMember where
  id : String
  displayName : String
  userPrincipalName : String := ""
  mail : String := ""
  deriving DecidableEq, Repr

/-- `GraphGroupMemberPage`. -/
structure GraphGroupMemberPage where
  items : List GraphGroupMember
  offset : Int
  limit : Int
  hasMore : Bool
  deriving DecidableEq, Repr

/-- The member that an item of a page is, with the fields as the loop reads them. -/
def readGroupMember (P : Platform) (member : Json) : Except Exn GraphGroupMember := do
  let id ← getItem "id" member
  let displayName ← getItem "displayName" member
  let userPrincipalName ← getItem "userPrincipalName" member
  let mail ← getItem "mail" member
  return {
    id := Python.strip (strOf P (orElse id (.str "")))
    displayName := Python.strip (strOf P (orElse (orElse displayName userPrincipalName) (.str "")))
    userPrincipalName := Python.strip (strOf P (orElse userPrincipalName (.str "")))
    mail := Python.strip (strOf P (orElse mail (.str ""))) }

/-- Whether the loop does not pass over a member: it has an id and a name, and the query is found in it. -/
def GraphGroupMember.matches (P : Platform) (needle : String) (member : GraphGroupMember) : Bool :=
  let haystack := P.lower (" ".intercalate [member.displayName, member.userPrincipalName, member.mail])
  !(member.id == "" || member.displayName == "") && !(needle != "" && !Python.contains haystack needle)

/-- The members found so far that are at the offset or behind it, and the number of all that were found. -/
structure MemberScan where
  members : List GraphGroupMember := []
  matchedCount : Nat := 0
  deriving DecidableEq, Repr

/-- The loop over the items of a page, for an offset and a limit in their bounds. -/
def scanMembers (P : Platform) (needle : String) (limit offset : Int) :
    List Json → MemberScan → Except Exn (GraphGroupMemberPage ⊕ MemberScan)
  | [], scan => .ok (.inr scan)
  | item :: items, scan => do
    let member ← readGroupMember P item
    if !member.matches P needle then scanMembers P needle limit offset items scan
    else if (scan.matchedCount : Int) < offset then
      scanMembers P needle limit offset items { scan with matchedCount := scan.matchedCount + 1 }
    else
      let members := scan.members ++ [member]
      if (members.length : Int) > limit then
        return .inl { items := members.take limit.toNat, offset := offset, limit := limit, hasMore := true }
      else scanMembers P needle limit offset items { members := members, matchedCount := scan.matchedCount + 1 }

/-- The body of the loop over the pages. -/
def scanGroupPage (P : Platform) (needle : String) (limit offset : Int) (data : Json) (scan : MemberScan) :
    Except Exn (GraphGroupMemberPage ⊕ MemberScan) :=
  match data with
  | .obj members => do
    let items ← iterate ((Json.lookup "value" members).getD (.arr []))
    scanMembers P needle limit offset items scan
  | _ => .error .attributeError

/-- The URL of the first page. -/
def groupMembersUrl (P : Platform) (groupId : String) : String :=
  "https://graph.microsoft.com/v1.0" ++ ("/groups/" ++ P.quote groupId ++ "/transitiveMembers/microsoft.graph.user") ++
    "?" ++ urlencode P [("$select", "id,displayName,userPrincipalName,mail"), ("$top", "999")]

/-- `list_group_transitive_members`, where `token` is what the token manager does. -/
def listGroupTransitiveMembers (P : Platform) (token : Except Exn Unit) (fetch : Nat → String → UrlOutcome)
    (groupId query : String) (limit offset : Int) : Requested GraphGroupMemberPage :=
  let groupId := Python.strip groupId
  if groupId = "" then ([], .ok { items := [], offset := offset, limit := limit, hasMore := false })
  else
    let limit := max 1 (min limit 200)
    let offset := max offset 0
    let needle := P.lower (Python.strip query)
    match token with
    | .error e => ([], .error e)
    | .ok () =>
      let r := forGraphPages P fetch (scanGroupPage P needle limit offset) maxGraphPaginationPages 0
        (groupMembersUrl P groupId) {}
      (r.1, r.2.map fun
        | .inl page => page
        | .inr scan => { items := scan.members, offset := offset, limit := limit, hasMore := false })

/-! ## The endpoint -/

/-- What the token manager does: it has a token, or it raises a `GraphConfigError` or another exception. -/
inductive GraphTokenOutcome where
  | available
  | configError (message : String)
  | raises (e : Exn)

/-- The outcome as the services see it, where the two errors of Graph are one. -/
def GraphTokenOutcome.outcome : GraphTokenOutcome → Except Exn Unit
  | .available => .ok ()
  | .configError message => .error (.graphLookup message)
  | .raises e => .error e

/-- `_run_graph_search`. A `GraphConfigError` is raised by the token manager alone. -/
def runGraphSearch {α : Type} (token : GraphTokenOutcome) (search : Requested α) : Requested α :=
  (search.1,
    match search.2, token with
    | .error (.graphLookup message), .configError _ => .error (.http 503 message)
    | .error (.graphLookup message), _ => .error (.http 502 message)
    | r, _ => r)

/-- `list_group_members`, after the validation of its parameters. -/
def listGroupMembers (P : Platform) (s : Settings) (token : GraphTokenOutcome) (fetch : Nat → String → UrlOutcome)
    (groupId q : String) (offset limit : Int) : Requested GraphGroupMemberPage :=
  if !s.graphLookupEnabled then ([], .error (.http 409 "Microsoft Graph lookup is disabled"))
  else runGraphSearch token (listGroupTransitiveMembers P token.outcome fetch groupId q limit offset)

end TeamsRehook
