import TeamsRehook.Bot.Activity
import TeamsRehook.Database

/-!
# Authorization of bot commands

Who may run a command: the grant of the sender and the grants of the groups Graph says the sender is in. The answer of
Graph is kept for ten minutes (`bot_user_group_membership_cache`).
-/

namespace TeamsRehook

/-! ## Group membership -/

/-- What Graph does when the groups of a user are looked up: whether there is an access token, and the answer for each
page. -/
structure MembershipAnswers where
  token : Except Exn Unit
  pages : Nat → UrlOutcome

/-- `MAX_GRAPH_PAGINATION_PAGES`. -/
def maxGraphPaginationPages : Nat := 25

/-- `_graph_get_url`. -/
def graphGetUrl (P : Platform) (out : UrlOutcome) : Except Exn Json :=
  match out with
  | .httpError code read => do
    let content ← read.read
    let safeBody := Python.clip (P.decodeUtf8Replace content) 500
    throw (.graphLookup ("Microsoft Graph request failed with HTTP " ++ toString code ++ ": " ++ safeBody))
  | out =>
    match out.json P with
    | .error .urlError | .error .jsonDecodeError => .error (.graphLookup "Microsoft Graph request failed")
    | answer => answer

/-- `_iter_graph_pages`, from the page `n` on when that many pages may still be read. -/
def iterGraphPages (P : Platform) (pages : Nat → UrlOutcome) : Nat → Nat → Except Exn (List Json)
  | 0, _ => .error (.graphLookup "Microsoft Graph pagination exceeded the safety limit")
  | left + 1, n => do
    let data ← graphGetUrl P (pages n)
    let next ← getItem "@odata.nextLink" data
    if strOf P (orElse next (.str "")) = "" then return [data]
    let rest ← iterGraphPages P pages left (n + 1)
    return data :: rest

/-- The values a `for` loop over a JSON value goes through: the items of a list, the keys of an object, the characters
of a text. -/
def iterate : Json → Except Exn (List Json)
  | .arr items => .ok items
  | .obj members => .ok (members.map fun m => .str m.1)
  | .str s => .ok (s.toList.map fun c => .str (String.ofList [c]))
  | _ => .error .typeError

/-- An id as the code compares it: `value.strip().lower()`. -/
def normalizedId (P : Platform) (value : String) : String := P.lower (Python.strip value)

/-- The ids of the groups on one page, the empty ones among them. -/
def groupIdsOfPage (P : Platform) (data : Json) : Except Exn (List String) := do
  let groups ← iterate ((Json.get? "value" data).getD (.arr []))
  groups.mapM fun group => do
    let id ← getItem "id" group
    return normalizedId P (strOf P (orElse id (.str "")))

/-- `list_user_transitive_group_ids`: each id once. -/
def listUserTransitiveGroupIds (P : Platform) (answers : MembershipAnswers) (userId : String) :
    Except Exn (List String) :=
  if Python.strip userId = "" then .ok []
  else do
    answers.token
    let pages ← iterGraphPages P answers.pages maxGraphPaginationPages 0
    let ids ← pages.mapM (groupIdsOfPage P)
    return (ids.flatten.filter (· != "")).foldl (fun seen id => if id ∈ seen then seen else seen ++ [id]) []

/-- `BOT_GROUP_MEMBERSHIP_CACHE_TTL`. -/
def botGroupMembershipCacheTtl : Int := minutes 10

/-- Where the group ids of a sender come from. -/
inductive CacheStatus where
  | notConfigured | hit | miss | error
  deriving DecidableEq, Repr

/-- Whether a row of the membership cache is the sender's. -/
def BotUserGroupMembershipCache.ofSender (organizationId : Nat) (aadObjectId : String)
    (row : BotUserGroupMembershipCache) : Bool :=
  row.organizationId == organizationId && row.aadObjectId == aadObjectId

/-- The sender's row in the membership cache. -/
def Database.membershipOf (db : Database) (organizationId : Nat) (aadObjectId : String) :
    Option BotUserGroupMembershipCache :=
  db.groupMemberships.find? (·.ofSender organizationId aadObjectId)

/-- The ids of a row: `BotUserGroupMembershipCache.group_ids`. -/
def BotUserGroupMembershipCache.ids (P : Platform) (row : BotUserGroupMembershipCache) : List String :=
  (row.groupIds.filter fun id => Python.strip id != "").map (normalizedId P)

/-- Whether a row may still be used. -/
def BotUserGroupMembershipCache.unexpired (now : Int) (row : BotUserGroupMembershipCache) : Bool :=
  row.expiresAt.any fun expiresAt => decide (now < expiresAt)

/-- Whether a group of the organization has a grant that is in use. -/
def Database.hasGroupGrants (db : Database) (organizationId : Nat) : Bool :=
  db.botGroups.any fun group => group.organizationId == organizationId && group.isActive

/-- The row of the cache after a lookup that gave ids. -/
def BotUserGroupMembershipCache.store (now : Int) (groupIds : List String) (row : BotUserGroupMembershipCache) :
    BotUserGroupMembershipCache :=
  { row with
    groupIds := groupIds
    checkedAt := some now
    expiresAt := some (now + botGroupMembershipCacheTtl)
    lastError := ""
    updatedAt := now }

/-- The tables after a lookup that gave ids: the row of the sender is changed or made. -/
def storeMembership (now : Int) (organizationId : Nat) (aadObjectId : String) (groupIds : List String) (db : Database) :
    Database :=
  match db.membershipOf organizationId aadObjectId with
  | some _ =>
    { db with
      groupMemberships := Table.update (·.ofSender organizationId aadObjectId) (·.store now groupIds)
        db.groupMemberships }
  | none =>
    let row : BotUserGroupMembershipCache :=
      { id := db.nextId, organizationId := organizationId, aadObjectId := aadObjectId, updatedAt := now }
    { db with groupMemberships := db.groupMemberships ++ [row.store now groupIds], nextId := db.nextId + 1 }

/-- The tables after a lookup that failed: the row of the sender, if there is one, says so. -/
def storeMembershipError (now : Int) (organizationId : Nat) (aadObjectId error : String) (db : Database) : Database :=
  { db with
    groupMemberships := Table.update (·.ofSender organizationId aadObjectId)
      (fun row => { row with checkedAt := some now, lastError := error, updatedAt := now }) db.groupMemberships }

/-- `_bot_group_ids_for_sender`: the ids, and where they come from. -/
def botGroupIdsForSender (P : Platform) (now : Int) (lookup : Except Exn (List String)) (organizationId : Nat)
    (aadObjectId : String) (db : Database) : Except Exn (Database × List String × CacheStatus) :=
  if db.hasGroupGrants organizationId then
    match (db.membershipOf organizationId aadObjectId).filter (·.unexpired now) with
    | some row => .ok (db, row.ids P, .hit)
    | none =>
      match lookup with
      | .ok groupIds => .ok (storeMembership now organizationId aadObjectId groupIds db, groupIds, .miss)
      | .error (.graphLookup message) =>
        .ok (storeMembershipError now organizationId aadObjectId (Python.clip message 1000) db, [], .error)
      | .error e => .error e
  else .ok (db, [], .notConfigured)

/-! ## Permissions -/

/-- `role_permissions` of a role that there is. -/
def rolePermissions (role : BotAccessRole) : BotPermissions := role.permissions

/-- The role a grant is linked to: `access_role`. -/
def BotGrant.accessRole (roles : List BotAccessRole) (grant : BotGrant) : Option BotAccessRole :=
  grant.roleId.bind fun roleId => roles.find? (·.id == roleId)

/-- `_effective_bot_permissions`. -/
def effectiveBotPermissions (roles : List BotAccessRole) (grant : BotGrant) : BotPermissions :=
  match grant.accessRole roles with
  | some role => rolePermissions role
  | none => grant.permissions

/-- `_union_bot_permissions`. -/
def unionBotPermissions (roles : List BotAccessRole) (sources : List BotGrant) : BotPermissions :=
  .ofFields fun field => sources.any fun source => (effectiveBotPermissions roles source).get field

/-- `_matching_bot_groups`, by display name. -/
def matchingBotGroups (P : Platform) (organizationId : Nat) (groupIds : List String) (db : Database) :
    List BotAuthorizedGroup :=
  let normalizedIds := (groupIds.filter fun id => Python.strip id != "").map (normalizedId P)
  (db.botGroups.filter fun group =>
    group.organizationId == organizationId && group.isActive && normalizedIds.contains group.groupObjectId).insertionSort
      fun group other => group.displayName ≤ other.displayName

/-- `_allowlist_argument_is_write`. -/
def allowlistArgumentIsWrite (P : Platform) (argument : String) : Bool :=
  let lowered := P.lower (Python.strip argument)
  lowered == "public" || Python.startsWith lowered "public " || lowered == "restricted" ||
    Python.startsWith lowered "restricted "

/-- `_required_bot_permission`: nothing when none is required. -/
def requiredBotPermission (P : Platform) (command : BotCommand) (argument : String) (captured : Captured) :
    Option BotPermission :=
  match command with
  | .help => none
  | .info => some .canViewRoutes
  | .webhook => some .canRevealWebhookUrls
  | .enable | .disable => some .canManageRouteStatus
  | .delete => some .canDeleteRoutes
  | .register =>
    match scopeFor P captured with
    | .team | .channel => some .canCreateChannelRoutes
    | .user | .chat => some .canCreatePrivateChatRoutes
  | .allowlist => if allowlistArgumentIsWrite P argument then some .canManageAllowlist else some .canViewRoutes

/-- Why a command is not run. -/
inductive DenialReason where
  | missingAadObjectId | groupMembershipLookupUnavailable | botUserNotAuthorized
  | missing (permission : BotPermission)
  deriving DecidableEq, Repr

/-- The text of a reason. -/
def DenialReason.value : DenialReason → String
  | .missingAadObjectId => "missing_aad_object_id"
  | .groupMembershipLookupUnavailable => "group_membership_lookup_unavailable"
  | .botUserNotAuthorized => "bot_user_not_authorized"
  | .missing permission => "missing_" ++ permission.field

/-- `BotCommandAuthorization`: the grants that were used, the permissions they give together, and why the command is
denied, if it is. -/
structure BotCommandAuthorization where
  denied : Option DenialReason
  requiredPermission : Option BotPermission := none
  botUser : Option BotAuthorizedUser := none
  botGroups : List BotAuthorizedGroup := []
  permissions : BotPermissions := .ofFields fun _ => false
  cacheStatus : Option CacheStatus := none
  deriving DecidableEq, Repr

/-- `authorization.allowed`. -/
def BotCommandAuthorization.allowed (a : BotCommandAuthorization) : Bool := a.denied.isNone

/-- The grants that were used. -/
def BotCommandAuthorization.sources (a : BotCommandAuthorization) : List BotGrant :=
  (a.botUser.map (·.toBotGrant)).toList ++ a.botGroups.map (·.toBotGrant)

/-- The tables after a command is authorized: the grants that were used were seen. -/
def markGrantsUsed (now : Int) (botUser : Option BotAuthorizedUser) (botGroups : List BotAuthorizedGroup)
    (db : Database) : Database :=
  { db with
    botUsers := Table.update (fun user => botUser.any (·.id == user.id))
      (fun user => { user with lastSeenAt := some now, updatedAt := now }) db.botUsers
    botGroups := Table.update (fun group => botGroups.any (·.id == group.id))
      (fun group => { group with lastMatchedAt := some now, updatedAt := now }) db.botGroups }

/-- The sender's grant, if it is in use. -/
def Database.activeBotUser (db : Database) (organizationId : Nat) (aadObjectId : String) : Option BotAuthorizedUser :=
  (db.botUsers.find? fun user => user.organizationId == organizationId && user.aadObjectId == aadObjectId).filter
    (·.isActive)

/-- Why a sender with these permissions may not run a command that requires one, if so. -/
def missingPermission (permissions : BotPermissions) : Option BotPermission → Option DenialReason
  | some permission => if permissions.get permission then none else some (.missing permission)
  | none => none

/-- A sender lacks nothing exactly with the required permission, if there is one. -/
theorem missingPermission_isNone_iff {permissions : BotPermissions} {required : Option BotPermission} :
    (missingPermission permissions required).isNone = true ↔ ∀ p, required = some p → permissions.get p = true := by
  cases required with
  | none => simp [missingPermission]
  | some p => cases hp : permissions.get p <;> simp [missingPermission, hp]

/-- The decision of `_authorize_bot_command`, from the grants of the sender. -/
def decideBotCommand (P : Platform) (roles : List BotAccessRole) (captured : Captured) (command : BotCommand)
    (argument : String) (botUser : Option BotAuthorizedUser) (botGroups : List BotAuthorizedGroup)
    (status : CacheStatus) : BotCommandAuthorization :=
  let sources := (botUser.map (·.toBotGrant)).toList ++ botGroups.map (·.toBotGrant)
  let permissions := unionBotPermissions roles sources
  let requiredPermission := requiredBotPermission P command argument captured
  if sources.isEmpty then
    { denied := some .botUserNotAuthorized, permissions := permissions, cacheStatus := some status }
  else
    { denied := missingPermission permissions requiredPermission
      requiredPermission := requiredPermission
      botUser := botUser
      botGroups := botGroups
      permissions := permissions
      cacheStatus := some status }

/-- `_authorize_bot_command`. -/
def authorizeBotCommand (P : Platform) (s : Settings) (now : Int) (answers : MembershipAnswers) (captured : Captured)
    (command : BotCommand) (argument : String) (db : Database) : Except Exn (Database × BotCommandAuthorization) :=
  let aadObjectId := normalizedId P captured.graphUserId
  if aadObjectId = "" then .ok (db, { denied := some .missingAadObjectId })
  else do
    let (db, organization) := defaultOrganization s db
    let botUser := db.activeBotUser organization.id aadObjectId
    let (db, groupIds, status) ←
      botGroupIdsForSender P now (listUserTransitiveGroupIds P answers aadObjectId) organization.id aadObjectId db
    if status = .error ∧ botUser = none then
      return (db, { denied := some .groupMembershipLookupUnavailable, cacheStatus := some status })
    let botGroups := if status = .error then [] else matchingBotGroups P organization.id groupIds db
    let authorization := decideBotCommand P db.botRoles captured command argument botUser botGroups status
    return (if authorization.allowed then markGrantsUsed now botUser botGroups db else db, authorization)

end TeamsRehook
