import TeamsRehook.Bot.Authorization
import TeamsRehook.Webhook.RevealLinks

/-!
# Administration of bot access

The bot users, groups and roles of `routers/admin.py` with `bot_access_roles.py`, and what `seed.py` does with them at
startup. The permissions of a grant that is linked to a role are stored twice, with the grant and with its role.

Each function is a request from its start to its commit, after the checks of who sends it; a request that raises changes
nothing. The audit log is left out.
-/

namespace TeamsRehook

/-- `BOT_PERMISSION_FIELDS`. -/
def botPermissionFields : List BotPermission :=
  [.canViewRoutes, .canRevealWebhookUrls, .canManageRouteStatus, .canDeleteRoutes, .canManageAllowlist,
    .canCreatePrivateChatRoutes, .canCreateChannelRoutes]

/-! ## System roles -/

/-- The keys of `BOT_ACCESS_SYSTEM_ROLES`. -/
inductive SystemRole where
  | routeViewer
  | routeOperator
  deriving DecidableEq, Repr

/-- `ROUTE_VIEWER_SYSTEM_KEY` and `ROUTE_OPERATOR_SYSTEM_KEY`. -/
def SystemRole.systemKey : SystemRole → String
  | .routeViewer => "route_viewer"
  | .routeOperator => "route_operator"

/-- `definition["name"]`. -/
def SystemRole.name : SystemRole → String
  | .routeViewer => "Route Viewer"
  | .routeOperator => "Route Operator"

/-- `definition["description"]`. -/
def SystemRole.description : SystemRole → String
  | .routeViewer => "Can inspect routes and reveal webhook URLs."
  | .routeOperator => "Can fully operate bot-managed webhook routes."

/-- `definition["permissions"]`. -/
def SystemRole.permissions : SystemRole → BotPermissions
  | .routeViewer => { canViewRoutes := true, canRevealWebhookUrls := true }
  | .routeOperator => .ofFields fun _ => true

/-- The role of an organization with a system key. -/
def Database.systemRole (organizationId : Nat) (definition : SystemRole) (db : Database) : Option BotAccessRole :=
  db.botRoles.find? fun role => role.organizationId == organizationId && role.systemKey == some definition.systemKey

/-- Whether another role of the organization has the name; the names of the roles of an organization are unique. -/
def Database.roleNameTaken (organizationId : Nat) (name : String) (roleId : Option Nat) (db : Database) : Bool :=
  db.botRoles.any fun role => role.organizationId == organizationId && role.name == name && some role.id != roleId

/-- The loop of `ensure_bot_access_system_roles`, for one definition, with the role that there is then. -/
def ensureSystemRole (organizationId : Nat) (definition : SystemRole) (db : Database) :
    Except Exn (Database × BotAccessRole) :=
  match db.systemRole organizationId definition with
  | some role =>
    .ok ({ db with botRoles := Table.update (·.id == role.id) (fun row => { row with isSystem := true }) db.botRoles },
      { role with isSystem := true })
  | none =>
    if db.roleNameTaken organizationId definition.name none then .error .integrityError
    else
      let role : BotAccessRole :=
        { id := db.nextId
          organizationId := organizationId
          name := definition.name
          description := definition.description
          isSystem := true
          systemKey := some definition.systemKey
          permissions := definition.permissions }
      .ok ({ db with botRoles := db.botRoles ++ [role], nextId := db.nextId + 1 }, role)

/-- `ensure_bot_access_system_roles`, with the viewer and the operator. -/
def ensureBotAccessSystemRoles (organizationId : Nat) (db : Database) :
    Except Exn (Database × (SystemRole → BotAccessRole)) := do
  let (db, viewer) ← ensureSystemRole organizationId .routeViewer db
  let (db, operator) ← ensureSystemRole organizationId .routeOperator db
  return (db, fun
    | .routeViewer => viewer
    | .routeOperator => operator)

/-! ## Roles and payloads -/

/-- `_get_org_bot_role`. -/
def getOrgBotRole (organizationId roleId : Nat) (db : Database) : Except Exn BotAccessRole :=
  match db.botRoles.find? (fun role => role.id == roleId && role.organizationId == organizationId) with
  | some role => .ok role
  | none => .error (.http 404 "Bot access role not found")

/-- `_get_system_bot_role`. -/
def getSystemBotRole (organizationId : Nat) (definition : SystemRole) (db : Database) :
    Except Exn (Database × BotAccessRole) := do
  let (db, roles) ← ensureBotAccessSystemRoles organizationId db
  return (db, roles definition)

/-- `_resolve_payload_bot_role`: nothing when no role is asked for. -/
def resolvePayloadBotRole (organizationId : Nat) (roleId : Option Nat) (role : Option String) (db : Database) :
    Except Exn (Database × Option BotAccessRole) :=
  match roleId with
  | some roleId => (getOrgBotRole organizationId roleId db).map fun role => (db, some role)
  | none =>
    if role = some "route_viewer" ∨ role = some "viewer" then
      (getSystemBotRole organizationId .routeViewer db).map fun (db, role) => (db, some role)
    else if role = some "route_operator" ∨ role = some "operator" ∨ role = some "route_manager" then
      (getSystemBotRole organizationId .routeOperator db).map fun (db, role) => (db, some role)
    else .ok (db, none)

/-- `value or default`, for a text that may be missing. -/
def textOr (value : Option String) (default : String) : String := Python.orElse (value.getD "") default

/-- `_role_label_for_grant`. -/
def roleLabelForGrant (accessRole : Option BotAccessRole) (requestedRole : Option String) : String :=
  match accessRole with
  | none => textOr requestedRole "custom"
  | some role => textOr role.systemKey "role"

/-- `_infer_bot_role`. -/
def inferBotRole (grant : BotGrant) (db : Database) : String :=
  let matchesRole := fun definition =>
    (db.systemRole grant.organizationId definition).map rolePermissions == some grant.permissions
  if matchesRole .routeViewer then "route_viewer"
  else if matchesRole .routeOperator then "route_operator"
  else "custom"

/-- What `BotAuthorizedUserCreateIn` and `BotAuthorizedGroupCreateIn` have in common. No id of a role is null or the
empty text. -/
structure BotGrantCreateIn where
  roleId : Option Nat := none
  role : String := "custom"
  isActive : Bool := true
  permissions : BotPermissions := {}

/-- The `role_id` of a PATCH. -/
inductive RoleIdField where
  | unset
  | null
  | empty
  | id (roleId : Nat)
  deriving DecidableEq, Repr

/-- The id, unless it is falsy. -/
def RoleIdField.value : RoleIdField → Option Nat
  | .id roleId => some roleId
  | .unset | .null | .empty => none

/-- What `BotAuthorizedUserUpdateIn` and `BotAuthorizedGroupUpdateIn` have in common. -/
structure BotGrantUpdateIn where
  roleId : RoleIdField := .unset
  role : Option String := none
  isActive : Option Bool := none
  permissions : BotPermission → Option Bool := fun _ => none

/-- `"role_id" in payload_data or payload.role is not None`. -/
def BotGrantUpdateIn.namesRole (payload : BotGrantUpdateIn) : Bool := payload.roleId != .unset || payload.role.isSome

/-- `permission_patch` is not empty. -/
def BotGrantUpdateIn.patchesPermissions (payload : BotGrantUpdateIn) : Bool :=
  botPermissionFields.any fun field => (payload.permissions field).isSome

/-- Every value is `None`. -/
def BotGrantUpdateIn.isEmpty (payload : BotGrantUpdateIn) : Bool :=
  (payload.roleId == .unset || payload.roleId == .null) && payload.role.isNone && payload.isActive.isNone &&
    !payload.patchesPermissions

/-- The grant that a new user or group gets. -/
def newGrant (now : Int) (organizationId : Nat) (payload : BotGrantCreateIn) (db : Database) :
    Except Exn (Database × BotGrant) := do
  let (db, accessRole) ← resolvePayloadBotRole organizationId payload.roleId (some payload.role) db
  return ({ db with nextId := db.nextId + 1 },
    { id := db.nextId
      organizationId := organizationId
      roleId := accessRole.map (·.id)
      role := roleLabelForGrant accessRole (some payload.role)
      isActive := payload.isActive
      permissions := (accessRole.map rolePermissions).getD payload.permissions
      updatedAt := now })

/-- `setattr(grant, field, value)` for the items of `permission_patch`, and the label of a grant that is not linked to a
role. -/
def applyPermissionPatch (payload : BotGrantUpdateIn) (db : Database) (grant : BotGrant) : BotGrant :=
  let patched :=
    { grant with permissions := .ofFields fun field => (payload.permissions field).getD (grant.permissions.get field) }
  if payload.patchesPermissions ∧ patched.roleId = none then { patched with role := inferBotRole patched db } else patched

/-- The grant of a user or a group that is patched. -/
def patchGrant (now : Int) (organizationId : Nat) (payload : BotGrantUpdateIn) (grant : BotGrant) (db : Database) :
    Except Exn (Database × BotGrant) := do
  let grant := { grant with isActive := payload.isActive.getD grant.isActive, updatedAt := now }
  if payload.namesRole then
    let (db, accessRole) ← resolvePayloadBotRole organizationId payload.roleId.value payload.role db
    let grant := { grant with roleId := accessRole.map (·.id), role := roleLabelForGrant accessRole payload.role }
    match accessRole with
    | some role => return (db, { grant with permissions := rolePermissions role })
    | none => return (db, applyPermissionPatch payload db grant)
  else return (db, applyPermissionPatch payload db grant)

/-- `_normalize_aad_object_id`. -/
def normalizeAadObjectId (P : Platform) (value : String) : Except Exn String :=
  let normalized := P.lower (Python.strip value)
  if normalized = "" then .error (.http 400 "AAD object ID is required") else .ok normalized

/-! ## Bot users -/

/-- `BotAuthorizedUserCreateIn`. -/
structure BotAuthorizedUserCreateIn where
  aadObjectId : String
  displayName : String
  userPrincipalName : String := ""
  grant : BotGrantCreateIn := {}

/-- `BotAuthorizedUserUpdateIn`. -/
structure BotAuthorizedUserUpdateIn where
  displayName : Option String := none
  userPrincipalName : Option String := none
  grant : BotGrantUpdateIn := {}

/-- `create_bot_authorized_user`. -/
def createBotAuthorizedUser (P : Platform) (now : Int) (organizationId : Nat) (payload : BotAuthorizedUserCreateIn)
    (db : Database) : Except Exn Database := do
  let aadObjectId ← normalizeAadObjectId P payload.aadObjectId
  if db.botUsers.any fun user => user.organizationId == organizationId && user.aadObjectId == aadObjectId then
    throw (.http 409 "A bot access user with this AAD object ID already exists")
  let (db, grant) ← newGrant now organizationId payload.grant db
  let user : BotAuthorizedUser :=
    { toBotGrant := grant
      aadObjectId := aadObjectId
      displayName := Python.strip payload.displayName
      userPrincipalName := Python.strip payload.userPrincipalName }
  return { db with botUsers := db.botUsers ++ [user] }

/-- `_get_org_bot_user`. -/
def getOrgBotUser (organizationId userId : Nat) (db : Database) : Except Exn BotAuthorizedUser :=
  match db.botUsers.find? (fun user => user.id == userId && user.organizationId == organizationId) with
  | some user => .ok user
  | none => .error (.http 404 "Bot access user not found")

/-- `update_bot_authorized_user`. -/
def updateBotAuthorizedUser (now : Int) (organizationId userId : Nat) (payload : BotAuthorizedUserUpdateIn)
    (db : Database) : Except Exn Database := do
  if payload.displayName.isNone && payload.userPrincipalName.isNone && payload.grant.isEmpty then
    throw (.http 422 "At least one field must be provided")
  let user ← getOrgBotUser organizationId userId db
  let (db, grant) ← patchGrant now organizationId payload.grant user.toBotGrant db
  let patched : BotAuthorizedUser :=
    { user with
      toBotGrant := grant
      displayName := (payload.displayName.map Python.strip).getD user.displayName
      userPrincipalName := (payload.userPrincipalName.map Python.strip).getD user.userPrincipalName }
  return { db with botUsers := Table.update (·.id == userId) (fun _ => patched) db.botUsers }

/-- `delete_bot_authorized_user`. -/
def deleteBotAuthorizedUser (organizationId userId : Nat) (db : Database) : Except Exn Database := do
  let user ← getOrgBotUser organizationId userId db
  return { db with botUsers := Table.delete (·.id == user.id) db.botUsers }

/-! ## Bot groups -/

/-- `BotAuthorizedGroupCreateIn`, with its group types as they are serialized. -/
structure BotAuthorizedGroupCreateIn where
  groupObjectId : String
  displayName : String
  mail : String := ""
  securityEnabled : Bool := false
  groupTypesJson : String := "[]"
  grant : BotGrantCreateIn := {}

/-- `BotAuthorizedGroupUpdateIn`, with its group types as they are serialized. -/
structure BotAuthorizedGroupUpdateIn where
  displayName : Option String := none
  mail : Option String := none
  securityEnabled : Option Bool := none
  groupTypesJson : Option String := none
  grant : BotGrantUpdateIn := {}

/-- `create_bot_authorized_group`. -/
def createBotAuthorizedGroup (P : Platform) (now : Int) (organizationId : Nat) (payload : BotAuthorizedGroupCreateIn)
    (db : Database) : Except Exn Database := do
  let groupObjectId ← normalizeAadObjectId P payload.groupObjectId
  if db.botGroups.any fun group => group.organizationId == organizationId && group.groupObjectId == groupObjectId then
    throw (.http 409 "A bot access group with this object ID already exists")
  let (db, grant) ← newGrant now organizationId payload.grant db
  let group : BotAuthorizedGroup :=
    { toBotGrant := grant
      groupObjectId := groupObjectId
      displayName := Python.strip payload.displayName
      mail := Python.strip payload.mail
      securityEnabled := payload.securityEnabled
      groupTypesJson := payload.groupTypesJson }
  return { db with botGroups := db.botGroups ++ [group] }

/-- `_get_org_bot_group`. -/
def getOrgBotGroup (organizationId groupId : Nat) (db : Database) : Except Exn BotAuthorizedGroup :=
  match db.botGroups.find? (fun group => group.id == groupId && group.organizationId == organizationId) with
  | some group => .ok group
  | none => .error (.http 404 "Bot access group not found")

/-- `update_bot_authorized_group`. -/
def updateBotAuthorizedGroup (now : Int) (organizationId groupId : Nat) (payload : BotAuthorizedGroupUpdateIn)
    (db : Database) : Except Exn Database := do
  if payload.displayName.isNone && payload.mail.isNone && payload.securityEnabled.isNone &&
      payload.groupTypesJson.isNone && payload.grant.isEmpty then
    throw (.http 422 "At least one field must be provided")
  let group ← getOrgBotGroup organizationId groupId db
  let (db, grant) ← patchGrant now organizationId payload.grant group.toBotGrant db
  let patched : BotAuthorizedGroup :=
    { group with
      toBotGrant := grant
      displayName := (payload.displayName.map Python.strip).getD group.displayName
      mail := (payload.mail.map Python.strip).getD group.mail
      securityEnabled := payload.securityEnabled.getD group.securityEnabled
      groupTypesJson := payload.groupTypesJson.getD group.groupTypesJson }
  return { db with botGroups := Table.update (·.id == groupId) (fun _ => patched) db.botGroups }

/-- `delete_bot_authorized_group`. -/
def deleteBotAuthorizedGroup (organizationId groupId : Nat) (db : Database) : Except Exn Database := do
  let group ← getOrgBotGroup organizationId groupId db
  return { db with botGroups := Table.delete (·.id == group.id) db.botGroups }

/-! ## Bot roles -/

/-- `BotAccessRoleCreateIn`. -/
structure BotAccessRoleCreateIn where
  name : String
  description : String := ""
  permissions : BotPermissions := {}

/-- `BotAccessRoleUpdateIn`. -/
structure BotAccessRoleUpdateIn where
  name : Option String := none
  description : Option String := none
  permissions : BotPermission → Option Bool := fun _ => none

/-- `_ensure_bot_role_name_available`, and then the constraint on the names: it compares them as they are. -/
def ensureBotRoleNameAvailable (P : Platform) (organizationId : Nat) (name : String) (existingRoleId : Option Nat)
    (db : Database) : Except Exn Unit :=
  let normalized := Python.strip name
  if normalized = "" then .error (.http 400 "Bot access role name is required")
  else
    match db.botRoles.find? fun role => role.organizationId == organizationId &&
        P.sqlLower role.name == P.lower normalized with
    | some existing =>
      if some existing.id ≠ existingRoleId then .error (.http 409 "A bot access role with this name already exists")
      else if db.roleNameTaken organizationId normalized existingRoleId then .error .integrityError
      else .ok ()
    | none => if db.roleNameTaken organizationId normalized existingRoleId then .error .integrityError else .ok ()

/-- `create_bot_access_role`. -/
def createBotAccessRole (P : Platform) (organizationId : Nat) (payload : BotAccessRoleCreateIn) (db : Database) :
    Except Exn Database := do
  ensureBotRoleNameAvailable P organizationId payload.name none db
  let role : BotAccessRole :=
    { id := db.nextId
      organizationId := organizationId
      name := Python.strip payload.name
      description := Python.strip payload.description
      permissions := payload.permissions }
  return { db with botRoles := db.botRoles ++ [role], nextId := db.nextId + 1 }

/-- A linked grant as `_sync_linked_bot_role_grants` leaves it. -/
def syncedGrant (now : Int) (role : BotAccessRole) (grant : BotGrant) : BotGrant :=
  { grant with permissions := rolePermissions role, role := roleLabelForGrant (some role) none, updatedAt := now }

/-- `_sync_linked_bot_role_grants`. -/
def syncLinkedBotRoleGrants (now : Int) (role : BotAccessRole) (db : Database) : Database :=
  { db with
    botUsers :=
      Table.update (·.roleId == some role.id) (fun user =>
        { user with toBotGrant := syncedGrant now role user.toBotGrant })
      db.botUsers
    botGroups :=
      Table.update (·.roleId == some role.id) (fun group =>
        { group with toBotGrant := syncedGrant now role group.toBotGrant })
      db.botGroups }

/-- `update_bot_access_role`. -/
def updateBotAccessRole (P : Platform) (now : Int) (organizationId roleId : Nat) (payload : BotAccessRoleUpdateIn)
    (db : Database) : Except Exn Database := do
  if payload.name.isNone && payload.description.isNone && botPermissionFields.all fun field =>
    (payload.permissions field).isNone then
    throw (.http 422 "At least one field must be provided")
  let role ← getOrgBotRole organizationId roleId db
  match payload.name with
  | some name => ensureBotRoleNameAvailable P organizationId name (some role.id) db
  | none => pure ()
  let patched : BotAccessRole :=
    { role with
      name := (payload.name.map Python.strip).getD role.name
      description := (payload.description.map Python.strip).getD role.description
      permissions := .ofFields fun field => (payload.permissions field).getD (role.permissions.get field) }
  return syncLinkedBotRoleGrants now patched
    { db with botRoles := Table.update (·.id == role.id) (fun _ => patched) db.botRoles }

/-- `delete_bot_access_role`. -/
def deleteBotAccessRole (organizationId roleId : Nat) (db : Database) : Except Exn Database := do
  let role ← getOrgBotRole organizationId roleId db
  if role.isSystem then throw (.http 409 "System bot access roles cannot be deleted")
  if (db.botUsers.any (·.roleId == some role.id)) || db.botGroups.any (·.roleId == some role.id) then
    throw (.http 409 "Bot access role is still assigned")
  return { db with botRoles := Table.delete (·.id == role.id) db.botRoles }

/-! ## Backfilling -/

/-- The loop of `_backfill_bot_access_role_assignments` of `routers/admin.py`, for one grant. -/
def backfillGrant (now : Int) (roles : SystemRole → BotAccessRole) (grant : BotGrant) : BotGrant :=
  let viewer := roles .routeViewer
  let operator := roles .routeOperator
  if grant.role = "custom" then grant
  else if (grant.role = "viewer" ∨ grant.role = "route_viewer") ∧ grant.permissions = rolePermissions viewer then
    { grant with roleId := some viewer.id, role := textOr viewer.systemKey "route_viewer", updatedAt := now }
  else if (grant.role = "operator" ∨ grant.role = "route_operator" ∨ grant.role = "route_manager") ∧
      grant.permissions = rolePermissions operator then
    { grant with roleId := some operator.id, role := textOr operator.systemKey "route_operator", updatedAt := now }
  else if grant.role = "viewer" ∨ grant.role = "operator" ∨ grant.role = "route_manager" then
    { grant with role := "custom", updatedAt := now }
  else grant

/-- The grants of an organization that are not linked to a role. -/
def BotGrant.toBackfill (organizationId : Nat) (grant : BotGrant) : Bool :=
  grant.organizationId == organizationId && grant.roleId == none

/-- Change the grants of an organization that are not linked to a role. -/
def Database.backfill (organizationId : Nat) (f : BotGrant → BotGrant) (db : Database) : Database :=
  { db with
    botUsers :=
      Table.update (·.toBackfill organizationId) (fun user => { user with toBotGrant := f user.toBotGrant }) db.botUsers
    botGroups := Table.update (·.toBackfill organizationId) (fun group =>
      { group with toBotGrant := f group.toBotGrant }) db.botGroups }

/-- `_backfill_bot_access_role_assignments` of `routers/admin.py`. -/
def backfillBotAccessRoleAssignments (now : Int) (organizationId : Nat) (db : Database) : Except Exn Database := do
  let (db, roles) ← ensureBotAccessSystemRoles organizationId db
  return db.backfill organizationId (backfillGrant now roles)

/-- `list_bot_access_roles`. -/
def listBotAccessRoles (organizationId : Nat) (db : Database) : Except Exn Database :=
  (ensureBotAccessSystemRoles organizationId db).map Prod.fst

/-- `list_bot_authorized_users` and `list_bot_authorized_groups`, which change the same. -/
def listBotGrants (now : Int) (organizationId : Nat) (db : Database) : Except Exn Database := do
  let (db, _) ← ensureBotAccessSystemRoles organizationId db
  backfillBotAccessRoleAssignments now organizationId db

/-- The inner loop of `_backfill_bot_access_role_assignments` of `seed.py`, for one grant: its label and its
permissions, which are those of the fields that the operator has, decide. -/
def seedGrant (now : Int) (viewer operator : BotAccessRole) (grant : BotGrant) : BotGrant :=
  if grant.role = "custom" then grant
  else
    let permissions := BotPermissions.ofFields fun field => grant.permissions.get field
    if ["viewer", "route_viewer"].contains grant.role && permissions == rolePermissions viewer then
      { grant with roleId := some viewer.id, role := textOr viewer.systemKey "route_viewer", updatedAt := now }
    else if ["operator", "route_operator", "route_manager"].contains grant.role &&
      permissions == rolePermissions operator then
      { grant with roleId := some operator.id, role := textOr operator.systemKey "route_operator", updatedAt := now }
    else if ["viewer", "operator", "route_manager"].contains grant.role then
      { grant with role := "custom", updatedAt := now }
    else grant

/-- `_ensure_bot_access_roles_for_organizations` of `seed.py`. -/
def ensureBotAccessRolesForOrganizations (db : Database) : Except Exn Database :=
  (db.organizations.map (·.id)).foldlM (fun db organizationId =>
    (ensureBotAccessSystemRoles organizationId db).map Prod.fst) db

/-- `_backfill_bot_access_role_assignments` of `seed.py`. -/
def seedBackfill (now : Int) (db : Database) : Except Exn Database :=
  (db.organizations.map (·.id)).foldlM (fun db organizationId => do
    let (db, roles) ← ensureBotAccessSystemRoles organizationId db
    return db.backfill organizationId (seedGrant now (roles .routeViewer) (roles .routeOperator))) db

/-- The end of `init_db`. -/
def seedBotAccess (s : Settings) (now : Int) (db : Database) : Except Exn Database := do
  let db ← ensureBotAccessRolesForOrganizations (defaultOrganization s db).1
  seedBackfill now db

/-! ## Histories -/

/-- What a history of bot access is made of, each with the organization of its admin. -/
inductive BotAccessStep where
  | listRoles (organizationId : Nat)
  | createRole (organizationId : Nat) (payload : BotAccessRoleCreateIn)
  | updateRole (now : Int) (organizationId roleId : Nat) (payload : BotAccessRoleUpdateIn)
  | deleteRole (organizationId roleId : Nat)
  | listGrants (now : Int) (organizationId : Nat)
  | createUser (now : Int) (organizationId : Nat) (payload : BotAuthorizedUserCreateIn)
  | updateUser (now : Int) (organizationId userId : Nat) (payload : BotAuthorizedUserUpdateIn)
  | deleteUser (organizationId userId : Nat)
  | createGroup (now : Int) (organizationId : Nat) (payload : BotAuthorizedGroupCreateIn)
  | updateGroup (now : Int) (organizationId groupId : Nat) (payload : BotAuthorizedGroupUpdateIn)
  | deleteGroup (organizationId groupId : Nat)
  | startup (s : Settings) (now : Int)

/-- What a step commits, or the exception it ends in. -/
def runBotAccessStep (P : Platform) (db : Database) : BotAccessStep → Except Exn Database
  | .listRoles organizationId => listBotAccessRoles organizationId db
  | .createRole organizationId payload => createBotAccessRole P organizationId payload db
  | .updateRole now organizationId roleId payload => updateBotAccessRole P now organizationId roleId payload db
  | .deleteRole organizationId roleId => deleteBotAccessRole organizationId roleId db
  | .listGrants now organizationId => listBotGrants now organizationId db
  | .createUser now organizationId payload => createBotAuthorizedUser P now organizationId payload db
  | .updateUser now organizationId userId payload => updateBotAuthorizedUser now organizationId userId payload db
  | .deleteUser organizationId userId => deleteBotAuthorizedUser organizationId userId db
  | .createGroup now organizationId payload => createBotAuthorizedGroup P now organizationId payload db
  | .updateGroup now organizationId groupId payload => updateBotAuthorizedGroup now organizationId groupId payload db
  | .deleteGroup organizationId groupId => deleteBotAuthorizedGroup organizationId groupId db
  | .startup s now => seedBotAccess s now db

/-- One step of a history. -/
def botAccessStep (P : Platform) (db : Database) (step : BotAccessStep) : Option Database :=
  some (committed db (runBotAccessStep P db step))

end TeamsRehook
