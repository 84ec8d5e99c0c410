import TeamsRehook.Lemmas.AccessRoles
import TeamsRehook.Lib.Transition

/-!
# Displayed and enforced permissions

The columns of a grant that is linked to a role are those of the role in every state that is reached without a PATCH
that changes permissions of a linked grant and names no role: such a PATCH writes the columns of the grant and leaves
the role.
-/

namespace TeamsRehook

open Transition

/-- A PATCH that changes no permission of a grant that stays linked as it is: it names a role, or the grant is not
linked, or each value it gives is the one the grant has. -/
def BotGrantUpdateIn.KeepsLinked (payload : BotGrantUpdateIn) (grant : BotGrant) : Prop :=
  payload.namesRole = true ∨ grant.roleId = none ∨
    ∀ field value, payload.permissions field = some value → grant.permissions.get field = value

/-- The patches of a step change no permission of a grant that stays linked. -/
def PatchesKeepLinked (db : Database) : BotAccessStep → Prop
  | .updateUser _ organizationId userId payload =>
    ∀ user, getOrgBotUser organizationId userId db = .ok user → payload.grant.KeepsLinked user.toBotGrant
  | .updateGroup _ organizationId groupId payload =>
    ∀ group, getOrgBotGroup organizationId groupId db = .ok group → payload.grant.KeepsLinked group.toBotGrant
  | _ => True

/-- What the admin API reports of a grant is what is enforced for it; and a grant that is linked has the permissions of
its role. -/
def PermissionsAgree (db : Database) : Prop :=
  ∀ grant ∈ db.grants, grant.permissions = effectiveBotPermissions db.botRoles grant ∧
    ∀ roleId, grant.roleId = some roleId → ∃ role ∈ db.botRoles, role.id = roleId ∧
    grant.permissions = rolePermissions role

/-- The permissions that a PATCH gives are enforced for the grant, unless the PATCH links it to the role that it names. -/
def PatchEnforced (db : Database) (payload : BotGrantUpdateIn) (grant : BotGrant) : Prop :=
  (payload.namesRole = true ∧ grant.roleId ≠ none) ∨
    ∀ field value, payload.permissions field = some value → (effectiveBotPermissions db.botRoles grant).get field = value

/-- What an accepted PATCH gives is enforced, when it changes no permission of a grant that stays linked. -/
def PatchesEnforced (db : Database) : Prop :=
  (∀ now organizationId userId payload db', PatchesKeepLinked db (.updateUser now organizationId userId payload) →
    updateBotAuthorizedUser now organizationId userId payload db = .ok db' →
    ∀ user ∈ db'.botUsers, user.id = userId → PatchEnforced db' payload.grant user.toBotGrant) ∧
  ∀ now organizationId groupId payload db', PatchesKeepLinked db (.updateGroup now organizationId groupId payload) →
    updateBotAuthorizedGroup now organizationId groupId payload db = .ok db' →
    ∀ group ∈ db'.botGroups, group.id = groupId → PatchEnforced db' payload.grant group.toBotGrant

/-- Tables in sync: what is reported of their grants is enforced, and the ids of the roles are different and were drawn.
-/
structure GrantsInSync (db : Database) : Prop where
  ids : RoleIds db
  agree : PermissionsAgree db

/-- Tables of a new installation: nobody is granted anything and there are no roles. -/
structure NoBotAccess (db : Database) : Prop where
  roles : db.botRoles = []
  users : db.botUsers = []
  groups : db.botGroups = []

namespace DisplayedPermissionsAux

variable {db db' : Database} {organizationId : Nat} {grant : BotGrant} {P : Platform} {now : Int}

/-- A grant that is linked has the permissions of a role with the id. -/
def Linked (db : Database) (grant : BotGrant) : Prop :=
  ∀ roleId, grant.roleId = some roleId → db.HasRole roleId grant.permissions

/-- The invariant: every linked grant has the permissions of its role. -/
structure InSync (db : Database) : Prop where
  ids : RoleIds db
  users : ∀ user ∈ db.botUsers, Linked db user.toBotGrant
  groups : ∀ group ∈ db.botGroups, Linked db group.toBotGrant

/-- Users and groups alike are linked to roles with their permissions. -/
theorem InSync.grants (h : InSync db) : ∀ grant ∈ db.grants, Linked db grant := by
  intro grant hgrant
  rcases List.mem_append.1 hgrant with hgrant | hgrant
  · obtain ⟨user, huser, rfl⟩ := List.mem_map.1 hgrant
    exact h.users user huser
  · obtain ⟨group, hgroup, rfl⟩ := List.mem_map.1 hgrant
    exact h.groups group hgroup

/-- The invariant gives what is claimed. -/
theorem InSync.permissionsAgree (h : InSync db) : PermissionsAgree db := by
  intro grant hgrant
  have hlinked := h.grants grant hgrant
  refine ⟨?_, fun roleId hroleId => ?_⟩
  · cases hroleId : grant.roleId with
    | none => exact (effectiveBotPermissions_unlinked hroleId).symm
    | some roleId => exact (h.ids.accessRole hroleId (hlinked roleId hroleId)).symm
  · obtain ⟨role, hmem, hid, hpermissions⟩ := hlinked roleId hroleId
    exact ⟨role, hmem, hid, hpermissions.symm⟩

/-- There is nothing to ask of a grant without a role. -/
theorem Linked.of_unlinked (h : grant.roleId = none) : Linked db grant := fun _ hroleId => nomatch h.symm.trans hroleId

/-- A grant stays linked when roles are kept. -/
theorem Linked.mono (h : Linked db grant) (hroles : ∀ {roleId permissions}, db.HasRole roleId permissions →
    db'.HasRole roleId permissions) : Linked db' grant :=
  fun roleId hroleId => hroles (h roleId hroleId)

/-- Tables in which no role has lost anything stay in sync. -/
theorem InSync.rolesKept (h : InSync db) (hkept : RolesKept db db') : InSync db' where
  ids := hkept.ids h.ids
  users user huser := (h.users user (hkept.users ▸ huser)).mono hkept.roles
  groups group hgroup := (h.groups group (hkept.groups ▸ hgroup)).mono hkept.roles

/-! ## Grants -/

/-- The system role that a payload names is there. -/
theorem payloadSystemRole_spec {definition : SystemRole} {accessRole : Option BotAccessRole}
    (h : ((getSystemBotRole organizationId definition db).map fun (db, role) => (db, some role)) =
      .ok (db', accessRole)) :
    RolesKept db db' ∧ ∀ role, accessRole = some role → db'.HasRole role.id (rolePermissions role) := by
  obtain ⟨⟨db₁, role⟩, hrole, heq⟩ := Except.map_eq_ok_iff.1 h
  cases heq
  obtain ⟨⟨db₂, roles⟩, hroles, heq⟩ := Except.bind_eq_ok_iff.1 hrole
  cases heq
  obtain ⟨hkept, hhas, -⟩ := ensureBotAccessSystemRoles_spec hroles
  refine ⟨hkept, fun role hrole => ?_⟩
  cases hrole
  exact (hhas definition).hasRole

/-- The role that a payload asks for is there. -/
theorem resolvePayloadBotRole_spec {roleId : Option Nat} {role : Option String} {accessRole : Option BotAccessRole}
    (h : resolvePayloadBotRole organizationId roleId role db = .ok (db', accessRole)) :
    RolesKept db db' ∧ ∀ role, accessRole = some role → db'.HasRole role.id (rolePermissions role) := by
  unfold resolvePayloadBotRole at h
  split at h
  next roleId =>
    obtain ⟨role, hrole, heq⟩ := Except.map_eq_ok_iff.1 h
    cases heq
    refine ⟨.refl db, fun role hsome => ?_⟩
    cases hsome
    unfold getOrgBotRole at hrole
    split at hrole
    next hfound =>
      cases hrole
      exact ⟨role, List.mem_of_find?_eq_some hfound, rfl, rfl⟩
    next => cases hrole
  next =>
    split at h
    · exact payloadSystemRole_spec h
    · split at h
      · exact payloadSystemRole_spec h
      · cases h
        exact ⟨.refl db, fun role hrole => by cases hrole⟩

/-- A new grant is linked. -/
theorem newGrant_spec {payload : BotGrantCreateIn} (h : newGrant now organizationId payload db = .ok (db', grant)) :
    RolesKept db db' ∧ Linked db' grant := by
  obtain ⟨⟨db₁, accessRole⟩, hrole, heq⟩ := Except.bind_eq_ok_iff.1 h
  cases heq
  obtain ⟨hkept, hhas⟩ := resolvePayloadBotRole_spec hrole
  have hnext : RolesKept db₁ { db₁ with nextId := db₁.nextId + 1 } :=
    ⟨rfl, rfl, rfl, Nat.le_succ _, fun h => ⟨h.unique, fun role hrole => Nat.lt_succ_of_lt (h.drawn role hrole)⟩, id⟩
  refine ⟨hkept.trans hnext, fun roleId hroleId => ?_⟩
  obtain ⟨role, rfl, rfl⟩ := Option.map_eq_some_iff.1 hroleId
  exact hhas role rfl

/-- A permission patch does not change the link. -/
theorem applyPermissionPatch_roleId (payload : BotGrantUpdateIn) (db : Database) (grant : BotGrant) :
    (applyPermissionPatch payload db grant).roleId = grant.roleId := by
  unfold applyPermissionPatch
  dsimp only
  split <;> rfl

/-- A permission is patched with the value that is given for it. -/
theorem applyPermissionPatch_get (payload : BotGrantUpdateIn) (db : Database) (grant : BotGrant) (field : BotPermission) :
    (applyPermissionPatch payload db grant).permissions.get field = (payload.permissions field).getD
      (grant.permissions.get field) := by
  have hget : ∀ f : BotPermission → Bool, (BotPermissions.ofFields f).get field = f field :=
    fun f => BotPermissions.get_ofFields f field
  unfold applyPermissionPatch
  dsimp only
  split <;> exact hget _

/-- A patch with the permissions that the grant has does not change them. -/
theorem applyPermissionPatch_permissions {payload : BotGrantUpdateIn}
    (h : ∀ field value, payload.permissions field = some value → grant.permissions.get field = value) (db : Database) :
    (applyPermissionPatch payload db grant).permissions = grant.permissions := by
  refine BotPermissions.ext_get fun field => ?_
  rw [applyPermissionPatch_get]
  cases hvalue : payload.permissions field with
  | none => rfl
  | some value => exact (h field value hvalue).symm

/-- What a PATCH of a grant does: it links it to a role with the permissions of the role, or unlinks it, or changes its
permissions. -/
theorem patchGrant_cases {payload : BotGrantUpdateIn} {patched : BotGrant}
    (h : patchGrant now organizationId payload grant db = .ok (db', patched)) :
    (payload.namesRole = true ∧ RolesKept db db' ∧
      ((∃ role, db'.HasRole role.id (rolePermissions role) ∧ patched.roleId = some role.id ∧
        patched.permissions = rolePermissions role) ∨
        ∃ unlinked, unlinked.roleId = none ∧ unlinked.permissions = grant.permissions ∧
          patched = applyPermissionPatch payload db' unlinked)) ∨
    (payload.namesRole = false ∧ db' = db ∧ ∃ same, same.roleId = grant.roleId ∧ same.permissions = grant.permissions ∧
      patched = applyPermissionPatch payload db same) := by
  unfold patchGrant at h
  dsimp only at h
  split at h
  next hnames =>
    obtain ⟨⟨db₁, accessRole⟩, hrole, h⟩ := Except.bind_eq_ok_iff.1 h
    obtain ⟨hkept, hhas⟩ := resolvePayloadBotRole_spec hrole
    refine .inl ⟨hnames, ?_⟩
    cases accessRole with
    | some role =>
      cases h
      exact ⟨hkept, .inl ⟨role, hhas role rfl, rfl, rfl⟩⟩
    | none =>
      cases h
      refine ⟨hkept, .inr ⟨_, ?_, ?_, rfl⟩⟩ <;> rfl
  next hnames =>
    cases h
    refine .inr ⟨Bool.eq_false_of_not_eq_true hnames, rfl, _, ?_, ?_, rfl⟩ <;> rfl

/-- A patched grant is linked, unless the PATCH changes permissions of a grant that stays linked. -/
theorem patchGrant_spec {payload : BotGrantUpdateIn} {patched : BotGrant} (hlinked : Linked db grant)
    (hkeeps : payload.KeepsLinked grant) (h : patchGrant now organizationId payload grant db = .ok (db', patched)) :
    RolesKept db db' ∧ Linked db' patched := by
  rcases patchGrant_cases h with
    ⟨-, hkept, ⟨role, hrole, hroleId, hpermissions⟩ | ⟨unlinked, hnone, -, rfl⟩⟩ | ⟨hnames, rfl, same, hroleId,
      hpermissions, rfl⟩
  · refine ⟨hkept, fun roleId hsome => ?_⟩
    rw [hroleId] at hsome
    cases hsome
    exact hpermissions ▸ hrole
  · exact ⟨hkept, .of_unlinked ((applyPermissionPatch_roleId _ _ _).trans hnone)⟩
  · refine ⟨.refl db', fun roleId hsome => ?_⟩
    rw [applyPermissionPatch_roleId, hroleId] at hsome
    rcases hkeeps with hnamed | hunlinked | hvalues
    · exact absurd (hnames.symm.trans hnamed) Bool.false_ne_true
    · exact nomatch hunlinked.symm.trans hsome
    · rw [applyPermissionPatch_permissions (hpermissions ▸ hvalues), hpermissions]
      exact hlinked roleId hsome

/-! ## Steps -/

/-- The invariant is kept when roles are, and every user and group is linked. -/
theorem InSync.ofRolesKept (h : InSync db) (hkept : RolesKept db db') {users : List BotAuthorizedUser}
    {groups : List BotAuthorizedGroup} (husers : ∀ user ∈ users, user ∈ db.botUsers ∨ Linked db' user.toBotGrant)
    (hgroups : ∀ group ∈ groups, group ∈ db.botGroups ∨ Linked db' group.toBotGrant) :
    InSync { db' with botUsers := users, botGroups := groups } where
  ids := ⟨(hkept.ids h.ids).unique, (hkept.ids h.ids).drawn⟩
  users user huser := by
    rcases husers user huser with hold | hlinked
    · exact (h.users user hold).mono hkept.roles
    · exact hlinked
  groups group hgroup := by
    rcases hgroups group hgroup with hold | hlinked
    · exact (h.groups group hold).mono hkept.roles
    · exact hlinked

/-- A new user is in sync. -/
theorem inSync_createBotAuthorizedUser {payload : BotAuthorizedUserCreateIn} (h : InSync db)
    (hcreate : createBotAuthorizedUser P now organizationId payload db = .ok db') : InSync db' := by
  obtain ⟨aadObjectId, -, hcreate⟩ := Except.bind_eq_ok_iff.1 hcreate
  split at hcreate
  next => nomatch hcreate
  next =>
    obtain ⟨⟨db₁, grant⟩, hgrant, heq⟩ := Except.bind_eq_ok_iff.1 hcreate
    cases heq
    obtain ⟨hkept, hlinked⟩ := newGrant_spec hgrant
    refine h.ofRolesKept hkept (fun user huser => ?_) fun group hgroup => .inl (hkept.groups ▸ hgroup)
    rcases List.mem_append.1 huser with hold | hnew
    · exact .inl (hkept.users ▸ hold)
    · rw [List.mem_singleton.1 hnew]
      exact .inr hlinked

/-- A new group is in sync. -/
theorem inSync_createBotAuthorizedGroup {payload : BotAuthorizedGroupCreateIn} (h : InSync db)
    (hcreate : createBotAuthorizedGroup P now organizationId payload db = .ok db') : InSync db' := by
  obtain ⟨groupObjectId, -, hcreate⟩ := Except.bind_eq_ok_iff.1 hcreate
  split at hcreate
  next => nomatch hcreate
  next =>
    obtain ⟨⟨db₁, grant⟩, hgrant, heq⟩ := Except.bind_eq_ok_iff.1 hcreate
    cases heq
    obtain ⟨hkept, hlinked⟩ := newGrant_spec hgrant
    refine h.ofRolesKept hkept (fun user huser => .inl (hkept.users ▸ huser)) fun group hgroup => ?_
    rcases List.mem_append.1 hgroup with hold | hnew
    · exact .inl (hkept.groups ▸ hold)
    · rw [List.mem_singleton.1 hnew]
      exact .inr hlinked

/-- A user that is found is in the table. -/
theorem getOrgBotUser_mem {userId : Nat} {user : BotAuthorizedUser}
    (h : getOrgBotUser organizationId userId db = .ok user) : user ∈ db.botUsers := by
  unfold getOrgBotUser at h
  split at h
  next hfound => exact Except.ok.inj h ▸ List.mem_of_find?_eq_some hfound
  next => nomatch h

/-- A group that is found is in the table. -/
theorem getOrgBotGroup_mem {groupId : Nat} {group : BotAuthorizedGroup}
    (h : getOrgBotGroup organizationId groupId db = .ok group) : group ∈ db.botGroups := by
  unfold getOrgBotGroup at h
  split at h
  next hfound => exact Except.ok.inj h ▸ List.mem_of_find?_eq_some hfound
  next => nomatch h

/-- What an accepted PATCH of a user commits. -/
theorem updateBotAuthorizedUser_eq_ok {userId : Nat} {payload : BotAuthorizedUserUpdateIn}
    (h : updateBotAuthorizedUser now organizationId userId payload db = .ok db') :
    ∃ user db₁ patched, getOrgBotUser organizationId userId db = .ok user ∧
      patchGrant now organizationId payload.grant user.toBotGrant db = .ok (db₁, patched.toBotGrant) ∧
      db' = { db₁ with botUsers := Table.update (·.id == userId) (fun _ => patched) db₁.botUsers } := by
  unfold updateBotAuthorizedUser at h
  split at h
  next => nomatch h
  next =>
    obtain ⟨user, huser, h⟩ := Except.bind_eq_ok_iff.1 h
    obtain ⟨⟨db₁, grant⟩, hgrant, h⟩ := Except.bind_eq_ok_iff.1 h
    cases h
    exact ⟨user, db₁, { user with toBotGrant := grant, displayName := _, userPrincipalName := _ }, huser, hgrant, rfl⟩

/-- What an accepted PATCH of a group commits. -/
theorem updateBotAuthorizedGroup_eq_ok {groupId : Nat} {payload : BotAuthorizedGroupUpdateIn}
    (h : updateBotAuthorizedGroup now organizationId groupId payload db = .ok db') :
    ∃ group db₁ patched, getOrgBotGroup organizationId groupId db = .ok group ∧
      patchGrant now organizationId payload.grant group.toBotGrant db = .ok (db₁, patched.toBotGrant) ∧
      db' = { db₁ with botGroups := Table.update (·.id == groupId) (fun _ => patched) db₁.botGroups } := by
  unfold updateBotAuthorizedGroup at h
  split at h
  next => nomatch h
  next =>
    obtain ⟨group, hgroup, h⟩ := Except.bind_eq_ok_iff.1 h
    obtain ⟨⟨db₁, grant⟩, hgrant, h⟩ := Except.bind_eq_ok_iff.1 h
    cases h
    exact ⟨group, db₁,
      { group with toBotGrant := grant, displayName := _, mail := _, securityEnabled := _, groupTypesJson := _ },
      hgroup, hgrant, rfl⟩

/-- A PATCH of a user that keeps linked permissions keeps the tables in sync. -/
theorem inSync_updateBotAuthorizedUser {userId : Nat} {payload : BotAuthorizedUserUpdateIn} (h : InSync db)
    (hkeeps : ∀ user, getOrgBotUser organizationId userId db = .ok user → payload.grant.KeepsLinked user.toBotGrant)
    (hupdate : updateBotAuthorizedUser now organizationId userId payload db = .ok db') : InSync db' := by
  obtain ⟨user, db₁, patched, huser, hgrant, rfl⟩ := updateBotAuthorizedUser_eq_ok hupdate
  obtain ⟨hkept, hlinked⟩ := patchGrant_spec (h.users user (getOrgBotUser_mem huser)) (hkeeps user huser) hgrant
  refine h.ofRolesKept hkept (fun updated hupdated => ?_) fun group hgroup => .inl (hkept.groups ▸ hgroup)
  obtain ⟨row, hrow, rfl⟩ := Table.mem_update.1 hupdated
  split
  · exact .inr hlinked
  · exact .inl (hkept.users ▸ hrow)

/-- A PATCH of a group that keeps linked permissions keeps the tables in sync. -/
theorem inSync_updateBotAuthorizedGroup {groupId : Nat} {payload : BotAuthorizedGroupUpdateIn} (h : InSync db)
    (hkeeps : ∀ group, getOrgBotGroup organizationId groupId db = .ok group → payload.grant.KeepsLinked group.toBotGrant)
    (hupdate : updateBotAuthorizedGroup now organizationId groupId payload db = .ok db') : InSync db' := by
  obtain ⟨group, db₁, patched, hgroup, hgrant, rfl⟩ := updateBotAuthorizedGroup_eq_ok hupdate
  obtain ⟨hkept, hlinked⟩ := patchGrant_spec (h.groups group (getOrgBotGroup_mem hgroup)) (hkeeps group hgroup) hgrant
  refine h.ofRolesKept hkept (fun user huser => .inl (hkept.users ▸ huser)) fun updated hupdated => ?_
  obtain ⟨row, hrow, rfl⟩ := Table.mem_update.1 hupdated
  split
  · exact .inr hlinked
  · exact .inl (hkept.groups ▸ hrow)

/-- The deletion of a user keeps the tables in sync. -/
theorem inSync_deleteBotAuthorizedUser {userId : Nat} (h : InSync db)
    (hdelete : deleteBotAuthorizedUser organizationId userId db = .ok db') : InSync db' := by
  obtain ⟨user, -, heq⟩ := Except.bind_eq_ok_iff.1 hdelete
  cases heq
  exact h.ofRolesKept (.refl db) (fun row hrow => .inl (Table.mem_delete.1 hrow).1) fun row hrow => .inl hrow

/-- The deletion of a group keeps the tables in sync. -/
theorem inSync_deleteBotAuthorizedGroup {groupId : Nat} (h : InSync db)
    (hdelete : deleteBotAuthorizedGroup organizationId groupId db = .ok db') : InSync db' := by
  obtain ⟨group, -, heq⟩ := Except.bind_eq_ok_iff.1 hdelete
  cases heq
  exact h.ofRolesKept (.refl db) (fun row hrow => .inl hrow) fun row hrow => .inl (Table.mem_delete.1 hrow).1

/-- A new role keeps the tables in sync. -/
theorem inSync_createBotAccessRole {payload : BotAccessRoleCreateIn} (h : InSync db)
    (hcreate : createBotAccessRole P organizationId payload db = .ok db') : InSync db' := by
  obtain ⟨-, -, heq⟩ := Except.bind_eq_ok_iff.1 hcreate
  cases heq
  exact h.rolesKept (rolesKept_addRole db _ rfl)

/-- What an accepted PATCH of a role commits. -/
theorem updateBotAccessRole_eq_ok {roleId : Nat} {payload : BotAccessRoleUpdateIn}
    (h : updateBotAccessRole P now organizationId roleId payload db = .ok db') :
    ∃ patched : BotAccessRole, db' = syncLinkedBotRoleGrants now patched
      { db with botRoles := Table.update (·.id == patched.id) (fun _ => patched) db.botRoles } := by
  unfold updateBotAccessRole at h
  dsimp only at h
  split at h
  next => nomatch h
  next =>
    obtain ⟨role, -, h⟩ := Except.bind_eq_ok_iff.1 h
    split at h
    next =>
      obtain ⟨-, -, h⟩ := Except.bind_eq_ok_iff.1 h
      cases h
      exact ⟨_, rfl⟩
    next =>
      cases h
      exact ⟨_, rfl⟩

/-- A role is patched together with the grants that are linked to it. -/
theorem inSync_updateBotAccessRole {roleId : Nat} {payload : BotAccessRoleUpdateIn} (h : InSync db)
    (hupdate : updateBotAccessRole P now organizationId roleId payload db = .ok db') : InSync db' := by
  obtain ⟨patched, rfl⟩ := updateBotAccessRole_eq_ok hupdate
  have hsynced : ∀ grant, Linked db grant → grant.roleId = some patched.id → Linked (syncLinkedBotRoleGrants now patched
      { db with botRoles := Table.update (·.id == patched.id) (fun _ => patched) db.botRoles })
      (syncedGrant now patched grant) := by
    intro grant hlinked hid roleId hroleId
    cases hid.symm.trans hroleId
    obtain ⟨role, hmem, hid, -⟩ := hlinked patched.id hroleId
    exact ⟨patched, Table.mem_update_of_pos (f := fun _ => patched) hmem (beq_iff_eq.2 hid), rfl, rfl⟩
  have hother : ∀ grant, Linked db grant → grant.roleId ≠ some patched.id → Linked (syncLinkedBotRoleGrants now patched
      { db with botRoles := Table.update (·.id == patched.id) (fun _ => patched) db.botRoles }) grant := by
    intro grant hlinked hne roleId hroleId
    obtain ⟨role, hmem, hid, hpermissions⟩ := hlinked roleId hroleId
    refine ⟨role, Table.mem_update_of_not hmem (beq_eq_false_iff_ne.2 fun hsame => hne ?_), hid, hpermissions⟩
    rw [hroleId, ← hid, hsame]
  constructor
  · refine ⟨Table.uniqueOn_update_of_mem h.ids.unique fun row _ hrow => (beq_iff_eq.1 hrow).symm, fun role hrole => ?_⟩
    obtain ⟨row, hrow, rfl⟩ := Table.mem_update.1 hrole
    split
    next hid => exact beq_iff_eq.1 hid ▸ h.ids.drawn row hrow
    next => exact h.ids.drawn row hrow
  · intro user huser
    obtain ⟨row, hrow, rfl⟩ := Table.mem_update.1 huser
    split
    next hid => exact hsynced _ (h.users row hrow) (beq_iff_eq.1 hid)
    next hid => exact hother _ (h.users row hrow) fun hsame => hid (beq_iff_eq.2 hsame)
  · intro group hgroup
    obtain ⟨row, hrow, rfl⟩ := Table.mem_update.1 hgroup
    split
    next hid => exact hsynced _ (h.groups row hrow) (beq_iff_eq.1 hid)
    next hid => exact hother _ (h.groups row hrow) fun hsame => hid (beq_iff_eq.2 hsame)

/-- A role that is deleted is not linked to. -/
theorem inSync_deleteBotAccessRole {roleId : Nat} (h : InSync db)
    (hdelete : deleteBotAccessRole organizationId roleId db = .ok db') : InSync db' := by
  obtain ⟨role, -, hdelete⟩ := Except.bind_eq_ok_iff.1 hdelete
  dsimp only at hdelete
  split at hdelete
  next => nomatch hdelete
  next =>
    split at hdelete
    next => nomatch hdelete
    next hassigned =>
      cases hdelete
      obtain ⟨husers, hgroups⟩ := not_or.1 (Bool.or_eq_true_iff.not.1 hassigned)
      have hkept : ∀ grant, Linked db grant → grant.roleId ≠ some role.id →
          Linked { db with botRoles := Table.delete (·.id == role.id) db.botRoles } grant := by
        intro grant hlinked hne roleId hroleId
        obtain ⟨row, hrow, hid, hpermissions⟩ := hlinked roleId hroleId
        refine ⟨row, Table.mem_delete.2 ⟨hrow, beq_eq_false_iff_ne.2 fun hsame => hne ?_⟩, hid, hpermissions⟩
        rw [hroleId, ← hid, hsame]
      refine ⟨⟨Table.uniqueOn_delete h.ids.unique, fun row hrow => h.ids.drawn row (Table.mem_delete.1 hrow).1⟩, ?_, ?_⟩
      · intro user huser
        exact hkept _ (h.users user huser) fun hsame => husers (List.any_eq_true.2 ⟨user, huser, beq_iff_eq.2 hsame⟩)
      · intro group hgroup
        exact hkept _ (h.groups group hgroup) fun hsame =>
          hgroups (List.any_eq_true.2 ⟨group, hgroup, beq_iff_eq.2 hsame⟩)

/-- Making the system roles keeps the tables in sync. -/
theorem inSync_ensure {roles : SystemRole → BotAccessRole} (h : InSync db)
    (hensure : ensureBotAccessSystemRoles organizationId db = .ok (db', roles)) : InSync db' :=
  h.rolesKept (ensureBotAccessSystemRoles_spec hensure).1

/-- A backfill whose new grants are linked keeps the invariant. -/
theorem inSync_backfill {f : BotGrant → BotGrant} (h : InSync db)
    (hf : ∀ grant, grant.roleId = none → Linked db (f grant)) : InSync (db.backfill organizationId f) := by
  have hunlinked : ∀ grant : BotGrant, grant.toBackfill organizationId = true → grant.roleId = none := fun grant hgrant =>
    beq_iff_eq.1 (Bool.and_eq_true_iff.1 hgrant).2
  refine h.ofRolesKept (.refl db) (fun updated hupdated => ?_) fun updated hupdated => ?_
  · obtain ⟨user, huser, rfl⟩ := Table.mem_update.1 hupdated
    split
    next hbackfill => exact .inr (hf _ (hunlinked _ hbackfill))
    next => exact .inl huser
  · obtain ⟨group, hgroup, rfl⟩ := Table.mem_update.1 hupdated
    split
    next hbackfill => exact .inr (hf _ (hunlinked _ hbackfill))
    next => exact .inl hgroup

/-- A grant that is backfilled is linked to a role with its permissions, or not at all. -/
theorem linked_backfillGrant {roles : SystemRole → BotAccessRole}
    (hroles : ∀ definition, db.HasSystemRole organizationId definition (roles definition))
    (hgrant : grant.roleId = none) : Linked db (backfillGrant now roles grant) := by
  rcases backfillGrant_cases now roles grant with heq | ⟨definition, hpermissions, hroleId, heq⟩ | ⟨hroleId, -⟩
  · rw [heq]
    exact .of_unlinked hgrant
  · intro roleId hsome
    cases hroleId.symm.trans hsome
    exact heq ▸ hpermissions ▸ (hroles definition).hasRole
  · exact .of_unlinked (hroleId.trans hgrant)

/-- The backfill of an organization links its grants in sync. -/
theorem inSync_backfillBotAccessRoleAssignments (h : InSync db)
    (hbackfill : backfillBotAccessRoleAssignments now organizationId db = .ok db') : InSync db' := by
  obtain ⟨⟨db₁, roles⟩, hensure, heq⟩ := Except.bind_eq_ok_iff.1 hbackfill
  cases heq
  exact inSync_backfill (inSync_ensure h hensure) fun grant hgrant =>
    linked_backfillGrant (ensureBotAccessSystemRoles_spec hensure).2.1 hgrant

/-- A listing of the grants keeps the tables in sync. -/
theorem inSync_listBotGrants (h : InSync db) (hlist : listBotGrants now organizationId db = .ok db') : InSync db' := by
  obtain ⟨⟨db₁, roles⟩, hensure, hbackfill⟩ := Except.bind_eq_ok_iff.1 hlist
  exact inSync_backfillBotAccessRoleAssignments (inSync_ensure h hensure) hbackfill

/-- A listing of the roles keeps the tables in sync. -/
theorem inSync_listBotAccessRoles (h : InSync db) (hlist : listBotAccessRoles organizationId db = .ok db') :
    InSync db' := by
  obtain ⟨⟨db₁, roles⟩, hensure, rfl⟩ := Except.map_eq_ok_iff.1 hlist
  exact inSync_ensure h hensure

/-- The default organization brings no grant. -/
theorem inSync_defaultOrganization (s : Settings) (h : InSync db) : InSync (defaultOrganization s db).1 := by
  unfold defaultOrganization
  split
  next => exact h
  next =>
    exact ⟨⟨h.ids.unique, fun role hrole => Nat.lt_succ_of_lt (h.ids.drawn role hrole)⟩, h.users, h.groups⟩

/-- A startup keeps the tables in sync. -/
theorem inSync_seedBotAccess {s : Settings} (h : InSync db) (hseed : seedBotAccess s now db = .ok db') : InSync db' := by
  obtain ⟨db₁, hensure, hbackfill⟩ := Except.bind_eq_ok_iff.1 hseed
  have hensured : InSync db₁ :=
    Except.foldlM_invariant (fun db organizationId db' h hstep => inSync_listBotAccessRoles h hstep)
      (inSync_defaultOrganization s h) hensure
  refine Except.foldlM_invariant (fun db organizationId db' h hstep => ?_) hensured hbackfill
  obtain ⟨⟨db₁, roles⟩, hensure, heq⟩ := Except.bind_eq_ok_iff.1 hstep
  cases heq
  refine inSync_backfill (inSync_ensure h hensure) fun grant hgrant => ?_
  rw [seedGrant_eq]
  exact linked_backfillGrant (ensureBotAccessSystemRoles_spec hensure).2.1 hgrant

/-- Each step keeps the invariant when its patches change no permission of a grant that stays linked. -/
theorem inSync_botAccessStep {step : BotAccessStep} (h : InSync db) (hkeeps : PatchesKeepLinked db step)
    (hstep : botAccessStep P db step = some db') : InSync db' := by
  cases hstep
  cases hrun : runBotAccessStep P db step with
  | error e => exact h
  | ok db' =>
    change InSync db'
    cases step with
    | listRoles organizationId => exact inSync_listBotAccessRoles h hrun
    | createRole organizationId payload => exact inSync_createBotAccessRole h hrun
    | updateRole now organizationId roleId payload => exact inSync_updateBotAccessRole h hrun
    | deleteRole organizationId roleId => exact inSync_deleteBotAccessRole h hrun
    | listGrants now organizationId => exact inSync_listBotGrants h hrun
    | createUser now organizationId payload => exact inSync_createBotAuthorizedUser h hrun
    | updateUser now organizationId userId payload => exact inSync_updateBotAuthorizedUser h hkeeps hrun
    | deleteUser organizationId userId => exact inSync_deleteBotAuthorizedUser h hrun
    | createGroup now organizationId payload => exact inSync_createBotAuthorizedGroup h hrun
    | updateGroup now organizationId groupId payload => exact inSync_updateBotAuthorizedGroup h hkeeps hrun
    | deleteGroup organizationId groupId => exact inSync_deleteBotAuthorizedGroup h hrun
    | startup s now => exact inSync_seedBotAccess h hrun

/-- The permissions that a PATCH gives are those of the patched grant, unless it is linked to the role that the PATCH
names. -/
theorem patchGrant_get {payload : BotGrantUpdateIn} {patched : BotGrant}
    (h : patchGrant now organizationId payload grant db = .ok (db', patched)) :
    (payload.namesRole = true ∧ patched.roleId ≠ none) ∨
      ∀ field value, payload.permissions field = some value → patched.permissions.get field = value := by
  have hgiven : ∀ (db : Database) (grant : BotGrant) field value, payload.permissions field = some value →
      (applyPermissionPatch payload db grant).permissions.get field = value := by
    intro db grant field value hvalue
    rw [applyPermissionPatch_get, hvalue, Option.getD_some]
  rcases patchGrant_cases h with ⟨hnames, -, ⟨role, -, hroleId, -⟩ | ⟨unlinked, -, -, rfl⟩⟩ | ⟨-, -, same, -, -, rfl⟩
  · exact .inl ⟨hnames, hroleId ▸ Option.some_ne_none role.id⟩
  · exact .inr (hgiven db' unlinked)
  · exact .inr (hgiven _ same)

/-- In a state in sync, what an accepted PATCH gives is enforced. -/
theorem InSync.patchesEnforced (h : InSync db) : PatchesEnforced db := by
  constructor
  · intro now organizationId userId payload db' hkeeps hupdate user huser hid
    have hagree := (inSync_updateBotAuthorizedUser h hkeeps hupdate).permissionsAgree user.toBotGrant
      (List.mem_append_left _ (List.mem_map_of_mem huser))
    obtain ⟨loaded, db₁, patched, -, hgrant, rfl⟩ := updateBotAuthorizedUser_eq_ok hupdate
    obtain ⟨row, -, rfl⟩ := Table.mem_update.1 huser
    split at hid
    next hrow =>
      rw [if_pos hrow] at hagree ⊢
      exact (patchGrant_get hgrant).imp_right fun hget field value hvalue => hagree.1 ▸ hget field value hvalue
    next hrow => exact absurd (beq_iff_eq.2 hid) hrow
  · intro now organizationId groupId payload db' hkeeps hupdate group hgroup hid
    have hagree := (inSync_updateBotAuthorizedGroup h hkeeps hupdate).permissionsAgree group.toBotGrant
      (List.mem_append_right _ (List.mem_map_of_mem hgroup))
    obtain ⟨loaded, db₁, patched, -, hgrant, rfl⟩ := updateBotAuthorizedGroup_eq_ok hupdate
    obtain ⟨row, -, rfl⟩ := Table.mem_update.1 hgroup
    split at hid
    next hrow =>
      rw [if_pos hrow] at hagree ⊢
      exact (patchGrant_get hgrant).imp_right fun hget field value hvalue => hagree.1 ▸ hget field value hvalue
    next hrow => exact absurd (beq_iff_eq.2 hid) hrow

/-- The invariant holds of tables in sync. -/
theorem inSync_of_grantsInSync (h : GrantsInSync db) : InSync db := by
  have hlinked : ∀ grant ∈ db.grants, Linked db grant := fun grant hgrant roleId hroleId => by
    obtain ⟨role, hmem, hid, hpermissions⟩ := (h.agree grant hgrant).2 roleId hroleId
    exact ⟨role, hmem, hid, hpermissions.symm⟩
  exact ⟨h.ids, fun user huser => hlinked _ (List.mem_append_left _ (List.mem_map_of_mem huser)),
    fun group hgroup => hlinked _ (List.mem_append_right _ (List.mem_map_of_mem hgroup))⟩

end DisplayedPermissionsAux

open DisplayedPermissionsAux

/-- In every run from tables in sync whose patches change no permission of a grant that stays linked, in every state
that is reached, the permissions that are reported of a grant are those that are enforced for it, and so are those that
another such PATCH gives. -/
theorem displayed_permissions_enforced (P : Platform) {db₀ db : Database} {steps : List BotAccessStep}
    (hstart : GrantsInSync db₀) (hkeeps : Meets (botAccessStep P) PatchesKeepLinked db₀ steps)
    (hrun : exec (botAccessStep P) db₀ steps = some db) : PermissionsAgree db ∧ PatchesEnforced db := by
  have hsync : DisplayedPermissionsAux.InSync db :=
    exec_invariant_of_meets (fun _ _ _ h hkeeps hstep => inSync_botAccessStep h hkeeps hstep)
      (inSync_of_grantsInSync hstart) hkeeps hrun
  exact ⟨hsync.permissionsAgree, hsync.patchesEnforced⟩

/-- Tables of a new installation are in sync. -/
theorem NoBotAccess.grantsInSync {db : Database} (h : NoBotAccess db) : GrantsInSync db where
  ids := by
    constructor
    · rw [h.roles]
      exact List.nodup_nil
    · intro role hrole
      exact absurd (h.roles ▸ hrole) List.not_mem_nil
  agree grant hgrant := by
    rw [Database.grants, h.users, h.groups] at hgrant
    exact absurd hgrant List.not_mem_nil

/-! ## Fixed inputs -/

/-- A new user with the role of an operator. -/
def adaOperator : BotAuthorizedUserCreateIn :=
  { aadObjectId := "ada", displayName := "Ada", grant := { role := "route_operator" } }

/-- A PATCH that takes a permission away. -/
def clearDelete : BotAuthorizedUserUpdateIn :=
  { grant := { permissions := fun field => if field = .canDeleteRoutes then some false else none } }

/-- A PATCH that makes the user a viewer. -/
def makeViewer : BotAuthorizedUserUpdateIn := { grant := { role := some "viewer" } }

/-- An operator who becomes a viewer. -/
def operatorToViewer : List BotAccessStep :=
  [.startup {} 0, .createUser 0 0 adaOperator, .updateUser 0 0 3 makeViewer, .listGrants 0 0]

/-- The operator has become a viewer, in the columns and in what is enforced. -/
theorem displayed_permissions_enforced_viewer :
    ∃ db, exec (botAccessStep Platform.plain) {} operatorToViewer = some db ∧
      (db.botUsers.map fun user => (user.roleId, user.role)) = [(some 1, "route_viewer")] ∧ PermissionsAgree db ∧
      PatchesEnforced db := by
  have hrow : (exec (botAccessStep Platform.plain) {} operatorToViewer).map (fun db => db.botUsers.map fun user =>
    (user.roleId, user.role)) =
      some [(some 1, "route_viewer")] := by decide +kernel
  obtain ⟨db, hrun, hrow⟩ := Option.map_eq_some_iff.1 hrow
  refine ⟨db, hrun, hrow, displayed_permissions_enforced Platform.plain (NoBotAccess.grantsInSync ⟨rfl, rfl, rfl⟩)
    (meets_of_forall ?_ _) hrun⟩
  rintro _ (_ | ⟨_, _ | ⟨_, _ | ⟨_, _ | ⟨_, ⟨⟩⟩⟩⟩⟩) db
  · trivial
  · trivial
  · exact fun _ _ => .inl rfl
  · trivial

/-- A PATCH that takes a permission away from an operator is accepted and reported, and the permission is still
enforced. -/
theorem clear_permission_not_enforced :
    NoBotAccess {} ∧ (exec (botAccessStep Platform.plain) {} [.startup {} 0, .createUser 0 0 adaOperator,
      .updateUser 0 0 3 clearDelete]).map
      (fun db => db.botUsers.map fun user =>
        (user.roleId, user.permissions.get .canDeleteRoutes,
          (effectiveBotPermissions db.botRoles user.toBotGrant).get .canDeleteRoutes)) =
      some [(some 2, false, true)] ∧
    ∃ db, exec (botAccessStep Platform.plain) {} [.startup {} 0, .createUser 0 0 adaOperator,
      .updateUser 0 0 3 clearDelete] = some db ∧
      ¬PermissionsAgree db := by
  have hrow : (exec (botAccessStep Platform.plain) {} [.startup {} 0, .createUser 0 0 adaOperator,
    .updateUser 0 0 3 clearDelete]).map
      (fun db => db.botUsers.map fun user =>
        (user.roleId, user.permissions.get .canDeleteRoutes,
          (effectiveBotPermissions db.botRoles user.toBotGrant).get .canDeleteRoutes)) =
      some [(some 2, false, true)] := by decide +kernel
  refine ⟨⟨rfl, rfl, rfl⟩, hrow, ?_⟩
  obtain ⟨db, hrun, hrow⟩ := Option.map_eq_some_iff.1 hrow
  refine ⟨db, hrun, fun hagree => ?_⟩
  obtain ⟨user, huser, hvalues⟩ := List.mem_map.1 (hrow ▸ List.mem_singleton_self (some 2, false, true))
  injection hvalues with hroleId hvalues
  injection hvalues with hcolumn henforced
  have hsame := (hagree user.toBotGrant (List.mem_append_left _ (List.mem_map_of_mem huser))).1
  rw [← hsame, hcolumn] at henforced
  nomatch henforced

end TeamsRehook
