import TeamsRehook.Bot.AccessRoles
import TeamsRehook.Lib.Except

/-!
# What the system roles and the backfill change

`ensure_bot_access_system_roles` adds the roles that are missing and marks the others as system roles: roles keep their
ids and their permissions.
-/

namespace TeamsRehook

variable {organizationId : Nat} {definition : SystemRole} {db db' : Database} {role : BotAccessRole}

/-- The grants of users and groups. -/
def Database.grants (db : Database) : List BotGrant := db.botUsers.map (·.toBotGrant) ++ db.botGroups.map (·.toBotGrant)

/-- The ids of the roles are different, and drawn from the counter. -/
structure RoleIds (db : Database) : Prop where
  unique : Table.UniqueOn (·.id) db.botRoles
  drawn : ∀ role ∈ db.botRoles, role.id < db.nextId

/-- A role with an id and with permissions is there. -/
def Database.HasRole (db : Database) (roleId : Nat) (permissions : BotPermissions) : Prop :=
  ∃ role ∈ db.botRoles, role.id = roleId ∧ rolePermissions role = permissions

/-- The role with an id is found. -/
theorem RoleIds.accessRole {grant : BotGrant} {roleId : Nat} {permissions : BotPermissions} (h : RoleIds db)
    (hgrant : grant.roleId = some roleId) (hrole : db.HasRole roleId permissions) :
    effectiveBotPermissions db.botRoles grant = permissions := by
  obtain ⟨role, hmem, rfl, rfl⟩ := hrole
  rw [effectiveBotPermissions, BotGrant.accessRole, hgrant, Option.bind_some, h.unique.find?_eq_some hmem]

/-- The permissions of a grant that is not linked are its own. -/
theorem effectiveBotPermissions_unlinked {roles : List BotAccessRole} {grant : BotGrant} (h : grant.roleId = none) :
    effectiveBotPermissions roles grant = grant.permissions := by
  rw [effectiveBotPermissions, BotGrant.accessRole, h, Option.bind_none]

/-- What a step on the roles keeps: the grants, the ids of the roles and their permissions. -/
structure RolesKept (db db' : Database) : Prop where
  organizations : db'.organizations = db.organizations
  users : db'.botUsers = db.botUsers
  groups : db'.botGroups = db.botGroups
  nextId : db.nextId ≤ db'.nextId
  ids : RoleIds db → RoleIds db'
  roles : ∀ {roleId permissions}, db.HasRole roleId permissions → db'.HasRole roleId permissions

theorem RolesKept.refl (db : Database) : RolesKept db db := ⟨rfl, rfl, rfl, le_refl _, id, id⟩

theorem RolesKept.trans {db₁ db₂ db₃ : Database} (h : RolesKept db₁ db₂) (h' : RolesKept db₂ db₃) : RolesKept db₁ db₃ :=
  ⟨h'.organizations.trans h.organizations, h'.users.trans h.users, h'.groups.trans h.groups, h.nextId.trans h'.nextId,
    h'.ids ∘ h.ids, h'.roles ∘ h.roles⟩

theorem RolesKept.grants (h : RolesKept db db') : db'.grants = db.grants :=
  by rw [Database.grants, h.users, h.groups, Database.grants]

/-! ## The system roles -/

/-- Marking a role as a system role keeps the roles. -/
theorem rolesKept_markSystem (db : Database) (roleId : Nat) :
    RolesKept db { db with
      botRoles := Table.update (·.id == roleId) (fun row : BotAccessRole => { row with isSystem := true })
          db.botRoles } where
  organizations := rfl
  users := rfl
  groups := rfl
  nextId := le_refl _
  ids h := ⟨Table.uniqueOn_update h.unique fun _ => rfl, Table.forall_mem_update h.drawn fun row hrow _ =>
    h.drawn row hrow⟩
  roles := by
    rintro roleId' permissions ⟨role, hmem, hid, hpermissions⟩
    refine ⟨_, Table.mem_update.2 ⟨role, hmem, rfl⟩, ?_, ?_⟩
    · split <;> exact hid
    · split <;> exact hpermissions

/-- Adding a role keeps the roles. -/
theorem rolesKept_addRole (db : Database) (role : BotAccessRole) (hid : role.id = db.nextId) :
    RolesKept db { db with botRoles := db.botRoles ++ [role], nextId := db.nextId + 1 } where
  organizations := rfl
  users := rfl
  groups := rfl
  nextId := Nat.le_succ _
  ids h := by
    refine ⟨Table.uniqueOn_append h.unique fun row hrow => ?_, fun row hrow => ?_⟩
    · exact hid ▸ Nat.ne_of_lt (h.drawn row hrow)
    · rcases List.mem_append.1 hrow with hrow | hrow
      · exact Nat.lt_succ_of_lt (h.drawn row hrow)
      · rw [List.mem_singleton.1 hrow, hid]
        exact Nat.lt_succ_self _
  roles := fun ⟨row, hrow, h⟩ => ⟨row, List.mem_append_left _ hrow, h⟩

/-- A system role that there is, and that is marked as one. -/
def Database.HasSystemRole (organizationId : Nat) (definition : SystemRole) (role : BotAccessRole) (db : Database) :
    Prop :=
  db.systemRole organizationId definition = some role ∧ role.isSystem = true

theorem Database.HasSystemRole.mem (h : db.HasSystemRole organizationId definition role) : role ∈ db.botRoles :=
  List.mem_of_find?_eq_some h.1

theorem Database.HasSystemRole.hasRole (h : db.HasSystemRole organizationId definition role) :
    db.HasRole role.id (rolePermissions role) :=
  ⟨role, h.mem, rfl, rfl⟩

/-- A system role is there afterwards, and the others that were there still are. -/
theorem ensureSystemRole_spec (h : ensureSystemRole organizationId definition db = .ok (db', role)) :
    RolesKept db db' ∧ db'.HasSystemRole organizationId definition role ∧
      ∀ {organizationId definition role}, db.HasSystemRole organizationId definition role →
        db'.HasSystemRole organizationId definition role := by
  unfold ensureSystemRole at h
  split at h
  next found hfound =>
    cases h
    have hfind : ∀ organizationId definition row, db.systemRole organizationId definition = some row → ({ db with
        botRoles := Table.update (·.id == found.id) (fun row : BotAccessRole => { row with isSystem := true })
          db.botRoles } :
          Database).systemRole organizationId definition = some (if row.id == found.id then
            { row with isSystem := true } else row) := by
      intro organizationId definition row hrow
      exact (Table.find?_update (f := fun row : BotAccessRole => { row with isSystem := true }) (fun _ =>
        rfl) db.botRoles).trans
        (congrArg (Option.map _) hrow)
    refine ⟨rolesKept_markSystem db found.id, ⟨?_, rfl⟩, ?_⟩
    · rw [hfind _ _ _ hfound, if_pos (beq_self_eq_true _)]
    · rintro organizationId definition row ⟨hrow, hsystem⟩
      refine ⟨?_, hsystem⟩
      rw [hfind _ _ _ hrow]
      split
      · rw [← hsystem]
      · rfl
  next hnone =>
    split at h
    next => nomatch h
    next =>
      cases h
      refine ⟨rolesKept_addRole db _ rfl, ⟨?_, rfl⟩, ?_⟩
      · have hkey : (organizationId == organizationId && some definition.systemKey == some definition.systemKey) =
          true := by simp
        rw [Database.systemRole, List.find?_append, show db.botRoles.find? _ = none from hnone, Option.none_or,
          List.find?_cons, hkey]
      · rintro organizationId definition row ⟨hrow, hsystem⟩
        refine ⟨?_, hsystem⟩
        rw [Database.systemRole, List.find?_append, show db.botRoles.find? _ = some row from hrow, Option.some_or]

/-- A system role that is there is found as it is. -/
theorem ensureSystemRole_of_hasSystemRole (hids : RoleIds db) (h : db.HasSystemRole organizationId definition role) :
    ensureSystemRole organizationId definition db = .ok (db, role) := by
  have hsame : Table.update (·.id == role.id) (fun row : BotAccessRole => { row with isSystem := true }) db.botRoles =
      db.botRoles := by
    refine (List.map_congr_left fun row hrow => ?_).trans (List.map_id _)
    split
    next hid =>
      obtain rfl := hids.unique.eq_of_mem hrow h.mem (beq_iff_eq.1 hid)
      exact congrArg (fun isSystem => { row with isSystem }) h.2.symm
    next => rfl
  rw [ensureSystemRole, h.1]
  dsimp only
  rw [hsame, ← h.2]

/-- Both system roles are there afterwards, and so are those that were there. -/
theorem ensureBotAccessSystemRoles_spec {roles : SystemRole → BotAccessRole}
    (h : ensureBotAccessSystemRoles organizationId db = .ok (db', roles)) :
    RolesKept db db' ∧ (∀ definition, db'.HasSystemRole organizationId definition (roles definition)) ∧
      ∀ {organizationId definition role}, db.HasSystemRole organizationId definition role →
        db'.HasSystemRole organizationId definition role := by
  obtain ⟨⟨db₁, viewer⟩, hviewer, h⟩ := Except.bind_eq_ok_iff.1 h
  obtain ⟨⟨db₂, operator⟩, hoperator, h⟩ := Except.bind_eq_ok_iff.1 h
  cases h
  obtain ⟨hkept₁, hhas₁, hold₁⟩ := ensureSystemRole_spec hviewer
  obtain ⟨hkept₂, hhas₂, hold₂⟩ := ensureSystemRole_spec hoperator
  refine ⟨hkept₁.trans hkept₂, fun definition => ?_, fun h => hold₂ (hold₁ h)⟩
  cases definition with
  | routeViewer => exact hold₂ hhas₁
  | routeOperator => exact hhas₂

/-- System roles that are there are found as they are. -/
theorem ensureBotAccessSystemRoles_of_hasSystemRole {roles : SystemRole → BotAccessRole} (hids : RoleIds db)
    (h : ∀ definition, db.HasSystemRole organizationId definition (roles definition)) :
    ensureBotAccessSystemRoles organizationId db = .ok (db, roles) := by
  rw [ensureBotAccessSystemRoles, ensureSystemRole_of_hasSystemRole hids (h .routeViewer)]
  dsimp only [bind, Except.bind]
  rw [ensureSystemRole_of_hasSystemRole hids (h .routeOperator)]
  refine congrArg (fun roles => Except.ok (db, roles)) (funext fun definition => ?_)
  cases definition <;> rfl

/-! ## The backfill -/

/-- What the backfill does to a grant: nothing, or a link to a system role that has its permissions, or another label. -/
theorem backfillGrant_cases (now : Int) (roles : SystemRole → BotAccessRole) (grant : BotGrant) :
    backfillGrant now roles grant = grant ∨
    (∃ definition, rolePermissions (roles definition) = grant.permissions ∧
      (backfillGrant now roles grant).roleId = some (roles definition).id ∧
      (backfillGrant now roles grant).permissions = grant.permissions) ∨
    ((backfillGrant now roles grant).roleId = grant.roleId ∧ (backfillGrant now roles grant).permissions =
        grant.permissions) := by
  unfold backfillGrant
  dsimp only
  split
  next => exact .inl rfl
  next =>
    split
    next hviewer => exact .inr (.inl ⟨.routeViewer, hviewer.2.symm, rfl, rfl⟩)
    next =>
      split
      next hoperator => exact .inr (.inl ⟨.routeOperator, hoperator.2.symm, rfl, rfl⟩)
      next =>
        split
        next => exact .inr (.inr ⟨rfl, rfl⟩)
        next => exact .inl rfl

/-- The two copies of the rule are one. -/
theorem seedGrant_eq (now : Int) (roles : SystemRole → BotAccessRole) :
    seedGrant now (roles .routeViewer) (roles .routeOperator) = backfillGrant now roles := by
  funext grant
  unfold seedGrant backfillGrant
  simp only [BotPermissions.ofFields_get, List.contains_cons, List.contains_nil, Bool.or_false, Bool.or_eq_true,
    Bool.and_eq_true, beq_iff_eq]

end TeamsRehook
