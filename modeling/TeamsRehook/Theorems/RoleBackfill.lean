import TeamsRehook.Lemmas.AccessRoles

/-!
# The role backfill

The backfill at startup is that of the admin listing for one organization after the other. It links a grant only to a
role that has the permissions of the grant, and a grant that it has changed is linked or a custom one, which it leaves
alone.
-/

namespace TeamsRehook

/-- The ids of roles are unique, and a grant is linked to a role that there is: the keys of the tables. -/
structure GrantReferences (db : Database) : Prop where
  ids : RoleIds db
  linked : ∀ grant ∈ db.grants, ∀ roleId, grant.roleId = some roleId → ∃ role ∈ db.botRoles, role.id = roleId

/-- The permissions that are enforced for the users and for the groups, in the order of their tables. -/
def Database.effectivePermissions (db : Database) : List BotPermissions × List BotPermissions :=
  (db.botUsers.map fun user => effectiveBotPermissions db.botRoles user.toBotGrant,
    db.botGroups.map fun group => effectiveBotPermissions db.botRoles group.toBotGrant)

/-- The users and the groups of the other organizations. -/
def Database.otherGrants (organizationId : Nat) (db : Database) : List BotAuthorizedUser × List BotAuthorizedGroup :=
  (db.botUsers.filter (·.organizationId != organizationId), db.botGroups.filter (·.organizationId != organizationId))

namespace RoleBackfillAux

variable {db db' : Database} {organizationId : Nat} {now now' : Int} {roles : SystemRole → BotAccessRole}
    {f : BotGrant → BotGrant}

theorem mem_grants_user {user : BotAuthorizedUser} (h : user ∈ db.botUsers) : user.toBotGrant ∈ db.grants :=
  List.mem_append_left _ (List.mem_map_of_mem h)

theorem mem_grants_group {group : BotAuthorizedGroup} (h : group ∈ db.botGroups) : group.toBotGrant ∈ db.grants :=
  List.mem_append_right _ (List.mem_map_of_mem h)

/-! ## One organization -/

/-- A backfill for one organization from the system roles that there are then. -/
theorem backfill_eq_ok_iff : backfillBotAccessRoleAssignments now organizationId db = .ok db' ↔
    ∃ db₁ roles, ensureBotAccessSystemRoles organizationId db = .ok (db₁, roles) ∧
      db' = db₁.backfill organizationId (backfillGrant now roles) := by
  constructor
  · intro h
    obtain ⟨⟨db₁, roles⟩, hensure, heq⟩ := Except.bind_eq_ok_iff.1 h
    cases heq
    exact ⟨db₁, roles, hensure, rfl⟩
  · rintro ⟨db₁, roles, hensure, rfl⟩
    exact Except.bind_eq_ok_iff.2 ⟨(db₁, roles), hensure, rfl⟩

/-- A grant that is backfilled is linked, or it is not changed by another backfill. -/
theorem backfillGrant_again (now now' : Int) (roles : SystemRole → BotAccessRole) (grant : BotGrant) :
    (∃ roleId, (backfillGrant now roles grant).roleId = some roleId) ∨
      backfillGrant now' roles (backfillGrant now roles grant) = backfillGrant now roles grant := by
  by_cases hcustom : grant.role = "custom"
  · refine .inr ?_
    have hsame : ∀ now, backfillGrant now roles grant = grant := fun now => if_pos hcustom
    rw [hsame now, hsame now']
  by_cases hviewer : (grant.role = "viewer" ∨ grant.role = "route_viewer") ∧
    grant.permissions = rolePermissions (roles .routeViewer)
  · refine .inl ⟨(roles .routeViewer).id, ?_⟩
    rw [backfillGrant, if_neg hcustom, if_pos hviewer]
  by_cases hoperator : (grant.role = "operator" ∨ grant.role = "route_operator" ∨ grant.role = "route_manager") ∧
      grant.permissions = rolePermissions (roles .routeOperator)
  · refine .inl ⟨(roles .routeOperator).id, ?_⟩
    rw [backfillGrant, if_neg hcustom, if_neg hviewer, if_pos hoperator]
  have hrest : ∀ now, backfillGrant now roles grant =
      if grant.role = "viewer" ∨ grant.role = "operator" ∨ grant.role = "route_manager" then
        { grant with role := "custom", updatedAt := now } else grant := by
    intro now
    rw [backfillGrant, if_neg hcustom, if_neg hviewer, if_neg hoperator]
  refine .inr ?_
  rw [hrest now]
  split
  next => rw [backfillGrant, if_pos rfl]
  next hother => rw [hrest now', if_neg hother]

/-- The organization's system roles are there, and no grant is left to backfill. -/
def Settled (organizationId : Nat) (db : Database) : Prop :=
  ∃ roles, (∀ definition, db.HasSystemRole organizationId definition (roles definition)) ∧
    ∀ grant ∈ db.grants, grant.toBackfill organizationId = true → ∀ now, backfillGrant now roles grant = grant

/-- A second backfill changes nothing. -/
theorem backfill_of_settled (hids : RoleIds db) (h : Settled organizationId db) :
    backfillBotAccessRoleAssignments now organizationId db = .ok db := by
  obtain ⟨roles, hroles, hsame⟩ := h
  have husers : ∀ user ∈ db.botUsers, user.toBackfill organizationId = true →
      { user with toBotGrant := backfillGrant now roles user.toBotGrant } = user := fun user huser hbackfill =>
    congrArg (fun grant => { user with toBotGrant := grant }) (hsame _ (mem_grants_user huser) hbackfill now)
  have hgroups : ∀ group ∈ db.botGroups, group.toBackfill organizationId = true →
      { group with toBotGrant := backfillGrant now roles group.toBotGrant } = group := fun group hgroup hbackfill =>
    congrArg (fun grant => { group with toBotGrant := grant }) (hsame _ (mem_grants_group hgroup) hbackfill now)
  refine backfill_eq_ok_iff.2 ⟨db, roles, ensureBotAccessSystemRoles_of_hasSystemRole hids hroles, ?_⟩
  rw [Database.backfill, Table.update_eq_self husers, Table.update_eq_self hgroups]

/-- A grant after a backfill: one that is not to be backfilled and has not changed, or a backfilled one. -/
theorem mem_grants_backfill {grant : BotGrant} (h : grant ∈ (db.backfill organizationId f).grants) :
    (grant ∈ db.grants ∧ grant.toBackfill organizationId = false) ∨
      ∃ old ∈ db.grants, old.toBackfill organizationId = true ∧ grant = f old := by
  rcases List.mem_append.1 h with h | h
  · obtain ⟨updated, hupdated, rfl⟩ := List.mem_map.1 h
    obtain ⟨user, huser, rfl⟩ := Table.mem_update.1 hupdated
    split
    next hbackfill => exact .inr ⟨_, mem_grants_user huser, hbackfill, rfl⟩
    next hother => exact .inl ⟨mem_grants_user huser, Bool.eq_false_of_not_eq_true hother⟩
  · obtain ⟨updated, hupdated, rfl⟩ := List.mem_map.1 h
    obtain ⟨group, hgroup, rfl⟩ := Table.mem_update.1 hupdated
    split
    next hbackfill => exact .inr ⟨_, mem_grants_group hgroup, hbackfill, rfl⟩
    next hother => exact .inl ⟨mem_grants_group hgroup, Bool.eq_false_of_not_eq_true hother⟩

/-- A backfill settles the organization. -/
theorem settled_of_backfill (h : backfillBotAccessRoleAssignments now organizationId db = .ok db') :
    Settled organizationId db' := by
  obtain ⟨db₁, roles, hensure, rfl⟩ := backfill_eq_ok_iff.1 h
  refine ⟨roles, (ensureBotAccessSystemRoles_spec hensure).2.1, fun grant hgrant hbackfill now' => ?_⟩
  rcases mem_grants_backfill hgrant with ⟨-, hother⟩ | ⟨old, -, -, rfl⟩
  · nomatch hbackfill.symm.trans hother
  · refine (backfillGrant_again now now' roles old).resolve_left fun ⟨roleId, hlinked⟩ => ?_
    have hunlinked := beq_iff_eq.1 (Bool.and_eq_true_iff.1 hbackfill).2
    nomatch hunlinked.symm.trans hlinked

/-- A backfilled grant is still one of its organization. -/
theorem backfillGrant_organizationId (now : Int) (roles : SystemRole → BotAccessRole) (grant : BotGrant) :
    (backfillGrant now roles grant).organizationId = grant.organizationId := by
  unfold backfillGrant
  dsimp only
  split
  · rfl
  · split
    · rfl
    · split
      · rfl
      · split <;> rfl

/-- An organization stays settled while another one is backfilled. -/
theorem Settled.backfill {otherId : Nat} (h : Settled organizationId db)
    (hbackfill : backfillBotAccessRoleAssignments now otherId db = .ok db') : Settled organizationId db' := by
  by_cases hsame : organizationId = otherId
  · exact hsame ▸ settled_of_backfill hbackfill
  obtain ⟨db₁, roles', hensure, rfl⟩ := backfill_eq_ok_iff.1 hbackfill
  obtain ⟨hkept, -, hold⟩ := ensureBotAccessSystemRoles_spec hensure
  obtain ⟨roles, hroles, hfixed⟩ := h
  refine ⟨roles, fun definition => hold (hroles definition), fun grant hgrant hgrantBackfill => ?_⟩
  rcases mem_grants_backfill hgrant with ⟨hmem, -⟩ | ⟨old, -, hold, rfl⟩
  · exact hfixed grant (hkept.grants ▸ hmem) hgrantBackfill
  · have horganization := beq_iff_eq.1 (Bool.and_eq_true_iff.1 hgrantBackfill).1
    have hother := beq_iff_eq.1 (Bool.and_eq_true_iff.1 hold).1
    rw [backfillGrant_organizationId, hother] at horganization
    exact absurd horganization.symm hsame

/-! ## The enforced permissions -/

/-- Permissions that are enforced stay so while roles are kept. -/
theorem effectiveBotPermissions_of_rolesKept {grant : BotGrant} (h : GrantReferences db) (hgrant : grant ∈ db.grants)
    (hkept : RolesKept db db') :
    effectiveBotPermissions db'.botRoles grant =
    effectiveBotPermissions db.botRoles grant := by
  cases hroleId : grant.roleId with
  | none => rw [effectiveBotPermissions_unlinked hroleId, effectiveBotPermissions_unlinked hroleId]
  | some roleId =>
    obtain ⟨role, hrole, hid⟩ := h.linked grant hgrant roleId hroleId
    have hhas : db.HasRole roleId (rolePermissions role) := ⟨role, hrole, hid, rfl⟩
    rw [h.ids.accessRole hroleId hhas, (hkept.ids h.ids).accessRole hroleId (hkept.roles hhas)]

/-- A backfilled grant has the permissions it had. -/
theorem effectiveBotPermissions_backfillGrant {grant : BotGrant} (hids : RoleIds db)
    (hroles : ∀ definition, db.HasSystemRole organizationId definition (roles definition))
    (hgrant : grant.roleId = none) :
    effectiveBotPermissions db.botRoles (backfillGrant now roles grant) = grant.permissions := by
  rcases backfillGrant_cases now roles grant with heq | ⟨definition, hpermissions, hroleId, -⟩ | ⟨hroleId, hpermissions⟩
  · rw [heq, effectiveBotPermissions_unlinked hgrant]
  · rw [hids.accessRole hroleId (hroles definition).hasRole, hpermissions]
  · rw [effectiveBotPermissions_unlinked (hroleId.trans hgrant), hpermissions]

/-- The system roles change no permission that is enforced. -/
theorem effectivePermissions_of_rolesKept (h : GrantReferences db) (hkept : RolesKept db db') :
    db'.effectivePermissions = db.effectivePermissions := by
  rw [Database.effectivePermissions, hkept.users, hkept.groups]
  exact Prod.ext
    (List.map_congr_left fun user huser => effectiveBotPermissions_of_rolesKept h (mem_grants_user huser) hkept)
    (List.map_congr_left fun group hgroup => effectiveBotPermissions_of_rolesKept h (mem_grants_group hgroup) hkept)

/-- The backfill of the grants changes no permission that is enforced. -/
theorem effectivePermissions_backfill (hids : RoleIds db)
    (hroles : ∀ definition, db.HasSystemRole organizationId definition (roles definition)) :
    (db.backfill organizationId (backfillGrant now roles)).effectivePermissions = db.effectivePermissions := by
  have hgrant : ∀ grant : BotGrant, grant.toBackfill organizationId = true →
      effectiveBotPermissions db.botRoles (backfillGrant now roles grant) =
      effectiveBotPermissions db.botRoles grant := by
    intro grant hbackfill
    have hunlinked := beq_iff_eq.1 (Bool.and_eq_true_iff.1 hbackfill).2
    rw [effectiveBotPermissions_backfillGrant hids hroles hunlinked, effectiveBotPermissions_unlinked hunlinked]
  refine Prod.ext ?_ ?_
  · refine (Table.map_update_of_mem fun user _ hbackfill => ?_)
    exact hgrant user.toBotGrant hbackfill
  · refine (Table.map_update_of_mem fun group _ hbackfill => ?_)
    exact hgrant group.toBotGrant hbackfill

/-- The keys of the tables hold after a backfill. -/
theorem grantReferences_backfill (h : GrantReferences db)
    (hbackfill : backfillBotAccessRoleAssignments now organizationId db = .ok db') : GrantReferences db' := by
  obtain ⟨db₁, roles, hensure, rfl⟩ := backfill_eq_ok_iff.1 hbackfill
  obtain ⟨hkept, hroles, -⟩ := ensureBotAccessSystemRoles_spec hensure
  have hlinked : ∀ grant ∈ db.grants, ∀ roleId, grant.roleId = some roleId → ∃ role ∈ db₁.botRoles, role.id = roleId := by
    intro grant hgrant roleId hroleId
    obtain ⟨role, hrole, hid⟩ := h.linked grant hgrant roleId hroleId
    obtain ⟨role', hrole', hid', -⟩ := hkept.roles ⟨role, hrole, hid, rfl⟩
    exact ⟨role', hrole', hid'⟩
  have hbackfilled : ∀ grant ∈ db.grants, ∀ roleId, (backfillGrant now roles grant).roleId = some roleId →
      ∃ role ∈ db₁.botRoles, role.id = roleId := by
    intro grant hgrant roleId hroleId
    rcases backfillGrant_cases now roles grant with heq | ⟨definition, -, hsome, -⟩ | ⟨hsame, -⟩
    · exact hlinked grant hgrant roleId (heq ▸ hroleId)
    · exact ⟨roles definition, (hroles definition).mem, Option.some.inj (hsome.symm.trans hroleId)⟩
    · exact hlinked grant hgrant roleId (hsame.symm.trans hroleId)
  refine ⟨⟨(hkept.ids h.ids).unique, (hkept.ids h.ids).drawn⟩, fun grant hgrant => ?_⟩
  rcases List.mem_append.1 hgrant with hgrant | hgrant
  · obtain ⟨updated, hupdated, rfl⟩ := List.mem_map.1 hgrant
    obtain ⟨user, huser, rfl⟩ := Table.mem_update.1 hupdated
    have hmem := mem_grants_user (hkept.users ▸ huser)
    split
    · exact hbackfilled _ hmem
    · exact hlinked _ hmem
  · obtain ⟨updated, hupdated, rfl⟩ := List.mem_map.1 hgrant
    obtain ⟨group, hgroup, rfl⟩ := Table.mem_update.1 hupdated
    have hmem := mem_grants_group (hkept.groups ▸ hgroup)
    split
    · exact hbackfilled _ hmem
    · exact hlinked _ hmem

/-- A backfill changes no permission that is enforced. -/
theorem effectivePermissions_backfillAssignments (h : GrantReferences db)
    (hbackfill : backfillBotAccessRoleAssignments now organizationId db = .ok db') :
    db'.effectivePermissions = db.effectivePermissions := by
  obtain ⟨db₁, roles, hensure, rfl⟩ := backfill_eq_ok_iff.1 hbackfill
  obtain ⟨hkept, hroles, -⟩ := ensureBotAccessSystemRoles_spec hensure
  rw [effectivePermissions_backfill (hkept.ids h.ids) hroles, effectivePermissions_of_rolesKept h hkept]

/-- A backfill changes no grant of another organization. -/
theorem otherGrants_backfill (h : backfillBotAccessRoleAssignments now organizationId db = .ok db') :
    db'.otherGrants organizationId = db.otherGrants organizationId := by
  obtain ⟨db₁, roles, hensure, rfl⟩ := backfill_eq_ok_iff.1 h
  have hkept := (ensureBotAccessSystemRoles_spec hensure).1
  have hgrant : ∀ grant : BotGrant, grant.toBackfill organizationId = true →
      (grant.organizationId != organizationId) = false ∧
      ((backfillGrant now roles grant).organizationId != organizationId) = false := by
    intro grant hbackfill
    have horganization : (grant.organizationId != organizationId) = false := by
      rw [bne, (Bool.and_eq_true_iff.1 hbackfill).1]
      rfl
    exact ⟨horganization, backfillGrant_organizationId now roles grant ▸ horganization⟩
  rw [Database.otherGrants, Database.otherGrants, ← hkept.users, ← hkept.groups]
  exact Prod.ext (Table.filter_update fun user hbackfill => hgrant user.toBotGrant hbackfill)
    (Table.filter_update fun group hbackfill => hgrant group.toBotGrant hbackfill)

/-- Listing the grants makes sure of the system roles twice. -/
theorem listBotGrants_eq (hids : RoleIds db) :
    listBotGrants now organizationId db = backfillBotAccessRoleAssignments now organizationId db := by
  unfold listBotGrants backfillBotAccessRoleAssignments
  cases hensure : ensureBotAccessSystemRoles organizationId db with
  | error e => rfl
  | ok result =>
    obtain ⟨db₁, roles⟩ := result
    obtain ⟨hkept, hroles, -⟩ := ensureBotAccessSystemRoles_spec hensure
    dsimp only [bind, Except.bind]
    rw [ensureBotAccessSystemRoles_of_hasSystemRole (hkept.ids hids) hroles]

/-! ## Every organization -/

/-- The backfill at startup is the one of the admin listing for each organization. -/
theorem seedBackfill_eq (now : Int) (db : Database) : seedBackfill now db =
    (db.organizations.map (·.id)).foldlM (fun db organizationId =>
      backfillBotAccessRoleAssignments now organizationId db) db := by
  unfold seedBackfill backfillBotAccessRoleAssignments
  simp only [seedGrant_eq]

/-- The organizations are not changed. -/
theorem organizations_backfill (h : backfillBotAccessRoleAssignments now organizationId db = .ok db') :
    db'.organizations = db.organizations := by
  obtain ⟨db₁, roles, hensure, rfl⟩ := backfill_eq_ok_iff.1 h
  exact (ensureBotAccessSystemRoles_spec hensure).1.organizations

/-- After a backfill for each of some organizations they are all settled. -/
theorem settled_foldlM {organizationIds : List Nat}
    (h : organizationIds.foldlM (fun db organizationId => backfillBotAccessRoleAssignments now organizationId db) db =
      .ok db') :
    ∀ organizationId ∈ organizationIds, Settled organizationId db' := by
  induction organizationIds generalizing db with
  | nil => exact nofun
  | cons organizationId organizationIds ih =>
    rw [List.foldlM_cons, Except.bind_eq_ok_iff] at h
    obtain ⟨db₁, hfirst, hrest⟩ := h
    intro settledId hmem
    rcases List.mem_cons.1 hmem with rfl | hmem
    · exact Except.foldlM_invariant (fun db _ db' h hstep => h.backfill hstep) (settled_of_backfill hfirst) hrest
    · exact ih hrest settledId hmem

/-- A loop whose steps change nothing changes nothing. -/
theorem foldlM_eq_self {organizationIds : List Nat}
    (h : ∀ organizationId ∈ organizationIds, backfillBotAccessRoleAssignments now organizationId db = .ok db) :
    organizationIds.foldlM (fun db organizationId => backfillBotAccessRoleAssignments now organizationId db) db =
    .ok db := by
  induction organizationIds with
  | nil => rfl
  | cons organizationId organizationIds ih =>
    rw [List.foldlM_cons, h organizationId List.mem_cons_self]
    exact ih fun other hother => h other (List.mem_cons_of_mem _ hother)

end RoleBackfillAux

open RoleBackfillAux

/-- The role backfill, from any tables. The one at startup is that of the admin listing for one organization after the
other, and listing the grants is that for one organization, which changes no grant of another one; no backfill changes a
permission that is enforced; and another one, at any time, changes nothing. -/
theorem role_backfill_safe {db : Database} (h : GrantReferences db) (now : Int) :
    (seedBackfill now db =
      (db.organizations.map (·.id)).foldlM (fun db organizationId =>
        backfillBotAccessRoleAssignments now organizationId db) db) ∧
    (∀ organizationId, listBotGrants now organizationId db = backfillBotAccessRoleAssignments now organizationId db) ∧
    (∀ organizationId db', backfillBotAccessRoleAssignments now organizationId db = .ok db' →
      db'.otherGrants organizationId = db.otherGrants organizationId ∧
      db'.effectivePermissions = db.effectivePermissions ∧
        ∀ now', backfillBotAccessRoleAssignments now' organizationId db' = .ok db') ∧
    ∀ db', seedBackfill now db = .ok db' →
      db'.effectivePermissions = db.effectivePermissions ∧ (∀ now', seedBackfill now' db' = .ok db') ∧
      ∀ organizationId ∈ db.organizations.map (·.id), ∀ now',
      backfillBotAccessRoleAssignments now' organizationId db' = .ok db' := by
  refine ⟨seedBackfill_eq now db, fun organizationId => listBotGrants_eq h.ids, fun organizationId db' hbackfill => ?_,
    fun db' hseed => ?_⟩
  · exact ⟨otherGrants_backfill hbackfill, effectivePermissions_backfillAssignments h hbackfill,
      fun now' => backfill_of_settled (grantReferences_backfill h hbackfill).ids (settled_of_backfill hbackfill)⟩
  · rw [seedBackfill_eq] at hseed
    obtain ⟨hreferences, horganizations, heffective⟩ := Except.foldlM_invariant
      (I := fun db' => GrantReferences db' ∧ db'.organizations = db.organizations ∧
        db'.effectivePermissions = db.effectivePermissions)
      (fun _ _ _ hinv hstep => ⟨grantReferences_backfill hinv.1 hstep, (organizations_backfill hstep).trans hinv.2.1,
        (effectivePermissions_backfillAssignments hinv.1 hstep).trans hinv.2.2⟩) ⟨h, rfl, rfl⟩ hseed
    have hagain : ∀ organizationId ∈ db.organizations.map (·.id), ∀ now',
        backfillBotAccessRoleAssignments now' organizationId db' = .ok db' := fun organizationId hmem now' =>
      backfill_of_settled hreferences.ids (settled_foldlM hseed organizationId hmem)
    refine ⟨heffective, fun now' => ?_, hagain⟩
    rw [seedBackfill_eq, horganizations]
    exact foldlM_eq_self fun organizationId hmem => hagain organizationId hmem now'

/-! ## Fixed inputs -/

/-- An organization with an edited viewer, a grant that has its permissions, one that has not, and one that is linked. -/
def backfillExample : Database where
  organizations := [{ id := 0, slug := "default", name := "Default Organization" }]
  botRoles :=
    [{ id := 1, organizationId := 0, name := "Route Viewer", systemKey := some "route_viewer", permissions := {} }]
  botUsers :=
    [{ id := 2, organizationId := 0, role := "viewer", aadObjectId := "ada", displayName := "Ada" },
      { id := 3, organizationId := 0, role := "operator", aadObjectId := "bob", displayName := "Bob" }]
  botGroups :=
    [{ id := 4, organizationId := 0, roleId := some 1, role := "route_viewer", groupObjectId := "g", displayName := "G" }]
  nextId := 5

theorem role_backfill_safe_example :
    ∃ db', backfillBotAccessRoleAssignments 7 0 backfillExample = .ok db' ∧
      (db'.grants.map fun grant => (grant.roleId, grant.role)) = [(some 1, "route_viewer"), (none, "custom"),
        (some 1, "route_viewer")] ∧
      db'.effectivePermissions = backfillExample.effectivePermissions ∧
      backfillBotAccessRoleAssignments 8 0 db' = .ok db' := by
  have hgrants : (backfillBotAccessRoleAssignments 7 0 backfillExample).toOption.map
      (fun db => db.grants.map fun grant => (grant.roleId, grant.role)) =
        some [(some 1, "route_viewer"), (none, "custom"), (some 1, "route_viewer")] := by decide +kernel
  obtain ⟨db', hbackfill, hgrants⟩ := Option.map_eq_some_iff.1 hgrants
  have hbackfill := Except.toOption_eq_some_iff.1 hbackfill
  have hreferences : GrantReferences backfillExample :=
    ⟨⟨by decide, by decide⟩, by decide⟩
  obtain ⟨-, heffective, hagain⟩ := (role_backfill_safe hreferences 7).2.2.1 0 db' hbackfill
  exact ⟨db', hbackfill, hgrants, heffective, hagain 8⟩

end TeamsRehook
