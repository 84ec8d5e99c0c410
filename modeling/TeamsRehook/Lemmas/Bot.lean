import TeamsRehook.Bot.SenderGrants
import TeamsRehook.Lib.Except

/-!
# What the parts of `receive_bot_activity` do

The tables each part leaves alone, and every way a membership lookup, an authorization and a handled activity can end.
-/

namespace TeamsRehook

/-! ## References and organizations -/

/-- Finding the default organization adds at most that organization. -/
theorem defaultOrganization_eq (s : Settings) (db : Database) :
    ∃ organizations n, (defaultOrganization s db).1 = { db with organizations := organizations, nextId := n } ∧
    db.nextId ≤ n := by
  unfold defaultOrganization
  split
  · exact ⟨_, _, rfl, le_refl _⟩
  · exact ⟨_, _, rfl, Nat.le_succ _⟩

/-- The organization that a request works for: the default one of the tables it starts from, or one made later. -/
def OrganizationOf (s : Settings) (db : Database) (organizationId : Nat) : Prop :=
  (∃ organization, db.organizations.find? (·.slug == s.defaultOrgSlug) = some organization ∧
    organization.id = organizationId) ∨
    (db.organizations.find? (·.slug == s.defaultOrgSlug) = none ∧ db.nextId ≤ organizationId)

/-- The default organization, and that it is there afterwards. -/
theorem defaultOrganization_organizationOf (s : Settings) (db : Database) :
    OrganizationOf s db (defaultOrganization s db).2.id ∧
      (defaultOrganization s db).1.organizations.find? (·.slug == s.defaultOrgSlug) =
      some (defaultOrganization s db).2 := by
  unfold defaultOrganization OrganizationOf
  split
  next organization h => exact ⟨.inl ⟨organization, h, rfl⟩, h⟩
  next h => exact ⟨.inr ⟨h, le_refl _⟩, by simp [List.find?_append, h]⟩

/-- The default organization of tables that have it. -/
theorem defaultOrganization_of_found {s : Settings} {db : Database} {organization : Organization}
    (h : db.organizations.find? (·.slug == s.defaultOrgSlug) = some organization) :
    defaultOrganization s db = (db, organization) := by
  unfold defaultOrganization
  rw [h]

/-- Capturing a reference changes the references only. -/
theorem upsertReference_eq {P : Platform} {now : Int} {names : GraphNames} {fetched : Except Exn ConversationMembers}
    {captured : Captured} {db db' : Database} {reference : Option BotConversationReference}
    (h : upsertReference P now names fetched captured db = .ok (db', reference)) :
    ∃ references n, db' = { db with references := references, nextId := n } ∧ db.nextId ≤ n := by
  unfold upsertReference at h
  split at h
  · obtain ⟨rfl, -⟩ := Prod.mk.inj (Except.ok.inj h)
    exact ⟨_, _, rfl, le_refl _⟩
  · obtain ⟨r₁, -, h⟩ := Except.bind_eq_ok_iff.1 h
    obtain ⟨r₂, -, h⟩ := Except.bind_eq_ok_iff.1 h
    split at h
    · obtain ⟨rfl, -⟩ := Prod.mk.inj (Except.ok.inj h)
      exact ⟨_, _, rfl, le_refl _⟩
    · obtain ⟨rfl, -⟩ := Prod.mk.inj (Except.ok.inj h)
      exact ⟨_, _, rfl, Nat.le_succ _⟩

/-- A conversation with a service URL has a reference. -/
theorem upsertReference_isSome {P : Platform} {now : Int} {names : GraphNames} {fetched : Except Exn ConversationMembers}
    {captured : Captured} {db db' : Database} {reference : Option BotConversationReference}
    (h : upsertReference P now names fetched captured db = .ok (db', reference))
    (hconversation : captured.conversationId ≠ "") (hservice : captured.serviceUrl ≠ "") :
    ∃ found, reference = some found := by
  unfold upsertReference at h
  simp only [hconversation, hservice, or_self, if_false] at h
  obtain ⟨r₁, -, h⟩ := Except.bind_eq_ok_iff.1 h
  obtain ⟨r₂, -, h⟩ := Except.bind_eq_ok_iff.1 h
  split at h
  · exact ⟨r₂, (Prod.mk.inj (Except.ok.inj h)).2.symm⟩
  · exact ⟨r₂, (Prod.mk.inj (Except.ok.inj h)).2.symm⟩

/-! ## Membership -/

/-- How the ids of a sender's groups are found. -/
theorem botGroupIdsForSender_cases {P : Platform} {now : Int} {lookup : Except Exn (List String)} {organizationId : Nat}
    {aadObjectId : String} {db db' : Database} {ids : List String} {status : CacheStatus}
    (h : botGroupIdsForSender P now lookup organizationId aadObjectId db = .ok (db', ids, status)) :
    (status = .notConfigured ∧ db.looksUpMembership now organizationId aadObjectId = false ∧ ids = [] ∧ db' = db) ∨
    (status = .hit ∧ db.looksUpMembership now organizationId aadObjectId = false ∧ db' = db ∧
      ∃ row, db.membershipOf organizationId aadObjectId = some row ∧ row.unexpired now = true ∧ ids = row.ids P) ∨
    (status = .miss ∧ db.looksUpMembership now organizationId aadObjectId = true ∧ lookup = .ok ids ∧
      db' = storeMembership now organizationId aadObjectId ids db) ∨
    (status = .error ∧ db.looksUpMembership now organizationId aadObjectId = true ∧ ids = [] ∧
      ∃ message, lookup = .error (.graphLookup message) ∧
        db' = storeMembershipError now organizationId aadObjectId (Python.clip message 1000) db) := by
  unfold botGroupIdsForSender at h
  split at h
  next hgrants =>
    have looksUp : (db.membershipOf organizationId aadObjectId).filter (·.unexpired now) = none →
        db.looksUpMembership now organizationId aadObjectId = true := by
      intro hnone
      unfold Database.looksUpMembership
      rw [hgrants]
      cases hrow : db.membershipOf organizationId aadObjectId with
      | none => rfl
      | some row =>
        rw [hrow, Option.filter_eq_none_iff] at hnone
        simpa using hnone row rfl
    split at h
    next row hrow =>
      obtain ⟨hrow, hlive⟩ := Option.filter_eq_some_iff.1 hrow
      obtain ⟨rfl, hids, hstatus⟩ : db = db' ∧ row.ids P = ids ∧ CacheStatus.hit = status := by simpa using h
      exact .inr (.inl ⟨hstatus.symm, by simp [Database.looksUpMembership, hrow, hlive], rfl, row, hrow,
        hlive, hids.symm⟩)
    next hnone =>
      split at h
      next groupIds =>
        obtain ⟨hdb, rfl, hstatus⟩ :
            storeMembership now organizationId aadObjectId groupIds db = db' ∧ groupIds = ids ∧
            CacheStatus.miss = status := by
          simpa using h
        exact .inr (.inr (.inl ⟨hstatus.symm, looksUp hnone, rfl, hdb.symm⟩))
      next message =>
        obtain ⟨hdb, hids, hstatus⟩ : storeMembershipError now organizationId aadObjectId
            (Python.clip message 1000) db = db' ∧ [] = ids ∧ CacheStatus.error = status := by simpa using h
        exact .inr (.inr (.inr ⟨hstatus.symm, looksUp hnone, hids.symm, message, rfl, hdb.symm⟩))
      next => nomatch h
  next hgrants =>
    obtain ⟨rfl, hids, hstatus⟩ : db = db' ∧ [] = ids ∧ CacheStatus.notConfigured = status := by simpa using h
    exact .inl ⟨hstatus.symm, by simp [Database.looksUpMembership, hgrants], hids.symm, rfl⟩

/-- The groups of a sender are not found only when they are looked up and the lookup raises what is not caught. -/
theorem botGroupIdsForSender_eq_error_iff {P : Platform} {now : Int} {lookup : Except Exn (List String)}
    {organizationId : Nat} {aadObjectId : String} {db : Database} {e : Exn} :
    botGroupIdsForSender P now lookup organizationId aadObjectId db = .error e ↔
      db.looksUpMembership now organizationId aadObjectId = true ∧ lookup = .error e ∧
      ∀ message, e ≠ .graphLookup message := by
  unfold botGroupIdsForSender Database.looksUpMembership
  cases hgrants : db.hasGroupGrants organizationId with
  | false => simp
  | true =>
    simp only [if_true, Bool.true_and]
    cases hrow : db.membershipOf organizationId aadObjectId with
    | none =>
      cases lookup with
      | ok ids => simp
      | error e' => cases e' <;> simp <;> (rintro rfl; simp)
    | some row =>
      cases hlive : row.unexpired now with
      | true => simp [Option.filter, hlive]
      | false =>
        cases lookup with
        | ok ids => simp [Option.filter, hlive]
        | error e' => cases e' <;> simp [Option.filter, hlive] <;> (rintro rfl; simp)

/-- Finding the groups of a sender changes the membership cache only. -/
theorem botGroupIdsForSender_eq {P : Platform} {now : Int} {lookup : Except Exn (List String)} {organizationId : Nat}
    {aadObjectId : String} {db db' : Database} {ids : List String} {status : CacheStatus}
    (h : botGroupIdsForSender P now lookup organizationId aadObjectId db = .ok (db', ids, status)) :
    ∃ memberships n, db' = { db with groupMemberships := memberships, nextId := n } ∧ db.nextId ≤ n := by
  rcases botGroupIdsForSender_cases h with ⟨-, -, -, rfl⟩ | ⟨-, -, rfl, -⟩ | ⟨-, -, -, rfl⟩ | ⟨-, -, -, _, -, rfl⟩
  · exact ⟨_, _, rfl, le_refl _⟩
  · exact ⟨_, _, rfl, le_refl _⟩
  · unfold storeMembership
    split
    · exact ⟨_, _, rfl, le_refl _⟩
    · exact ⟨_, _, rfl, Nat.le_succ _⟩
  · exact ⟨_, _, rfl, le_refl _⟩

/-! ## Authorization -/

/-- The organization whose grants an authorization reads, and its tables. -/
theorem authorizeBotCommand_eq {P : Platform} {s : Settings} {now : Int} {answers : MembershipAnswers}
    {captured : Captured} {command : BotCommand} {argument : String} {db : Database}
    (haad : normalizedId P captured.graphUserId ≠ "") :
    authorizeBotCommand P s now answers captured command argument db =
      (botGroupIdsForSender P now (listUserTransitiveGroupIds P answers (normalizedId P captured.graphUserId))
        (defaultOrganization s db).2.id (normalizedId P captured.graphUserId) (defaultOrganization s db).1).bind fun r =>
      let botUser := (defaultOrganization s db).1.activeBotUser (defaultOrganization s db).2.id
        (normalizedId P captured.graphUserId)
      if r.2.2 = .error ∧ botUser = none then
        .ok (r.1, { denied := some .groupMembershipLookupUnavailable, cacheStatus := some r.2.2 })
      else
        let botGroups := if r.2.2 = .error then [] else matchingBotGroups P (defaultOrganization s db).2.id r.2.1 r.1
        let authorization := decideBotCommand P r.1.botRoles captured command argument botUser botGroups r.2.2
        .ok (if authorization.allowed then markGrantsUsed now botUser botGroups r.1 else r.1, authorization) := by
  unfold authorizeBotCommand
  simp only [haad, if_false]
  rfl

/-- How an authorization ends: without an id of the sender, when the groups are needed and cannot be looked up, or by a
decision. -/
theorem authorizeBotCommand_cases {P : Platform} {s : Settings} {now : Int} {answers : MembershipAnswers}
    {captured : Captured} {command : BotCommand} {argument : String} {db db' : Database} {a : BotCommandAuthorization}
    (h : authorizeBotCommand P s now answers captured command argument db = .ok (db', a)) :
    (normalizedId P captured.graphUserId = "" ∧ db' = db ∧ a = { denied := some .missingAadObjectId }) ∨
    ∃ db₁ ids status, normalizedId P captured.graphUserId ≠ "" ∧
      botGroupIdsForSender P now (listUserTransitiveGroupIds P answers (normalizedId P captured.graphUserId))
        (defaultOrganization s db).2.id (normalizedId P captured.graphUserId) (defaultOrganization s db).1 =
        .ok (db₁, ids, status) ∧
      ((status = .error ∧
          (defaultOrganization s db).1.activeBotUser (defaultOrganization s db).2.id
          (normalizedId P captured.graphUserId) = none ∧ db' = db₁ ∧
            a = { denied := some .groupMembershipLookupUnavailable, cacheStatus := some .error }) ∨
        ∃ botUser botGroups,
          botUser = (defaultOrganization s db).1.activeBotUser (defaultOrganization s db).2.id
          (normalizedId P captured.graphUserId) ∧
          botGroups = (if status = .error then [] else matchingBotGroups P (defaultOrganization s db).2.id ids db₁) ∧
          a = decideBotCommand P db₁.botRoles captured command argument botUser botGroups status ∧
          db' = (if a.allowed then markGrantsUsed now botUser botGroups db₁ else db₁)) := by
  by_cases haad : normalizedId P captured.graphUserId = ""
  · left
    unfold authorizeBotCommand at h
    simp only [haad, if_true] at h
    obtain ⟨rfl, rfl⟩ := Prod.mk.inj (Except.ok.inj h)
    exact ⟨haad, rfl, rfl⟩
  · right
    rw [authorizeBotCommand_eq haad] at h
    obtain ⟨⟨db₁, ids, status⟩, hids, h⟩ := Except.bind_eq_ok_iff.1 h
    refine ⟨db₁, ids, status, haad, hids, ?_⟩
    simp only at h
    split at h
    next herror =>
      obtain ⟨rfl, rfl⟩ := Prod.mk.inj (Except.ok.inj h)
      exact .inl ⟨herror.1, herror.2, rfl, by rw [herror.1]⟩
    next =>
      obtain ⟨rfl, rfl⟩ := Prod.mk.inj (Except.ok.inj h)
      exact .inr ⟨_, _, rfl, rfl, rfl, rfl⟩

/-- An authorization changes the organizations, the membership cache and the grants only. One that allows the command
has found or made the default organization. -/
theorem authorizeBotCommand_frame {P : Platform} {s : Settings} {now : Int} {answers : MembershipAnswers}
    {captured : Captured} {command : BotCommand} {argument : String} {db db' : Database} {a : BotCommandAuthorization}
    (h : authorizeBotCommand P s now answers captured command argument db = .ok (db', a)) :
    ∃ organizations memberships botUsers botGroups n,
      db' = { db with
        organizations := organizations
        groupMemberships := memberships
        botUsers := botUsers
        botGroups := botGroups
        nextId := n } ∧ db.nextId ≤ n ∧
      (a.allowed = true → organizations = (defaultOrganization s db).1.organizations) := by
  rcases authorizeBotCommand_cases h with ⟨-, rfl, rfl⟩ | ⟨db₁, ids, status, -, hids, h⟩
  · exact ⟨_, _, _, _, _, rfl, le_refl _, nofun⟩
  · obtain ⟨organizations, n, horg, hn⟩ := defaultOrganization_eq s db
    obtain ⟨memberships, n', rfl, hn'⟩ := botGroupIdsForSender_eq hids
    rw [horg] at h hn' ⊢
    rcases h with ⟨-, -, rfl, -⟩ | ⟨botUser, botGroups, -, -, -, rfl⟩
    · exact ⟨_, _, _, _, _, rfl, hn.trans hn', fun _ => rfl⟩
    · split
      · exact ⟨_, _, _, _, _, rfl, hn.trans hn', fun _ => rfl⟩
      · exact ⟨_, _, _, _, _, rfl, hn.trans hn', fun _ => rfl⟩

/-! ## The grants an authorization finds -/

section Grants

variable {P : Platform} {now : Int} {answers : MembershipAnswers} {organizationId : Nat} {aadObjectId : String}
    {db db' : Database}

/-- A row of the groups matches when it is in use in the organization and named. -/
theorem mem_matchingBotGroups {ids : List String} {group : BotAuthorizedGroup} :
    group ∈ matchingBotGroups P organizationId ids db ↔
      group ∈ db.botGroups ∧ group.organizationId = organizationId ∧ group.isActive = true ∧
        group.groupObjectId ∈ namedGroupIds P ids := by
  unfold matchingBotGroups namedGroupIds
  simp only
  rw [(List.perm_insertionSort _ _).mem_iff, List.mem_filter]
  simp [and_assoc]

/-- Where a group has a grant, the members that are known are the ids that are found, unless the lookup fails. -/
theorem knownMember_iff {ids : List String} {status : CacheStatus} {groupObjectId : String}
    (h : botGroupIdsForSender P now (listUserTransitiveGroupIds P answers aadObjectId) organizationId aadObjectId db =
      .ok (db', ids, status)) (hgrants : db.hasGroupGrants organizationId = true) :
    KnownMember P now answers organizationId aadObjectId db groupObjectId ↔
      status ≠ .error ∧ groupObjectId ∈ namedGroupIds P ids := by
  unfold botGroupIdsForSender at h
  rw [if_pos hgrants] at h
  split at h
  next row hfilter =>
    obtain ⟨hrow, hlive⟩ := Option.filter_eq_some_iff.1 hfilter
    obtain ⟨-, rfl, rfl⟩ : db = db' ∧ row.ids P = ids ∧ CacheStatus.hit = status := by simpa using h
    constructor
    · rintro (⟨hrow', -, hnamed⟩ | ⟨hlooks, -, -⟩)
      · obtain rfl := Option.some.inj (hrow.symm.trans hrow')
        exact ⟨nofun, hnamed⟩
      · simp [Database.looksUpMembership, hrow, hlive] at hlooks
    · exact fun ⟨_, hnamed⟩ => .cached hrow hlive hnamed
  next hfilter =>
    have hexpired : ∀ row, db.membershipOf organizationId aadObjectId = some row → ¬row.unexpired now = true :=
      fun row hrow =>
      Option.filter_eq_none_iff.1 hfilter row hrow
    have hlooks : db.looksUpMembership now organizationId aadObjectId = true := by
      unfold Database.looksUpMembership
      rw [hgrants]
      cases hrow : db.membershipOf organizationId aadObjectId with
      | none => rfl
      | some row => simpa using hexpired row hrow
    split at h
    next groupIds hlookup =>
      obtain ⟨-, rfl, rfl⟩ : storeMembership now organizationId aadObjectId groupIds db = db' ∧ groupIds = ids ∧
          CacheStatus.miss = status := by simpa using h
      constructor
      · rintro (⟨hrow, hlive, -⟩ | ⟨-, hids, hnamed⟩)
        · exact absurd hlive (hexpired _ hrow)
        · obtain rfl := Except.ok.inj (hlookup.symm.trans hids)
          exact ⟨nofun, hnamed⟩
      · exact fun ⟨_, hnamed⟩ => .lookedUp hlooks hlookup hnamed
    next message hlookup =>
      obtain ⟨-, -, rfl⟩ : storeMembershipError now organizationId aadObjectId (Python.clip message 1000) db = db' ∧
          [] = ids ∧ CacheStatus.error = status := by simpa using h
      constructor
      · rintro (⟨hrow, hlive, -⟩ | ⟨-, hids, -⟩)
        · exact absurd hlive (hexpired _ hrow)
        · rw [hlookup] at hids
          nomatch hids
      · exact fun ⟨herror, _⟩ => absurd rfl herror
    next => nomatch h

/-- The grants of a sender depend on the grants and the memberships only. -/
theorem SenderGrant.of_tables {grant : BotGrant} (h : SenderGrant P now answers organizationId aadObjectId db grant)
    (husers : db'.botUsers = db.botUsers) (hgroups : db'.botGroups = db.botGroups)
    (hmemberships : db'.groupMemberships = db.groupMemberships) :
    SenderGrant P now answers organizationId aadObjectId db' grant := by
  have hrow : db'.membershipOf organizationId aadObjectId = db.membershipOf organizationId aadObjectId := by
    unfold Database.membershipOf
    rw [hmemberships]
  have hlooksUp : db'.looksUpMembership now organizationId aadObjectId =
      db.looksUpMembership now organizationId aadObjectId := by
    unfold Database.looksUpMembership Database.hasGroupGrants
    rw [hrow, hgroups]
  cases h with
  | own huser hactive => exact .own (by rw [husers]; exact huser) hactive
  | group hgroup horganization hactive hmember =>
    refine .group (by rw [hgroups]; exact hgroup) horganization hactive ?_
    cases hmember with
    | cached hfound hlive hnamed => exact .cached (hrow.trans hfound) hlive hnamed
    | lookedUp hlooks hids hnamed => exact .lookedUp (hlooksUp.trans hlooks) hids hnamed

/-- The grant of a sender that is in use is its own. -/
theorem activeBotUser_eq_some_iff {user : BotAuthorizedUser} :
    db.activeBotUser organizationId aadObjectId = some user ↔
      db.botUsers.find? (fun row => row.organizationId == organizationId && row.aadObjectId == aadObjectId) = some user ∧
        user.isActive = true := by
  unfold Database.activeBotUser
  exact Option.filter_eq_some_iff

/-- The grants that are found are those of the sender. -/
theorem mem_found_iff {ids : List String} {status : CacheStatus} {grant : BotGrant} {db₁ : Database}
    (hids : botGroupIdsForSender P now (listUserTransitiveGroupIds P answers aadObjectId) organizationId aadObjectId db =
      .ok (db₁, ids, status)) :
    (grant ∈ ((db.activeBotUser organizationId aadObjectId).map (·.toBotGrant)).toList ++
        (if status = .error then [] else matchingBotGroups P organizationId ids db₁).map (·.toBotGrant)) ↔
      SenderGrant P now answers organizationId aadObjectId db grant := by
  obtain ⟨memberships, n, rfl, -⟩ := botGroupIdsForSender_eq hids
  have hgrants : ∀ {group : BotAuthorizedGroup}, group ∈ db.botGroups → group.organizationId = organizationId →
      group.isActive = true → db.hasGroupGrants organizationId = true := fun hgroup horganization hactive =>
    List.any_eq_true.2 ⟨_, hgroup, by simp [horganization, hactive]⟩
  simp only [List.mem_append, Option.mem_toList, Option.map_eq_some_iff, activeBotUser_eq_some_iff, List.mem_map]
  constructor
  · rintro (⟨user, ⟨huser, hactive⟩, rfl⟩ | ⟨group, hgroup, rfl⟩)
    · exact .own huser hactive
    · split at hgroup
      · exact absurd hgroup List.not_mem_nil
      next herror =>
        obtain ⟨hmem, horganization, hactive, hnamed⟩ := mem_matchingBotGroups.1 hgroup
        exact .group hmem horganization hactive ((knownMember_iff hids (hgrants hmem horganization hactive)).2
          ⟨herror, hnamed⟩)
  · intro h
    cases h with
    | own huser hactive => exact .inl ⟨_, ⟨huser, hactive⟩, rfl⟩
    | group hgroup horganization hactive hmember =>
      obtain ⟨herror, hnamed⟩ := (knownMember_iff hids (hgrants hgroup horganization hactive)).1 hmember
      rw [if_neg herror]
      exact .inr ⟨_, mem_matchingBotGroups.2 ⟨hgroup, horganization, hactive, hnamed⟩, rfl⟩

end Grants

/-- The permissions of grants are those one of them gives. -/
theorem get_unionBotPermissions {roles : List BotAccessRole} {sources : List BotGrant} {p : BotPermission} :
    (unionBotPermissions roles sources).get p = true ↔
    ∃ source ∈ sources, (effectiveBotPermissions roles source).get p = true := by
  rw [unionBotPermissions, BotPermissions.get_ofFields, List.any_eq_true]

/-- A decision uses the grants it is given, gives their permissions, and allows a command of a sender with a grant and
the permission the command requires. -/
theorem decideBotCommand_spec (P : Platform) (roles : List BotAccessRole) (captured : Captured) (command : BotCommand)
    (argument : String) (botUser : Option BotAuthorizedUser) (botGroups : List BotAuthorizedGroup)
    (status : CacheStatus) : let a := decideBotCommand P roles captured command argument botUser botGroups status
    a.sources = (botUser.map (·.toBotGrant)).toList ++ botGroups.map (·.toBotGrant) ∧
      a.permissions = unionBotPermissions roles a.sources ∧
      (a.allowed = true ↔ a.sources ≠ [] ∧ ∀ p, requiredBotPermission P command argument captured = some p →
        a.permissions.get p = true) := by
  unfold decideBotCommand
  simp only
  split
  next hempty =>
    have hsources := List.isEmpty_iff.1 hempty
    rw [hsources]
    simp [BotCommandAuthorization.sources, BotCommandAuthorization.allowed]
  next hsome =>
    have hsources := fun h => hsome (List.isEmpty_iff.2 h)
    exact ⟨rfl, rfl, fun hallowed => ⟨hsources, missingPermission_isNone_iff.1 hallowed⟩, fun h =>
      missingPermission_isNone_iff.2 h.2⟩

/-- What an authorization finds, from the tables: the grants of the sender, the permissions these give, and that the
command is allowed exactly with a grant and the permission it requires. -/
theorem authorizeBotCommand_spec {P : Platform} {s : Settings} {now : Int} {answers : MembershipAnswers}
    {captured : Captured} {command : BotCommand} {argument : String} {db db' : Database} {a : BotCommandAuthorization}
    (h : authorizeBotCommand P s now answers captured command argument db = .ok (db', a)) :
    (∀ grant, grant ∈ a.sources ↔ normalizedId P captured.graphUserId ≠ "" ∧
      SenderGrant P now answers (defaultOrganization s db).2.id (normalizedId P captured.graphUserId) db grant) ∧
    (∀ p, a.permissions.get p = true ↔ ∃ source ∈ a.sources, (effectiveBotPermissions db.botRoles source).get p = true) ∧
    (a.allowed = true ↔
      a.sources ≠ [] ∧ ∀ p, requiredBotPermission P command argument captured = some p → a.permissions.get p = true) := by
  have hdenied : ∀ (reason : DenialReason) (status : Option CacheStatus),
      let a : BotCommandAuthorization := { denied := some reason, cacheStatus := status }
      a.sources = [] ∧ (∀ p, a.permissions.get p = true ↔
        ∃ source ∈ a.sources, (effectiveBotPermissions db.botRoles source).get p = true) ∧
        (a.allowed = true ↔
          a.sources ≠ [] ∧ ∀ p, requiredBotPermission P command argument captured = some p →
            a.permissions.get p = true) := by
    intro reason status
    simp [BotCommandAuthorization.sources, BotCommandAuthorization.allowed]
  obtain ⟨organizations, n, horg, -⟩ := defaultOrganization_eq s db
  rcases authorizeBotCommand_cases h with ⟨haad, -, rfl⟩ | ⟨db₁, ids, status, haad, hids, h⟩
  · obtain ⟨hsources, hrest⟩ := hdenied .missingAadObjectId none
    refine ⟨fun grant => ?_, hrest⟩
    rw [hsources]
    simp [haad]
  · have hfound : ∀ grant, _ ↔ SenderGrant P now answers _ _ _ grant := fun grant => mem_found_iff hids
    have htables : ∀ grant, SenderGrant P now answers (defaultOrganization s db).2.id
      (normalizedId P captured.graphUserId)
        (defaultOrganization s db).1 grant ↔ SenderGrant P now answers (defaultOrganization s db).2.id
          (normalizedId P captured.graphUserId) db grant := by
      intro grant
      rw [horg]
      exact ⟨fun h => h.of_tables rfl rfl rfl, fun h => h.of_tables rfl rfl rfl⟩
    rcases h with ⟨rfl, hnone, -, rfl⟩ | ⟨botUser, botGroups, rfl, rfl, rfl, -⟩
    · obtain ⟨hsources, hrest⟩ := hdenied .groupMembershipLookupUnavailable (some .error)
      refine ⟨fun grant => ?_, hrest⟩
      rw [hsources, ← htables, ← hfound, hnone]
      simp
    · obtain ⟨hsources, hpermissions, hallowed⟩ := decideBotCommand_spec P db₁.botRoles captured command argument
        ((defaultOrganization s db).1.activeBotUser (defaultOrganization s db).2.id (normalizedId P captured.graphUserId))
        (if status = .error then [] else matchingBotGroups P (defaultOrganization s db).2.id ids db₁) status
      have hroles : db₁.botRoles = db.botRoles := by
        obtain ⟨memberships, n', rfl, -⟩ := botGroupIdsForSender_eq hids
        rw [horg]
      refine ⟨fun grant => ?_, fun p => ?_, hallowed⟩
      · rw [hsources, hfound, htables]
        exact ⟨fun h => ⟨haad, h⟩, fun h => h.2⟩
      · rw [hpermissions, get_unionBotPermissions, hroles]

/-- The organization of a sender's grant is one whose id was drawn. -/
theorem SenderGrant.organization_lt {P : Platform} {now : Int} {answers : MembershipAnswers} {organizationId : Nat}
    {aadObjectId : String} {db : Database} {grant : BotGrant}
    (h : SenderGrant P now answers organizationId aadObjectId db grant) (hkeys : db.GrantKeys) : organizationId <
        db.nextId := by
  cases h with
  | own huser _ =>
    have horganization := List.find?_some huser
    simp only [Bool.and_eq_true, beq_iff_eq] at horganization
    exact horganization.1 ▸ hkeys.users _ (List.mem_of_find?_eq_some huser)
  | group hgroup horganization _ _ => exact horganization ▸ hkeys.groups _ hgroup

section Activity

variable {P : Platform} {s : Settings} {run : BotRun} {captured : Captured} {command : BotCommand} {argument : String}
  {reference : Option BotConversationReference} {db db₁ db₂ : Database} {a : BotCommandAuthorization}

/-- The grants an activity's authorization finds, after the reference was captured, are those of its sender in the
tables before. -/
theorem mem_sources_iff (hkeys : db.GrantKeys)
    (hupsert : upsertReference P run.now run.referenceNames run.members captured db = .ok (db₁, reference))
    (h : authorizeBotCommand P s run.now run.membership captured command argument db₁ = .ok (db₂, a)) (grant : BotGrant) :
    grant ∈ a.sources ↔ GrantOfSender P s run captured db grant := by
  obtain ⟨references, n, rfl, hn⟩ := upsertReference_eq hupsert
  rw [(authorizeBotCommand_spec h).1, GrantOfSender]
  refine and_congr_right fun _ => ?_
  cases hfind : db.organizations.find? (·.slug == s.defaultOrgSlug) with
  | some organization =>
    have horg : defaultOrganization s { db with references := references, nextId := n } = (_, organization) :=
      defaultOrganization_of_found hfind
    rw [horg]
    constructor
    · exact fun hgrant => ⟨organization, rfl, hgrant.of_tables rfl rfl rfl⟩
    · rintro ⟨_, ⟨⟩, hgrant⟩
      exact hgrant.of_tables rfl rfl rfl
  | none =>
    constructor
    · intro hgrant
      rcases (defaultOrganization_organizationOf s { db with references := references, nextId := n }).1 with ⟨_,
        hsome, -⟩ | ⟨-, hle⟩
      · rw [hfind] at hsome
        nomatch hsome
      · have hbefore : SenderGrant P run.now run.membership _ (normalizedId P captured.graphUserId) db grant :=
          hgrant.of_tables rfl rfl rfl
        have hlt := hbefore.organization_lt hkeys
        simp only at hle
        omega
    · rintro ⟨_, hnone, -⟩
      nomatch hnone

/-- The permissions an activity's authorization finds are those its sender has. -/
theorem get_permissions_iff (hkeys : db.GrantKeys)
    (hupsert : upsertReference P run.now run.referenceNames run.members captured db = .ok (db₁, reference))
    (h : authorizeBotCommand P s run.now run.membership captured command argument db₁ = .ok (db₂, a))
    (p : BotPermission) :
    a.permissions.get p = true ↔ SenderHas P s run captured db p := by
  obtain ⟨references, n, rfl, -⟩ := upsertReference_eq hupsert
  rw [(authorizeBotCommand_spec h).2.1]
  exact exists_congr fun grant => and_congr_left fun _ => mem_sources_iff hkeys hupsert h grant

/-- An activity's authorization allows the commands its sender may run. -/
theorem allowed_iff_senderMayRun {activity : List (String × Json)} (hkeys : db.GrantKeys)
    (hcommand : commandOf P activity = some (command, argument))
    (hupsert : upsertReference P run.now run.referenceNames run.members (extractActivity P activity) db =
      .ok (db₁, reference))
    (h : authorizeBotCommand P s run.now run.membership (extractActivity P activity) command argument db₁ =
      .ok (db₂, a)) :
    a.allowed = true ↔ SenderMayRun P s run activity db := by
  have hgrants : a.sources ≠ [] ↔ ∃ grant, GrantOfSender P s run (extractActivity P activity) db grant := by
    constructor
    · intro hne
      obtain ⟨grant, hgrant⟩ := List.exists_mem_of_ne_nil _ hne
      exact ⟨grant, (mem_sources_iff hkeys hupsert h grant).1 hgrant⟩
    · rintro ⟨grant, hgrant⟩
      exact List.ne_nil_of_mem ((mem_sources_iff hkeys hupsert h grant).2 hgrant)
  rw [(authorizeBotCommand_spec h).2.2, hgrants]
  simp only [get_permissions_iff hkeys hupsert h]
  constructor
  · exact fun hallowed => ⟨command, argument, hcommand, hallowed⟩
  · rintro ⟨command', argument', hcommand', hallowed⟩
    obtain ⟨rfl, rfl⟩ := Prod.mk.inj (Option.some.inj (hcommand.symm.trans hcommand'))
    exact hallowed

end Activity

end TeamsRehook
