import TeamsRehook.Lib.Splitting
import TeamsRehook.Bot.MembershipHistory
import TeamsRehook.Lemmas.Commands

/-!
# Freshness of group permissions

A group counts for a sender only when a lookup of at most ten minutes ago named it. What carries this over a history is
that every row of the cache goes back to a recorded lookup.
-/

namespace TeamsRehook

/-- An id in its normal form stays as it is when it is brought to it once more, as `str.lower` behaves on what it gives.
-/
def Platform.NormalizesIds (P : Platform) : Prop := ∀ value, normalizedId P (normalizedId P value) = normalizedId P value

/-- A row of the cache holds what a recorded lookup gave, and expires ten minutes after it. -/
def BotUserGroupMembershipCache.BackedBy (lookups : List MembershipLookup) (row : BotUserGroupMembershipCache) : Prop :=
  ∀ expiresAt, row.expiresAt = some expiresAt →
    ∃ lookup ∈ lookups, lookup.aadObjectId = row.aadObjectId ∧ lookup.groupIds = row.groupIds ∧
      expiresAt = lookup.time + botGroupMembershipCacheTtl

/-- Every row of the cache goes back to a lookup, and no lookup is later than the clock. -/
structure MembershipHistory.CacheBacked (P : Platform) (x : MembershipHistory) : Prop where
  rows : ∀ row ∈ x.db.groupMemberships, row.BackedBy x.lookups
  times : ∀ lookup ∈ x.lookups, lookup.time ≤ x.clock
  ids : ∀ lookup ∈ x.lookups, ∀ id ∈ lookup.groupIds, ∃ value, id = normalizedId P value

/-- The grant of the sender that is in use. -/
def directGrant (P : Platform) (s : Settings) (captured : Captured) (db : Database) : Option BotAuthorizedUser :=
  (defaultOrganization s db).1.activeBotUser (defaultOrganization s db).2.id (normalizedId P captured.graphUserId)

/-- The exception in which the lookup of the sender's groups ends, when they are looked up and it raises. -/
def failedLookup (P : Platform) (s : Settings) (run : BotRun) (captured : Captured) (db : Database) : Option Exn :=
  if (defaultOrganization s db).1.looksUpMembership run.now (defaultOrganization s db).2.id
    (normalizedId P captured.graphUserId) then
    match listUserTransitiveGroupIds P run.membership (normalizedId P captured.graphUserId) with
    | .ok _ => none
    | .error e => some e
  else none

/-- The group is in use, and a lookup of at most ten minutes ago named it for the sender. -/
def BotAuthorizedGroup.FreshFor (P : Platform) (run : BotRun) (captured : Captured) (lookups : List MembershipLookup)
    (db : Database) (group : BotAuthorizedGroup) : Prop :=
  group ∈ db.botGroups ∧ group.isActive = true ∧
    ∃ lookup ∈ lookups, lookup.aadObjectId = normalizedId P captured.graphUserId ∧ lookup.time ≤ run.now ∧
      run.now ≤ lookup.time + minutes 10 ∧ group.groupObjectId ∈ lookup.groupIds

/-- The grants that may authorize a command: the sender's own that is in use, and, unless the lookup of the groups
failed, those of the groups a recent lookup named. -/
inductive CountingGrant (P : Platform) (s : Settings) (run : BotRun) (captured : Captured)
    (lookups : List MembershipLookup) (db : Database) : BotGrant → Prop
  | own {user : BotAuthorizedUser} (huser : directGrant P s captured db = some user) :
    CountingGrant P s run captured lookups db user.toBotGrant
  | group {group : BotAuthorizedGroup} (hlookup : failedLookup P s run captured db = none)
    (hfresh : group.FreshFor P run captured lookups db) : CountingGrant P s run captured lookups db group.toBotGrant

/-- What group permissions are to be in the authorization of a command, given the lookups made so far: a command is
authorized only by grants that count, which give the permission it requires; a group that counts is active and was named
by a recent lookup, a failed lookup makes no group count, and a direct grant keeps its permissions. -/
structure GroupPermissionLaw (P : Platform) (s : Settings) (run : BotRun) (captured : Captured) (command : BotCommand)
    (argument : String) (lookups : List MembershipLookup) (db : Database) : Prop where
  authorized : ∀ db' a, authorizeBotCommand P s run.now run.membership captured command argument db = .ok (db', a) →
    a.allowed = true → (∃ grant, CountingGrant P s run captured lookups db grant) ∧
      ∀ p, requiredBotPermission P command argument captured = some p →
        ∃ grant, CountingGrant P s run captured lookups db grant ∧
        (effectiveBotPermissions db.botRoles grant).get p = true
  fresh : ∀ db' a, authorizeBotCommand P s run.now run.membership captured command argument db = .ok (db', a) →
    ∀ group ∈ a.botGroups, group.FreshFor P run captured lookups db
  granted : ∀ db' a, authorizeBotCommand P s run.now run.membership captured command argument db = .ok (db', a) →
    ∀ p, a.permissions.get p = true ↔ ∃ source ∈ a.sources, (effectiveBotPermissions db.botRoles source).get p = true
  failed : ∀ db' a, authorizeBotCommand P s run.now run.membership captured command argument db = .ok (db', a) →
    (failedLookup P s run captured db).isSome → a.botGroups = []
  direct : normalizedId P captured.graphUserId ≠ "" → ∀ user, directGrant P s captured db = some user →
    ∃ db' a, authorizeBotCommand P s run.now run.membership captured command argument db = .ok (db', a) ∧
      a.botUser = some user ∧ (∀ p, (effectiveBotPermissions db.botRoles user.toBotGrant).get p = true →
        a.permissions.get p = true) ∧
      ((failedLookup P s run captured db).isSome → a.permissions = effectiveBotPermissions db.botRoles user.toBotGrant) ∧
      (a.allowed = true ↔ ∀ p, requiredBotPermission P command argument captured = some p → a.permissions.get p = true)

/-! ## Lookups -/

namespace GroupPermissionsAux

/-- The ids on a page are in their normal form. -/
theorem normalized_of_groupIdsOfPage {P : Platform} {data : Json} {ids : List String}
    (h : groupIdsOfPage P data = .ok ids) {id : String} (hid : id ∈ ids) : ∃ value, id = normalizedId P value := by
  unfold groupIdsOfPage at h
  obtain ⟨groups, -, h⟩ := Except.bind_eq_ok_iff.1 h
  obtain ⟨group, -, hgroup⟩ := (Except.mem_of_mapM_eq_ok h).1 hid
  obtain ⟨value, -, hvalue⟩ := Except.bind_eq_ok_iff.1 hgroup
  exact ⟨_, (Except.ok.inj hvalue).symm⟩

/-- The ids a lookup gives are in their normal form. -/
theorem normalized_of_lookup {P : Platform} {answers : MembershipAnswers} {userId : String} {ids : List String}
    (h : listUserTransitiveGroupIds P answers userId = .ok ids) : ∀ id ∈ ids, ∃ value, id = normalizedId P value := by
  intro id hid
  unfold listUserTransitiveGroupIds at h
  split at h
  · cases h
    nomatch hid
  · obtain ⟨_, -, h⟩ := Except.bind_eq_ok_iff.1 h
    obtain ⟨pages, -, h⟩ := Except.bind_eq_ok_iff.1 h
    obtain ⟨lists, hlists, h⟩ := Except.bind_eq_ok_iff.1 h
    cases h
    have hmem := (Python.mem_foldl_distinct.1 hid).resolve_left List.not_mem_nil
    obtain ⟨list, hlist, hid⟩ := List.mem_flatten.1 (List.mem_of_mem_filter hmem)
    obtain ⟨data, -, hdata⟩ := (Except.mem_of_mapM_eq_ok hlists).1 hlist
    exact normalized_of_groupIdsOfPage hdata hid

/-- The lookup of an authorization is the one that is recorded. -/
theorem mem_successfulLookup {P : Platform} {s : Settings} {run : BotRun} {aadObjectId : String} {db : Database}
    {ids : List String} (haad : aadObjectId ≠ "")
    (hlooks : (defaultOrganization s db).1.looksUpMembership run.now (defaultOrganization s db).2.id aadObjectId = true)
    (hids : listUserTransitiveGroupIds P run.membership aadObjectId = .ok ids) :
    (⟨run.now, aadObjectId, ids⟩ : MembershipLookup) ∈ successfulLookup P s run aadObjectId db := by
  simp [successfulLookup, haad, hlooks, hids]

/-- What is recorded is a lookup of the sender now, with ids in their normal form. -/
theorem of_mem_successfulLookup {P : Platform} {s : Settings} {run : BotRun} {aadObjectId : String} {db : Database}
    {lookup : MembershipLookup} (h : lookup ∈ successfulLookup P s run aadObjectId db) :
    lookup.time = run.now ∧ ∀ id ∈ lookup.groupIds, ∃ value, id = normalizedId P value := by
  unfold successfulLookup at h
  simp only at h
  split at h
  · split at h
    · next hids =>
      obtain rfl := List.mem_singleton.1 h
      exact ⟨rfl, normalized_of_lookup hids⟩
    · nomatch h
  · nomatch h

/-- What an activity records is a lookup of its sender. -/
theorem of_mem_lookupsOfActivity {P : Platform} {s : Settings} {run : BotRun} {activity : List (String × Json)}
    {db : Database} {lookup : MembershipLookup} (h : lookup ∈ lookupsOfActivity P s run activity db) :
    lookup.time = run.now ∧ ∀ id ∈ lookup.groupIds, ∃ value, id = normalizedId P value := by
  unfold lookupsOfActivity at h
  simp only at h
  split at h
  · exact of_mem_successfulLookup h
  · nomatch h

/-! ## The cache -/

/-- More lookups back the same rows. -/
theorem BackedBy.mono {lookups more : List MembershipLookup} {row : BotUserGroupMembershipCache}
    (h : row.BackedBy lookups) (hsub : lookups ⊆ more) : row.BackedBy more := by
  intro expiresAt hexpires
  obtain ⟨lookup, hlookup, hrest⟩ := h expiresAt hexpires
  exact ⟨lookup, hsub hlookup, hrest⟩

/-- A row of a sender that holds the ids of a recorded lookup made now is backed by it. -/
theorem backedBy_store {lookups : List MembershipLookup} {now : Int} {ids : List String}
    {row : BotUserGroupMembershipCache} (h : (⟨now, row.aadObjectId, ids⟩ : MembershipLookup) ∈ lookups) :
    (row.store now ids).BackedBy lookups := by
  intro expiresAt hexpires
  cases hexpires
  exact ⟨_, h, rfl, rfl, rfl⟩

/-- Finding the groups of a sender leaves every row of the cache backed. -/
theorem backed_botGroupIdsForSender {P : Platform} {now : Int} {lookup : Except Exn (List String)} {organizationId : Nat}
    {aadObjectId : String} {db db' : Database} {ids : List String} {status : CacheStatus}
    {lookups : List MembershipLookup}
    (h : botGroupIdsForSender P now lookup organizationId aadObjectId db = .ok (db', ids, status))
    (hrows : ∀ row ∈ db.groupMemberships, row.BackedBy lookups)
    (hmiss : db.looksUpMembership now organizationId aadObjectId = true → lookup = .ok ids →
      (⟨now, aadObjectId, ids⟩ : MembershipLookup) ∈ lookups) :
    ∀ row ∈ db'.groupMemberships, row.BackedBy lookups := by
  rcases botGroupIdsForSender_cases h with ⟨-, -, -, rfl⟩ | ⟨-, -, rfl, -⟩ | ⟨-, hlooks, hok, rfl⟩ | ⟨-, -, -, _, -, rfl⟩
  · exact hrows
  · exact hrows
  · have hmem := hmiss hlooks hok
    unfold storeMembership
    split
    · apply Table.forall_mem_update hrows
      intro row _ hsender
      obtain ⟨-, haad⟩ : row.organizationId = organizationId ∧ row.aadObjectId = aadObjectId := by
        simpa [BotUserGroupMembershipCache.ofSender] using hsender
      exact backedBy_store (by rw [haad]; exact hmem)
    · intro row hrow
      rcases List.mem_append.1 hrow with hrow | hrow
      · exact hrows row hrow
      · obtain rfl := List.mem_singleton.1 hrow
        exact backedBy_store hmem
  · exact Table.forall_mem_update hrows fun row hrow _ => hrows row hrow

/-- The groups of a sender come from a recorded lookup of at most ten minutes ago. -/
theorem recent_of_botGroupIdsForSender {P : Platform} (hP : P.NormalizesIds) {now : Int}
    {lookup : Except Exn (List String)} {organizationId : Nat} {aadObjectId : String} {db db' : Database}
    {ids : List String} {status : CacheStatus} {lookups : List MembershipLookup}
    (h : botGroupIdsForSender P now lookup organizationId aadObjectId db = .ok (db', ids, status))
    (hrows : ∀ row ∈ db.groupMemberships, row.BackedBy lookups) (htimes : ∀ l ∈ lookups, l.time ≤ now)
    (hids : ∀ l ∈ lookups, ∀ id ∈ l.groupIds, ∃ value, id = normalizedId P value)
    (hmiss : db.looksUpMembership now organizationId aadObjectId = true → lookup = .ok ids →
      (⟨now, aadObjectId, ids⟩ : MembershipLookup) ∈ lookups)
    {groupId : String} (hgroup : groupId ∈ (ids.filter fun id => Python.strip id != "").map (normalizedId P)) :
    ∃ l ∈ lookups, l.aadObjectId = aadObjectId ∧ l.time ≤ now ∧ now ≤ l.time + minutes 10 ∧ groupId ∈ l.groupIds := by
  have hfixed : ∀ l ∈ lookups, ∀ id ∈ l.groupIds, normalizedId P id = id := by
    intro l hl id hid
    obtain ⟨value, rfl⟩ := hids l hl id hid
    exact hP value
  obtain ⟨id, hid, rfl⟩ := List.mem_map.1 hgroup
  have hid := List.mem_of_mem_filter hid
  rcases botGroupIdsForSender_cases h with ⟨-, -, rfl, -⟩ | ⟨-, -, -, row, hrow, hlive, rfl⟩ | ⟨-, hlooks, hok,
    -⟩ | ⟨-, -, rfl, -⟩
  · nomatch hid
  · obtain ⟨expiresAt, hexpires, hlater⟩ : ∃ expiresAt, row.expiresAt = some expiresAt ∧ now < expiresAt := by
      simpa [BotUserGroupMembershipCache.unexpired, Option.any_eq_true] using hlive
    obtain ⟨l, hl, haad, hlids, rfl⟩ := hrows row (List.mem_of_find?_eq_some hrow) expiresAt hexpires
    have hsender : row.aadObjectId = aadObjectId := by
      have := List.find?_some hrow
      simp only [BotUserGroupMembershipCache.ofSender, Bool.and_eq_true, beq_iff_eq] at this
      exact this.2
    obtain ⟨stored, hstored, rfl⟩ := List.mem_map.1 hid
    have hstored : stored ∈ l.groupIds := hlids ▸ List.mem_of_mem_filter hstored
    refine ⟨l, hl, haad.trans hsender, htimes l hl, le_of_lt hlater, ?_⟩
    rw [hP, hfixed l hl stored hstored]
    exact hstored
  · have hl := hmiss hlooks hok
    refine ⟨_, hl, rfl, le_refl _, by simp only [minutes]; omega, ?_⟩
    rw [hfixed _ hl id hid]
    exact hid
  · nomatch hid

/-- An authorization leaves every row of the cache backed by the lookups made before it and its own. -/
theorem backed_authorizeBotCommand {P : Platform} {s : Settings} {run : BotRun} {captured : Captured}
    {command : BotCommand} {argument : String} {db db' : Database} {a : BotCommandAuthorization}
    {lookups : List MembershipLookup}
    (h : authorizeBotCommand P s run.now run.membership captured command argument db = .ok (db', a))
    (hrows : ∀ row ∈ db.groupMemberships, row.BackedBy lookups) :
    ∀ row ∈ db'.groupMemberships,
      row.BackedBy (lookups ++ successfulLookup P s run (normalizedId P captured.graphUserId) db) := by
  have hmore : ∀ row ∈ db.groupMemberships,
      row.BackedBy (lookups ++ successfulLookup P s run (normalizedId P captured.graphUserId) db) := fun row hrow =>
    BackedBy.mono (hrows row hrow) (List.subset_append_left _ _)
  rcases authorizeBotCommand_cases h with ⟨-, rfl, -⟩ | ⟨db₁, ids, status, haad, hids, h⟩
  · exact hmore
  · obtain ⟨organizations, n, horg, -⟩ := defaultOrganization_eq s db
    have hbacked := backed_botGroupIdsForSender hids (by rw [horg]; exact hmore) fun hlooks hok =>
      List.mem_append_right lookups (mem_successfulLookup haad hlooks hok)
    rcases h with ⟨-, -, rfl, -⟩ | ⟨botUser, botGroups, -, -, -, rfl⟩
    · exact hbacked
    · split
      · exact hbacked
      · exact hbacked

/-- An activity leaves every row of the cache backed by the lookups made before it and its own. -/
theorem backed_receiveActivity {P : Platform} {s : Settings} {run : BotRun} {activity : List (String × Json)}
    {db db' : Database} {authorization : Option BotCommandAuthorization} {lookups : List MembershipLookup}
    (h : receiveActivity P s run activity db = .ok (db', authorization))
    (hrows : ∀ row ∈ db.groupMemberships, row.BackedBy lookups) :
    ∀ row ∈ db'.groupMemberships, row.BackedBy (lookups ++ lookupsOfActivity P s run activity db) := by
  obtain ⟨db₁, reference, hupsert, h⟩ := receiveActivity_cases h
  obtain ⟨references, n, rfl, -⟩ := upsertReference_eq hupsert
  rcases h with ⟨hnone, rfl, -⟩ | ⟨command, argument, db₂, a, hcommand, -, hauthorize, h⟩
  · exact fun row hrow => BackedBy.mono (hrows row hrow) (List.subset_append_left _ _)
  · have hlookups : lookupsOfActivity P s run activity db =
        successfulLookup P s run (normalizedId P (extractActivity P activity).graphUserId)
          { db with references := references, nextId := n } := by
      simp only [lookupsOfActivity, hcommand, hupsert]
    have hbacked := backed_authorizeBotCommand hauthorize hrows
    rw [hlookups]
    rcases h with ⟨-, rfl⟩ | ⟨-, hhandle⟩
    · exact hbacked
    · obtain ⟨_, _, _, _, _, rfl, -⟩ := (handleCommand_end (strip_of_commandOf hcommand) hhandle).frame
      exact hbacked

/-- Every step keeps the cache backed. -/
theorem cacheBacked_step {P : Platform} {x x' : MembershipHistory} {a : MembershipStep} (hx : x.CacheBacked P)
    (h : membershipStep P x a = some x') : x'.CacheBacked P := by
  cases a with
  | activity s run activity =>
    simp only [membershipStep] at h
    split at h
    next hclock =>
      cases h
      refine ⟨?_, ?_, ?_⟩
      · cases hreceive : receiveActivity P s run activity x.db with
        | error e => exact fun row hrow => BackedBy.mono (hx.rows row hrow) (List.subset_append_left _ _)
        | ok r => exact backed_receiveActivity hreceive hx.rows
      · intro lookup hlookup
        rcases List.mem_append.1 hlookup with hlookup | hlookup
        · exact (hx.times lookup hlookup).trans hclock
        · exact le_of_eq (of_mem_lookupsOfActivity hlookup).1
      · intro lookup hlookup
        rcases List.mem_append.1 hlookup with hlookup | hlookup
        · exact hx.ids lookup hlookup
        · exact (of_mem_lookupsOfActivity hlookup).2
    next => nomatch h
  | edit db =>
    simp only [membershipStep] at h
    split at h
    next hsame =>
      cases h
      exact ⟨by rw [hsame]; exact hx.rows, hx.times, hx.ids⟩
    next => nomatch h

/-! ## One authorization -/

section Authorization

variable {P : Platform} {s : Settings} {run : BotRun} {captured : Captured} {command : BotCommand} {argument : String}
  {db db' : Database} {a : BotCommandAuthorization}

/-- A decision uses no other groups than those it is given. -/
theorem mem_of_mem_decide {roles : List BotAccessRole} {botUser : Option BotAuthorizedUser}
    {botGroups : List BotAuthorizedGroup} {status : CacheStatus} {group : BotAuthorizedGroup}
    (h : group ∈ (decideBotCommand P roles captured command argument botUser botGroups
        status).botGroups) : group ∈ botGroups := by
  unfold decideBotCommand at h
  simp only at h
  split at h
  · nomatch h
  · exact h

/-- A decision about a sender with a grant uses it, and asks for the permission of the command. -/
theorem decide_of_direct (P : Platform) (captured : Captured) (command : BotCommand) (argument : String)
    (roles : List BotAccessRole) (user : BotAuthorizedUser) (botGroups : List BotAuthorizedGroup) (status : CacheStatus) :
    let a := decideBotCommand P roles captured command argument (some user) botGroups status
    a.botUser = some user ∧ a.botGroups = botGroups ∧
      a.permissions = unionBotPermissions roles (user.toBotGrant :: botGroups.map (·.toBotGrant)) ∧
      (a.allowed = true ↔ ∀ p, requiredBotPermission P command argument captured = some p →
        a.permissions.get p = true) := by
  exact ⟨rfl, rfl, rfl, missingPermission_isNone_iff⟩

/-- The permissions of one grant are its effective ones. -/
theorem unionBotPermissions_singleton (roles : List BotAccessRole) (grant : BotGrant) :
    unionBotPermissions roles [grant] = effectiveBotPermissions roles grant := by
  apply BotPermissions.ext_get
  intro p
  simp [unionBotPermissions]

/-- A lookup that failed is one that was made and raised. -/
theorem failedLookup_eq_some_iff {e : Exn} :
    failedLookup P s run captured db = some e ↔
      (defaultOrganization s db).1.looksUpMembership run.now (defaultOrganization s db).2.id
        (normalizedId P captured.graphUserId) = true ∧
        listUserTransitiveGroupIds P run.membership (normalizedId P captured.graphUserId) = .error e := by
  unfold failedLookup
  split
  next hlooks =>
    cases listUserTransitiveGroupIds P run.membership (normalizedId P captured.graphUserId) with
    | ok ids => simp [hlooks]
    | error e' => simp [hlooks]
  next hlooks => simp [hlooks]

/-- After a failed lookup that is caught no ids are used. -/
theorem status_of_failedLookup {db₁ : Database} {ids : List String} {status : CacheStatus}
    (hfailed : (failedLookup P s run captured db).isSome)
    (hids : botGroupIdsForSender P run.now (listUserTransitiveGroupIds P run.membership
      (normalizedId P captured.graphUserId))
        (defaultOrganization s db).2.id (normalizedId P captured.graphUserId) (defaultOrganization s db).1 =
        .ok (db₁, ids, status)) :
    status = .error := by
  obtain ⟨e, he⟩ := Option.isSome_iff_exists.1 hfailed
  obtain ⟨hlooks, herror⟩ := failedLookup_eq_some_iff.1 he
  rcases botGroupIdsForSender_cases hids with ⟨-, hno, -⟩ | ⟨-, hno, -⟩ | ⟨-, -, hok, -⟩ | ⟨rfl, -⟩
  · rw [hlooks] at hno
    nomatch hno
  · rw [hlooks] at hno
    nomatch hno
  · rw [herror] at hok
    nomatch hok
  · rfl

/-- The tables in which the groups of a sender were found differ from those before in the membership cache and the
organizations. -/
theorem grants_of_botGroupIds {db₁ : Database} {lookup : Except Exn (List String)} {aadObjectId : String}
    {ids : List String} {status : CacheStatus}
    (hids : botGroupIdsForSender P run.now lookup (defaultOrganization s db).2.id aadObjectId
      (defaultOrganization s db).1 =
      .ok (db₁, ids, status)) : db₁.botRoles = db.botRoles ∧ db₁.botGroups = db.botGroups := by
  obtain ⟨organizations, n, horg, -⟩ := defaultOrganization_eq s db
  obtain ⟨memberships, n', rfl, -⟩ := botGroupIdsForSender_eq hids
  rw [horg]
  exact ⟨rfl, rfl⟩

/-- A group that counts is active and was named by a recent lookup. -/
theorem fresh_of_authorize (hP : P.NormalizesIds) {lookups : List MembershipLookup}
    (hrows : ∀ row ∈ db.groupMemberships, row.BackedBy lookups) (htimes : ∀ l ∈ lookups, l.time ≤ run.now)
    (hnormal : ∀ l ∈ lookups, ∀ id ∈ l.groupIds, ∃ value, id = normalizedId P value)
    (hrecorded : ∀ l ∈ successfulLookup P s run (normalizedId P captured.graphUserId) db, l ∈ lookups)
    (h : authorizeBotCommand P s run.now run.membership captured command argument db = .ok (db', a)) :
    ∀ group ∈ a.botGroups, group.FreshFor P run captured lookups db := by
  intro group hgroup
  rcases authorizeBotCommand_cases h with ⟨-, -, rfl⟩ | ⟨db₁, ids, status, haad, hids, h⟩
  · nomatch hgroup
  · rcases h with ⟨-, -, -, rfl⟩ | ⟨botUser, botGroups, -, rfl, rfl, -⟩
    · nomatch hgroup
    · have hgroup := mem_of_mem_decide hgroup
      split at hgroup
      · nomatch hgroup
      · obtain ⟨-, hgroups⟩ := grants_of_botGroupIds hids
        have hmatching := (List.perm_insertionSort _ _).mem_iff.1 hgroup
        obtain ⟨hmem, hmatches⟩ := List.mem_filter.1 hmatching
        simp only [Bool.and_eq_true, List.contains_iff_mem] at hmatches
        obtain ⟨organizations, n, horg, -⟩ := defaultOrganization_eq s db
        refine ⟨hgroups ▸ hmem, hmatches.1.2, ?_⟩
        exact recent_of_botGroupIdsForSender hP hids (by rw [horg]; exact hrows) htimes hnormal
          (fun hlooks hok => hrecorded _ (mem_successfulLookup haad hlooks hok)) hmatches.2

/-- No group counts after a failed lookup. -/
theorem botGroups_of_failedLookup (hfailed : (failedLookup P s run captured db).isSome)
    (h : authorizeBotCommand P s run.now run.membership captured command argument db = .ok (db', a)) :
    a.botGroups = [] := by
  rcases authorizeBotCommand_cases h with ⟨-, -, rfl⟩ | ⟨db₁, ids, status, -, hids, h⟩
  · rfl
  · rcases h with ⟨-, -, -, rfl⟩ | ⟨botUser, botGroups, -, rfl, rfl, -⟩
    · rfl
    · rw [status_of_failedLookup hfailed hids, if_pos rfl]
      apply List.eq_nil_iff_forall_not_mem.2
      intro group hgroup
      nomatch mem_of_mem_decide hgroup

/-- The user of an authorization is the sender's own grant. -/
theorem directGrant_of_authorize (h : authorizeBotCommand P s run.now run.membership captured command argument db =
    .ok (db', a))
    {user : BotAuthorizedUser} (huser : a.botUser = some user) : directGrant P s captured db = some user := by
  rcases authorizeBotCommand_cases h with ⟨-, -, rfl⟩ | ⟨db₁, ids, status, -, -, h⟩
  · nomatch huser
  · rcases h with ⟨-, -, -, rfl⟩ | ⟨botUser, botGroups, rfl, -, rfl, -⟩
    · nomatch huser
    · unfold decideBotCommand at huser
      simp only at huser
      split at huser
      · nomatch huser
      · exact huser

/-- The grants an authorization uses are those that count. -/
theorem counting_of_mem_sources {lookups : List MembershipLookup}
    (hfresh : ∀ group ∈ a.botGroups, group.FreshFor P run captured lookups db)
    (h : authorizeBotCommand P s run.now run.membership captured command argument db = .ok (db', a)) {grant : BotGrant}
    (hgrant : grant ∈ a.sources) : CountingGrant P s run captured lookups db grant := by
  rcases List.mem_append.1 hgrant with hgrant | hgrant
  · obtain ⟨user, huser, rfl⟩ := Option.map_eq_some_iff.1 (Option.mem_toList.1 hgrant)
    exact .own (directGrant_of_authorize h huser)
  · obtain ⟨group, hgroup, rfl⟩ := List.mem_map.1 hgrant
    refine .group ?_ (hfresh group hgroup)
    by_contra hfailed
    rw [botGroups_of_failedLookup (Option.isSome_iff_ne_none.2 hfailed) h] at hgroup
    nomatch hgroup

/-- A command is authorized by grants that count, which give the permission it requires. -/
theorem counting_of_allowed {lookups : List MembershipLookup}
    (hcounting : ∀ grant ∈ a.sources, CountingGrant P s run captured lookups db grant)
    (h : authorizeBotCommand P s run.now run.membership captured command argument db = .ok (db', a))
    (hallowed : a.allowed = true) :
    (∃ grant, CountingGrant P s run captured lookups db grant) ∧
      ∀ p, requiredBotPermission P command argument captured = some p →
        ∃ grant, CountingGrant P s run captured lookups db grant ∧
        (effectiveBotPermissions db.botRoles grant).get p = true := by
  obtain ⟨-, hpermissions, hiff⟩ := authorizeBotCommand_spec h
  obtain ⟨hne, hrequired⟩ := hiff.1 hallowed
  constructor
  · obtain ⟨grant, hgrant⟩ := List.exists_mem_of_ne_nil _ hne
    exact ⟨grant, hcounting grant hgrant⟩
  · intro p hp
    obtain ⟨grant, hgrant, hget⟩ := (hpermissions p).1 (hrequired p hp)
    exact ⟨grant, hcounting grant hgrant, hget⟩

/-- A grant of the sender's own is used, whatever the lookup does, unless it raises an exception that is not caught. -/
theorem direct_of_handled (haad : normalizedId P captured.graphUserId ≠ "") {user : BotAuthorizedUser}
    (huser : directGrant P s captured db = some user)
    (hhandled : ∀ e, failedLookup P s run captured db = some e → ∃ message, e = .graphLookup message) :
    ∃ db' a, authorizeBotCommand P s run.now run.membership captured command argument db = .ok (db', a) ∧
      a.botUser = some user ∧ (∀ p, (effectiveBotPermissions db.botRoles user.toBotGrant).get p = true →
        a.permissions.get p = true) ∧
      ((failedLookup P s run captured db).isSome → a.permissions = effectiveBotPermissions db.botRoles user.toBotGrant) ∧
      (a.allowed = true ↔ ∀ p, requiredBotPermission P command argument captured = some p →
        a.permissions.get p = true) := by
  cases hids : botGroupIdsForSender P run.now
    (listUserTransitiveGroupIds P run.membership (normalizedId P captured.graphUserId))
      (defaultOrganization s db).2.id (normalizedId P captured.graphUserId) (defaultOrganization s db).1 with
  | error e =>
    obtain ⟨hlooks, herror, huncaught⟩ := botGroupIdsForSender_eq_error_iff.1 hids
    obtain ⟨message, hmessage⟩ := hhandled e (failedLookup_eq_some_iff.2 ⟨hlooks, herror⟩)
    exact absurd hmessage (huncaught message)
  | ok r =>
    obtain ⟨db₁, ids, status⟩ := r
    have hroles := (grants_of_botGroupIds hids).1
    rw [authorizeBotCommand_eq haad, hids]
    unfold directGrant at huser
    simp only [Except.bind, huser, reduceCtorEq, and_false, if_false]
    obtain ⟨hbotUser, -, hpermissions, hallowed⟩ := decide_of_direct P captured command argument db₁.botRoles user
      (if status = .error then [] else matchingBotGroups P (defaultOrganization s db).2.id ids db₁) status
    refine ⟨_, _, rfl, hbotUser, ?_, ?_, hallowed⟩
    · intro p hp
      rw [hpermissions, unionBotPermissions, BotPermissions.get_ofFields, hroles]
      exact List.any_eq_true.2 ⟨_, List.mem_cons_self, hp⟩
    · intro hfailed
      rw [hpermissions, status_of_failedLookup hfailed hids, if_pos rfl, hroles]
      exact unionBotPermissions_singleton _ _

/-- An exception of the lookup that is not caught ends the authorization. -/
theorem handled_of_authorize (haad : normalizedId P captured.graphUserId ≠ "")
    (h : authorizeBotCommand P s run.now run.membership captured command argument db = .ok (db', a)) {e : Exn}
    (hfailed : failedLookup P s run captured db = some e) : ∃ message, e = .graphLookup message := by
  by_contra hcaught
  have huncaught : ∀ message, e ≠ .graphLookup message := fun message he => hcaught ⟨message, he⟩
  obtain ⟨hlooks, herror⟩ := failedLookup_eq_some_iff.1 hfailed
  rw [authorizeBotCommand_eq haad, botGroupIdsForSender_eq_error_iff.2 ⟨hlooks, herror, huncaught⟩] at h
  nomatch h

end Authorization

end GroupPermissionsAux

open GroupPermissionsAux Transition

/-- In every history of activities and other changes of the tables, at every activity with a command: the command is
authorized only by the sender's own grant and the grants of active groups that a lookup of at most ten minutes ago
named, a failed lookup makes no group count, and the own grant keeps its permissions, exactly when the lookup of a
sender with a grant raises no exception that the code does not catch. -/
theorem group_permissions_fresh_iff {P : Platform} (hP : P.NormalizesIds) {x₀ x : MembershipHistory}
    {steps : List MembershipStep} (hx₀ : x₀.CacheBacked P) (hrun : exec (membershipStep P) x₀ steps = some x)
    {s : Settings} {run : BotRun} {activity : List (String × Json)} {command : BotCommand} {argument : String}
    {db : Database} {reference : Option BotConversationReference} (hclock : x.clock ≤ run.now)
    (hcommand : commandOf P activity = some (command, argument))
    (hupsert : upsertReference P run.now run.referenceNames run.members (extractActivity P activity) x.db =
      .ok (db, reference)) :
    GroupPermissionLaw P s run (extractActivity P activity) command argument
        (x.lookups ++ lookupsOfActivity P s run activity x.db) db ↔
      (normalizedId P (extractActivity P activity).graphUserId ≠ "" →
        (directGrant P s (extractActivity P activity) db).isSome →
        ∀ e, failedLookup P s run (extractActivity P activity) db = some e → ∃ message, e = .graphLookup message) := by
  have hx : x.CacheBacked P := exec_invariant (fun x a x' hx h => cacheBacked_step hx h) hx₀ hrun
  have hlookups : lookupsOfActivity P s run activity x.db =
      successfulLookup P s run (normalizedId P (extractActivity P activity).graphUserId) db := by
    simp only [lookupsOfActivity, hcommand, hupsert]
  constructor
  · intro hlaw haad hdirect e hfailed
    obtain ⟨user, huser⟩ := Option.isSome_iff_exists.1 hdirect
    obtain ⟨db', a, hauthorize, -⟩ := hlaw.direct haad user huser
    exact handled_of_authorize haad hauthorize hfailed
  · intro hhandled
    have hfresh : ∀ db' a, authorizeBotCommand P s run.now run.membership (extractActivity P activity)
      command argument db =
        .ok (db', a) → ∀ group ∈ a.botGroups,
          group.FreshFor P run (extractActivity P activity)
          (x.lookups ++ lookupsOfActivity P s run activity x.db) db := by
      intro db' a h
      have hrows : db.groupMemberships = x.db.groupMemberships := by
        obtain ⟨_, _, rfl, -⟩ := upsertReference_eq hupsert
        rfl
      refine fresh_of_authorize hP ?_ ?_ ?_ ?_ h
      · rw [hrows]
        exact fun row hrow => BackedBy.mono (hx.rows row hrow) (List.subset_append_left _ _)
      · intro l hl
        rcases List.mem_append.1 hl with hl | hl
        · exact (hx.times l hl).trans hclock
        · exact le_of_eq (of_mem_lookupsOfActivity hl).1
      · intro l hl
        rcases List.mem_append.1 hl with hl | hl
        · exact hx.ids l hl
        · exact (of_mem_lookupsOfActivity hl).2
      · intro l hl
        rw [hlookups]
        exact List.mem_append_right _ hl
    refine ⟨fun db' a h => ?_, hfresh, ?_, ?_, ?_⟩
    · exact counting_of_allowed (fun grant hgrant => counting_of_mem_sources (hfresh db' a h) h hgrant) h
    · exact fun db' a h => (authorizeBotCommand_spec h).2.1
    · exact fun db' a h hfailed => botGroups_of_failedLookup hfailed h
    · intro haad user huser
      exact direct_of_handled haad huser (hhandled haad (by rw [huser]; rfl))

/-! ## Fixed inputs -/

/-- A page that names one group. -/
def onePageText : String := "\x7b\"value\":[\x7b\"id\":\"operators\"\x7d]\x7d"

/-- The platform, with the JSON value of the page. -/
def Platform.onePage : Platform :=
  { Platform.plain with
    jsonLoads := fun text =>
      if text = onePageText then .ok (.obj [("value", .arr [.obj [("id", .str "operators")]])])
        else Platform.plain.jsonLoads text }

/-- The answers of Graph, when the first page ends in `out`. -/
def pageAnswers (out : UrlOutcome) : MembershipAnswers := ⟨.ok (), fun _ => out⟩

/-- Handling an activity at `now`, when the groups of its sender are answered with `out`. -/
def membershipRun (now : Int) (out : UrlOutcome) : BotRun where
  now := now
  members := .error (.botConversationMembers "no members")
  membership := pageAnswers out
  routeToken := "route-token"
  revealTokens := fun n => "reveal-" ++ toString n

/-- The answer with the page. -/
def onePageAnswer : UrlOutcome := .response 200 (.body (onePageText.toList.map fun c => c.toNat.toUInt8))

/-- A message of Ada. -/
def messageOfAda (text : String) : List (String × Json) :=
  [("type", .str "message"), ("text", .str text), ("from", .obj [("id", .str "29:ada"), ("aadObjectId", .str "ada")])]

/-- Ada, who may see routes. -/
def adaGrant : BotAuthorizedUser where
  id := 2
  organizationId := 1
  aadObjectId := "ada"
  displayName := "Ada"

/-- A group whose members may delete routes. -/
def operatorsGrant : BotAuthorizedGroup where
  id := 3
  organizationId := 1
  permissions := { canDeleteRoutes := true }
  groupObjectId := "operators"
  displayName := "Operators"

/-- The tables with both grants, before any lookup. -/
def grantsDatabase : Database where
  organizations := [{ id := 1, slug := "default", name := "Default Organization" }]
  botUsers := [adaGrant]
  botGroups := [operatorsGrant]
  nextId := 4

/-- Ids are kept as they are by a platform without uppercase letters. -/
theorem onePage_normalizesIds : Platform.onePage.NormalizesIds := fun value => Python.strip_strip value

/-- Five minutes after a lookup the group still counts, although Graph does not answer any more. -/
theorem group_permissions_fresh_fiveMinutesLater :
    ∃ x, exec (membershipStep .onePage) ⟨grantsDatabase, 0, []⟩
        [.activity {} (membershipRun 0 onePageAnswer) (messageOfAda "info")] = some x ∧
      GroupPermissionLaw .onePage {} (membershipRun (minutes 5) .timeoutError)
        (extractActivity .onePage (messageOfAda "delete alerts"))
          .delete "alerts" (x.lookups ++ lookupsOfActivity .onePage {} (membershipRun (minutes 5) .timeoutError)
            (messageOfAda "delete alerts") x.db)
        x.db ∧
      ∃ db' a, authorizeBotCommand .onePage {} (minutes 5) (pageAnswers .timeoutError)
        (extractActivity .onePage (messageOfAda "delete alerts"))
        .delete "alerts" x.db = .ok (db', a) ∧ a.allowed = true ∧ a.botGroups.map (·.id) = [3] := by
  have hstart : MembershipHistory.CacheBacked .onePage ⟨grantsDatabase, 0, []⟩ := ⟨nofun, nofun, nofun⟩
  obtain ⟨x, hrun⟩ : ∃ x, exec (membershipStep .onePage) ⟨grantsDatabase, 0, []⟩
      [.activity {} (membershipRun 0 onePageAnswer) (messageOfAda "info")] = some x := ⟨_, rfl⟩
  have hx := hrun
  cases hx
  refine ⟨_, hrun, (group_permissions_fresh_iff onePage_normalizesIds hstart hrun (by decide) rfl rfl).2 ?_, _, _,
    rfl, rfl, rfl⟩
  intro _ _ e he
  nomatch he

/-- A lookup that times out takes Ada's own permission from her: her command ends in the exception. -/
theorem direct_grant_lost_timeout :
    (effectiveBotPermissions grantsDatabase.botRoles adaGrant.toBotGrant).canViewRoutes = true ∧
      receiveActivity .onePage {} (membershipRun 0 .timeoutError) (messageOfAda "info") grantsDatabase =
      .error .timeoutError ∧ ¬GroupPermissionLaw .onePage {} (membershipRun 0 .timeoutError)
        (extractActivity .onePage (messageOfAda "info")) .info "" [] grantsDatabase := by
  refine ⟨rfl, rfl, ?_⟩
  intro hlaw
  obtain ⟨db', a, h, -⟩ := hlaw.direct (by decide) adaGrant rfl
  nomatch h

end TeamsRehook
