import TeamsRehook.Bot.Receive

/-!
# The grants of a sender

What the stored grants, roles and memberships say a sender may do, as relations on the tables: which grants are the
sender's, which permissions those grants give, and which commands the sender may run with them. The answers of Graph
count where no unexpired row of the membership cache is there.
-/

namespace TeamsRehook

/-- Whether the membership of a sender is looked up: a group has a grant, and no row of the cache may still be used. -/
def Database.looksUpMembership (db : Database) (now : Int) (organizationId : Nat) (aadObjectId : String) : Bool :=
  db.hasGroupGrants organizationId && !(db.membershipOf organizationId aadObjectId).any (·.unexpired now)

/-- The ids of groups that a list of ids names. -/
def namedGroupIds (P : Platform) (ids : List String) : List String :=
  (ids.filter fun id => Python.strip id != "").map (normalizedId P)

/-- The group is known to have the sender as a member: an unexpired row of the cache names it, or Graph does where there
is none. -/
inductive KnownMember (P : Platform) (now : Int) (answers : MembershipAnswers) (organizationId : Nat)
    (aadObjectId : String) (db : Database) (groupObjectId : String) : Prop
  | cached {row : BotUserGroupMembershipCache} (hrow : db.membershipOf organizationId aadObjectId = some row)
      (hlive : row.unexpired now = true) (hnamed : groupObjectId ∈ namedGroupIds P (row.ids P))
  | lookedUp {ids : List String} (hlooks : db.looksUpMembership now organizationId aadObjectId = true)
      (hids : listUserTransitiveGroupIds P answers aadObjectId = .ok ids) (hnamed : groupObjectId ∈ namedGroupIds P ids)

/-- The grants of a sender in an organization: its own, when it is in use, and those in use of the groups it is known to
be in. -/
inductive SenderGrant (P : Platform) (now : Int) (answers : MembershipAnswers) (organizationId : Nat)
    (aadObjectId : String) (db : Database) : BotGrant → Prop
  | own {user : BotAuthorizedUser}
      (huser : db.botUsers.find? (fun row => row.organizationId == organizationId && row.aadObjectId == aadObjectId) =
        some user)
      (hactive : user.isActive = true) : SenderGrant P now answers organizationId aadObjectId db user.toBotGrant
  | group {group : BotAuthorizedGroup} (hgroup : group ∈ db.botGroups) (horganization : group.organizationId =
    organizationId)
      (hactive : group.isActive = true)
      (hmember : KnownMember P now answers organizationId aadObjectId db group.groupObjectId) :
      SenderGrant P now answers organizationId aadObjectId db group.toBotGrant

/-- The grants of the sender of an activity: those of its id in the default organization. -/
def GrantOfSender (P : Platform) (s : Settings) (run : BotRun) (captured : Captured) (db : Database)
    (grant : BotGrant) : Prop :=
  normalizedId P captured.graphUserId ≠ "" ∧
    ∃ organization, db.organizations.find? (·.slug == s.defaultOrgSlug) = some organization ∧
      SenderGrant P run.now run.membership organization.id (normalizedId P captured.graphUserId) db grant

/-- The sender of an activity has a permission: one of its grants gives it, through its role where it is linked to one. -/
def SenderHas (P : Platform) (s : Settings) (run : BotRun) (captured : Captured) (db : Database) (p : BotPermission) :
    Prop :=
  ∃ grant, GrantOfSender P s run captured db grant ∧ (effectiveBotPermissions db.botRoles grant).get p = true

/-- The activity is a command that its sender may run: it has a grant, and the permission the command requires. -/
def SenderMayRun (P : Platform) (s : Settings) (run : BotRun) (activity : List (String × Json)) (db : Database) : Prop :=
  ∃ command argument, commandOf P activity = some (command, argument) ∧
    (∃ grant, GrantOfSender P s run (extractActivity P activity) db grant) ∧
    ∀ p, requiredBotPermission P command argument (extractActivity P activity) = some p →
      SenderHas P s run (extractActivity P activity) db p

/-- Every grant is one of an organization whose id was drawn. -/
structure Database.GrantKeys (db : Database) : Prop where
  users : ∀ user ∈ db.botUsers, user.organizationId < db.nextId
  groups : ∀ group ∈ db.botGroups, group.organizationId < db.nextId

end TeamsRehook
