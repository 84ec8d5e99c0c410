import TeamsRehook.Abuse

/-!
# The database

The tables of the modelled rows. A function that takes the tables and raises leaves its changes to be rolled back by its
caller.
-/

namespace TeamsRehook

/-- The tables. Ids are drawn from one counter. -/
structure Database where
  organizations : List Organization := []
  routes : List WebhookRoute := []
  events : List WebhookDeliveryEvent := []
  reveals : List WebhookUrlRevealToken := []
  credentials : List GraphDelegatedCredential := []
  botRoles : List BotAccessRole := []
  botUsers : List BotAuthorizedUser := []
  botGroups : List BotAuthorizedGroup := []
  groupMemberships : List BotUserGroupMembershipCache := []
  references : List BotConversationReference := []
  abuse : AbuseStore := .empty
  nextId : Nat := 0

/-- `_default_organization`: the organization with the configured slug, which is created when there is none. -/
def defaultOrganization (s : Settings) (db : Database) : Database × Organization :=
  match db.organizations.find? (·.slug == s.defaultOrgSlug) with
  | some organization => (db, organization)
  | none =>
    let organization := { id := db.nextId, slug := s.defaultOrgSlug, name := s.defaultOrgName }
    ({ db with organizations := db.organizations ++ [organization], nextId := db.nextId + 1 }, organization)

end TeamsRehook
