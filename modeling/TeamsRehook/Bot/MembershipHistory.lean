import TeamsRehook.Bot.SenderGrants
import TeamsRehook.Lib.Transition

/-!
# Histories of bot commands

Activities handled one after the other, with any other changes of the tables in between. What Graph answers is chosen
anew for each activity, so memberships may change at any time; a history keeps the lookups that gave an answer.
-/

namespace TeamsRehook

/-- A lookup of the groups of a user that gave their ids. -/
structure MembershipLookup where
  time : Int
  aadObjectId : String
  groupIds : List String
  deriving DecidableEq, Repr

/-- The tables, the time of the last activity, and the lookups that gave ids so far. -/
structure MembershipHistory where
  db : Database
  clock : Int
  lookups : List MembershipLookup := []

/-- What a history is made of. -/
inductive MembershipStep where
  /-- An activity. -/
  | activity (s : Settings) (run : BotRun) (activity : List (String × Json))
  /-- Another change of the tables, which leaves the membership cache alone: no other code writes it. -/
  | edit (db : Database)

/-- The lookup that an authorization makes, when it gives ids. -/
def successfulLookup (P : Platform) (s : Settings) (run : BotRun) (aadObjectId : String) (db : Database) :
    List MembershipLookup :=
  let (db, organization) := defaultOrganization s db
  if aadObjectId ≠ "" ∧ db.looksUpMembership run.now organization.id aadObjectId = true then
    match listUserTransitiveGroupIds P run.membership aadObjectId with
    | .ok groupIds => [⟨run.now, aadObjectId, groupIds⟩]
    | .error _ => []
  else []

/-- The lookup that an activity makes, when it gives ids. -/
def lookupsOfActivity (P : Platform) (s : Settings) (run : BotRun) (activity : List (String × Json)) (db : Database) :
    List MembershipLookup :=
  let captured := extractActivity P activity
  match commandOf P activity, upsertReference P run.now run.referenceNames run.members captured db with
  | some _, .ok (db, _) => successfulLookup P s run (normalizedId P captured.graphUserId) db
  | _, _ => []

/-- One step of a history. An activity that raises leaves the tables as they were. -/
def membershipStep (P : Platform) (x : MembershipHistory) : MembershipStep → Option MembershipHistory
  | .activity s run activity =>
    if x.clock ≤ run.now then
      some {
        db := match receiveActivity P s run activity x.db with
          | .ok (db, _) => db
          | .error _ => x.db
        clock := run.now
        lookups := x.lookups ++ lookupsOfActivity P s run activity x.db }
    else none
  | .edit db => if db.groupMemberships = x.db.groupMemberships then some { x with db := db } else none

end TeamsRehook
