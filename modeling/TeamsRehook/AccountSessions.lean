import TeamsRehook.Accounts
import TeamsRehook.Lib.Processes

/-!
# Account requests in concurrent sessions

Requests that read and change users and sessions, each in a transaction of its own. A statement reads what is committed
when it runs. What a request writes is flushed and committed in its last step; a request that waits there for a row
another one has locked is one whose last step comes later. `POST /setup/admin` finds the organization, which start-up
creates (`init_db`).
-/

namespace TeamsRehook

/-- What an acting admin sends with a request. -/
structure AdminCredentials where
  sessionToken : String
  csrfToken : String

/-- A change of a user. -/
inductive UserChange where
  /-- `update_user`. -/
  | update (payload : UserUpdateIn)
  /-- `update_user_password`, with the salt of the new hash. -/
  | password (newPassword salt : String)

/-- `FirstAdminCreateIn`, with the salt of the password's hash and what the new session draws. -/
structure FirstAdminCreateIn where
  email : String
  displayName : String
  password : String
  salt : String := ""
  secrets : SessionSecrets

/-- A request. -/
inductive AccountRequest where
  | change (a : AdminCredentials) (userId : Nat) (change : UserChange)
  | login (email password : String) (secrets : SessionSecrets)
  | createFirstAdmin (organizationId : Nat) (payload : FirstAdminCreateIn)

/-- The objects in the session of a change: the acting admin with the current session, and the user as loaded and as it
is to be. -/
structure Change where
  session : UserSession
  admin : User
  user : User
  next : User
  deriving DecidableEq, Repr

/-- Where a request is. -/
inductive AccountPhase where
  | idle
  /-- The current session is loaded. -/
  | current (session : UserSession)
  /-- The acting admin is loaded. -/
  | acting (session : UserSession) (admin : User)
  /-- The user is loaded. -/
  | loaded (c : Change)
  /-- The e-mail address is not another user's. -/
  | emailFree (c : Change)
  /-- The update is allowed. -/
  | allowed (c : Change)
  /-- The sessions to revoke are selected. -/
  | revoking (c : Change) (revoked : List Nat)
  | changed (c : Change)
  /-- The password of the user is verified. -/
  | verified (user : User)
  | loggedIn (user : User) (sessionId : Nat)
  /-- There is no admin. -/
  | noAdmin
  /-- No user has the e-mail address. -/
  | emailUnused (email : String)
  | setUp (user : User) (sessionId : Nat)
  /-- Answered with an `HTTPException`. -/
  | refused (statusCode : Nat) (detail : String)
  /-- Ended by another exception. -/
  | raised (e : Exn)

/-- The change of a request that has loaded the user and has not ended. -/
def AccountPhase.change? : AccountPhase → Option Change
  | .loaded c | .emailFree c | .allowed c | .revoking c _ => some c
  | _ => none

/-- The request has committed. -/
def AccountPhase.committed : AccountPhase → Bool
  | .changed _ | .loggedIn _ _ | .setUp _ _ => true
  | _ => false

/-- The end of a request that raises. -/
def AccountPhase.ending : Exn → AccountPhase
  | .http statusCode detail => .refused statusCode detail
  | e => .raised e

/-- A statement that raises ends the request. -/
def proceed {α : Type} (result : Except Exn α) (next : α → AccountPhase) : AccountPhase :=
  match result with
  | .ok a => next a
  | .error e => .ending e

/-! ## The steps of a request -/

/-- The change, for the loaded user. -/
def UserChange.next (P : Platform) (user : User) : UserChange → Except Exn User
  | .update payload => nextUser P payload user
  | .password newPassword salt => .ok { user with passwordHash := some (hashSecret P salt newPassword) }

/-- The load of the user of a change. -/
def loadChange (P : Platform) (session : UserSession) (admin : User) (userId : Nat) (change : UserChange)
    (db : Accounts) : Except Exn Change := do
  let user ← getOrgUser admin userId db
  let next ← change.next P user
  return { session := session, admin := admin, user := user, next := next }

/-- The session that keeps standing when an admin changes the own password. -/
def Change.keptSession (c : Change) : Option Nat := if c.user.id = c.admin.id then some c.session.id else none

/-- The steps of `update_user` and `update_user_password`. -/
def changeNext (P : Platform) (a : AdminCredentials) (userId : Nat) (change : UserChange) (db : Accounts) :
    AccountPhase → Option (Accounts × AccountPhase)
  | .idle =>
    some (db, proceed (do
      let session ← getCurrentSession P a.sessionToken db
      requireCsrf P a.csrfToken session
      return session) .current)
  | .current session => some (db, proceed (getCurrentUser session db >>= requireAdmin) (.acting session))
  | .acting session admin => some (db, proceed (loadChange P session admin userId change db) .loaded)
  | .loaded c =>
    match change with
    | .update _ =>
      some (db, proceed (if c.next.email = c.user.email then .ok ()
        else ensureUserEmailAvailable c.admin.organizationId c.next.email c.user.id db) fun _ => .emailFree c)
    | .password _ _ => some (db, .revoking c (sessionsToRevoke c.user.id c.keptSession db))
  | .emailFree c => some (db, proceed (ensureUserUpdateAllowed c.admin c.user c.next db) fun _ => .allowed c)
  | .allowed c => some (db, .revoking c (if c.next.isActive then [] else sessionsToRevoke c.user.id none db))
  | .revoking c revoked =>
    match commitUser c.user c.next revoked db with
    | .ok db' => some (db', .changed c)
    | .error e => some (db, .ending e)
  | _ => none

/-- Whether no session has the token that is drawn. -/
def freshToken (P : Platform) (secrets : SessionSecrets) (db : Accounts) : Bool :=
  db.sessions.all (·.sessionTokenHash != lookupSecretHash P secrets.sessionToken)

/-- The steps of `login`. The token that is drawn is new (`session_token_hash` is unique). -/
def loginNext (P : Platform) (email password : String) (secrets : SessionSecrets) (db : Accounts) :
    AccountPhase → Option (Accounts × AccountPhase)
  | .idle => some (db, proceed (verifyLogin P email password db) .verified)
  | .verified user =>
    if freshToken P secrets db then
      some ({ db with
        sessions := db.sessions ++ [issueSession P secrets user.id db.nextId db.now]
        nextId := db.nextId + 1 }, .loggedIn user db.nextId)
    else none
  | _ => none

/-- The user `create_first_admin` creates. -/
def firstAdmin (P : Platform) (id organizationId : Nat) (email : String) (payload : FirstAdminCreateIn) : User where
  id := id
  organizationId := organizationId
  email := email
  displayName := Python.strip payload.displayName
  passwordHash := some (hashSecret P payload.salt payload.password)
  isAdmin := true
  isActive := true

/-- The steps of `create_first_admin`. -/
def setupNext (P : Platform) (organizationId : Nat) (payload : FirstAdminCreateIn) (db : Accounts) :
    AccountPhase → Option (Accounts × AccountPhase)
  | .idle =>
    some (db, if adminExists organizationId db then .refused 409 "Initial setup has already been completed" else .noAdmin)
  | .noAdmin =>
    some (db, proceed (normalizeUserEmail P payload.email) fun email =>
      if db.users.any (fun user => user.organizationId == organizationId && user.email == email) then
        .refused 409 "A user with this email already exists"
      else .emailUnused email)
  | .emailUnused email =>
    if db.users.any (fun user => user.organizationId == organizationId && user.email == email) then
      some (db, .raised .integrityError)
    else if freshToken P payload.secrets db then
      let user := firstAdmin P db.nextId organizationId email payload
      some ({ db with
        users := db.users ++ [user]
        sessions := db.sessions ++ [issueSession P payload.secrets user.id (db.nextId + 1) db.now]
        nextId := db.nextId + 2 }, .setUp user (db.nextId + 1))
    else none
  | _ => none

section

variable {ι : Type}

/-- The next step of a request. -/
def accountNext (P : Platform) (R : ι → AccountRequest) (i : ι) (db : Accounts) (phase : AccountPhase) :
    Option (Accounts × AccountPhase) :=
  match R i with
  | .change a userId change => changeNext P a userId change db phase
  | .login email password secrets => loginNext P email password secrets db phase
  | .createFirstAdmin organizationId payload => setupNext P organizationId payload db phase

/-- The clock goes on. -/
def tick (db : Accounts) (now : Int) : Option Accounts := if db.now ≤ now then some { db with now := now } else none

/-- The tables, and where each request is. -/
abbrev AccountSessions (ι : Type) := Processes.World Accounts ι AccountPhase

variable [DecidableEq ι]

/-- One step of one request, or of the clock. -/
def accountStep (P : Platform) (R : ι → AccountRequest) :
    AccountSessions ι → Processes.Act ι Int → Option (AccountSessions ι) :=
  Processes.World.step (accountNext P R) tick

/-- No request has begun. -/
def AccountSessions.initial (db : Accounts) : AccountSessions ι := ⟨db, fun _ => .idle⟩

end

end TeamsRehook
