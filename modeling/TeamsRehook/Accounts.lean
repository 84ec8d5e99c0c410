import TeamsRehook.Models

/-!
# Accounts

Users and their sessions: `routers/auth.py`, `deps.py` and the user administration of `routers/admin.py`. Each function
is one statement of a request with what the request computes from it, on the rows the statement sees.
-/

namespace TeamsRehook

/-- A row of `users`. -/
structure User where
  id : Nat
  organizationId : Nat
  email : String
  displayName : String
  passwordHash : Option String := none
  isAdmin : Bool := false
  isActive : Bool := true
  deriving DecidableEq, Repr

/-- A row of `sessions`. -/
structure UserSession where
  id : Nat
  userId : Nat
  sessionTokenHash : String
  csrfTokenHash : String
  expiresAt : Int
  revokedAt : Option Int := none
  deriving DecidableEq, Repr

/-- The tables, and the clock. -/
structure Accounts where
  users : List User := []
  sessions : List UserSession := []
  nextId : Nat := 0
  now : Int := 0
  deriving DecidableEq, Repr

/-- The user is an active admin of the organization. -/
def User.activeAdminOf (organizationId : Nat) (user : User) : Bool :=
  user.organizationId == organizationId && user.isAdmin && user.isActive

/-! ## Who sends a request -/

/-- `get_current_session`, for the token in the cookie. -/
def getCurrentSession (P : Platform) (sessionToken : String) (db : Accounts) : Except Exn UserSession :=
  if sessionToken = "" then .error (.http 401 "Missing session")
  else
    match db.sessions.find? (·.sessionTokenHash == lookupSecretHash P sessionToken) with
    | none => .error (.http 401 "Invalid session")
    | some session =>
      if session.revokedAt.isSome ∨ session.expiresAt ≤ db.now then .error (.http 401 "Expired session") else .ok session

/-- `get_current_user`. -/
def getCurrentUser (session : UserSession) (db : Accounts) : Except Exn User :=
  match db.users.find? (·.id == session.userId) with
  | some user => if user.isActive then .ok user else .error (.http 401 "User inactive")
  | none => .error (.http 401 "User inactive")

/-- `require_csrf`, for the token in the header. -/
def requireCsrf (P : Platform) (csrfToken : String) (session : UserSession) : Except Exn Unit :=
  if csrfToken = "" ∨ verifySecret P csrfToken (some session.csrfTokenHash) = false then
    .error (.http 403 "Invalid CSRF token")
  else .ok ()

/-- `require_admin`. -/
def requireAdmin (user : User) : Except Exn User :=
  if user.isAdmin then .ok user else .error (.http 403 "Admin access required")

/-! ## Users -/

/-- `_normalize_email` and `_normalize_user_email`. -/
def normalizeUserEmail (P : Platform) (email : String) : Except Exn String :=
  let value := P.lower (Python.strip email)
  if value.toList.contains '@' then .ok value else .error (.http 400 "A valid email address is required")

/-- `_get_org_user`: the object of the session for the row, which is the acting admin's when it is the same one. -/
def getOrgUser (admin : User) (userId : Nat) (db : Accounts) : Except Exn User :=
  match db.users.find? (fun user => user.id == userId && user.organizationId == admin.organizationId) with
  | some user => .ok (if user.id = admin.id then admin else user)
  | none => .error (.http 404 "User not found")

/-- `_ensure_user_email_available`. -/
def ensureUserEmailAvailable (organizationId : Nat) (email : String) (userId : Nat) (db : Accounts) : Except Exn Unit :=
  match db.users.find? (fun user => user.organizationId == organizationId && user.email == email) with
  | some existing => if existing.id = userId then .ok () else .error (.http 409 "A user with this email already exists")
  | none => .ok ()

/-- `UserUpdateIn`. -/
structure UserUpdateIn where
  email : Option String := none
  displayName : Option String := none
  isAdmin : Option Bool := none
  isActive : Option Bool := none

/-- The values `update_user` is to give the user. -/
def nextUser (P : Platform) (payload : UserUpdateIn) (user : User) : Except Exn User := do
  let email ← match payload.email with
    | some email => normalizeUserEmail P email
    | none => pure user.email
  return { user with
    email := email
    displayName := (payload.displayName.map Python.strip).getD user.displayName
    isAdmin := payload.isAdmin.getD user.isAdmin
    isActive := payload.isActive.getD user.isActive }

/-- `_ensure_user_update_allowed`, for the values the user is to have. -/
def ensureUserUpdateAllowed (actor user next : User) (db : Accounts) : Except Exn Unit :=
  if user.id = actor.id ∧ next.isAdmin = false then .error (.http 400 "You cannot remove your own admin access")
  else if user.id = actor.id ∧ next.isActive = false then .error (.http 400 "You cannot deactivate your own user")
  else if user.isAdmin ∧ user.isActive ∧ (next.isAdmin = false ∨ next.isActive = false) ∧
      (db.users.filter (·.activeAdminOf actor.organizationId)).length ≤ 1 then
    .error (.http 400 "At least one active admin is required")
  else .ok ()

/-- The sessions `_revoke_user_sessions` selects. -/
def sessionsToRevoke (userId : Nat) (excludeSessionId : Option Nat) (db : Accounts) : List Nat :=
  (db.sessions.filter fun session =>
    session.userId == userId && session.revokedAt.isNone && excludeSessionId != some session.id).map (·.id)

/-- The row of a user after the flush of an object that was loaded as `user` and has the values of `next`. -/
def flushUser (user next row : User) : User :=
  { row with
    email := Table.ormWrite user.email next.email row.email
    displayName := Table.ormWrite user.displayName next.displayName row.displayName
    passwordHash := Table.ormWrite user.passwordHash next.passwordHash row.passwordHash
    isAdmin := Table.ormWrite user.isAdmin next.isAdmin row.isAdmin
    isActive := Table.ormWrite user.isActive next.isActive row.isActive }

/-- Whether the table has another user with the e-mail address, which is unique in an organization. -/
def emailTaken (user next : User) (db : Accounts) : Bool :=
  next.email != user.email && db.users.any fun row =>
    row.organizationId == user.organizationId && row.email == next.email && row.id != user.id

/-- The flush and the commit of a changed user and of the sessions that are revoked. -/
def commitUser (user next : User) (revoked : List Nat) (db : Accounts) : Except Exn Accounts :=
  if emailTaken user next db then .error .integrityError
  else .ok { db with
    users := Table.update (·.id == user.id) (flushUser user next) db.users
    sessions := Table.update (fun session => revoked.contains session.id)
      (fun session => { session with revokedAt := some db.now }) db.sessions }

/-! ## Logging in -/

/-- The tokens `_issue_session` draws, the salt of the second one's hash, and the lifetime of a session. -/
structure SessionSecrets where
  sessionToken : String
  csrfToken : String
  csrfSalt : String := ""
  sessionTtlHours : Int := 8

/-- `_issue_session`. -/
def issueSession (P : Platform) (secrets : SessionSecrets) (userId id : Nat) (now : Int) : UserSession where
  id := id
  userId := userId
  sessionTokenHash := lookupSecretHash P secrets.sessionToken
  csrfTokenHash := hashSecret P secrets.csrfSalt secrets.csrfToken
  expiresAt := now + hours secrets.sessionTtlHours

/-- The select of `login`, and the check of the password. -/
def verifyLogin (P : Platform) (email password : String) (db : Accounts) : Except Exn User :=
  match db.users.find? (fun user => user.email == P.lower (Python.strip email) && user.isActive) with
  | some user => if verifySecret P password user.passwordHash then .ok user else .error (.http 401 "Invalid credentials")
  | none => .error (.http 401 "Invalid credentials")

/-- `_admin_exists`. -/
def adminExists (organizationId : Nat) (db : Accounts) : Bool :=
  db.users.any fun user => user.organizationId == organizationId && user.isAdmin

end TeamsRehook
