import TeamsRehook.AccountSessions

/-!
# What a step of an account request does

`accountNext_effect` is the one case analysis of the steps: a step leaves the tables as they are, or it is one of the
three commits.
-/

namespace TeamsRehook

variable {P : Platform} {ι : Type} {R : ι → AccountRequest} {i : ι} {db db' : Accounts} {p p' : AccountPhase}

/-- Where a step that commits nothing leads: not to a commit, not back to the start, and to a verified password only
from there. -/
structure QuietPlace (p p' : AccountPhase) : Prop where
  committed : p'.committed = false
  not_idle : p' ≠ .idle
  verified : ∀ user, p' = .verified user → p = .idle

/-- What a step does to the tables, with the places it leads from and to. -/
inductive AccountEffect (P : Platform) (db : Accounts) : AccountPhase → Accounts → AccountPhase → Prop where
  | quiet {p p' : AccountPhase} (hp' : QuietPlace p p') : AccountEffect P db p db p'
  | change {c : Change} {revoked : List Nat} {db' : Accounts} (h : commitUser c.user c.next revoked db = .ok db') :
    AccountEffect P db (.revoking c revoked) db' (.changed c)
  | login (user : User) (secrets : SessionSecrets) :
    AccountEffect P db (.verified user)
      { db with
        sessions := db.sessions ++ [issueSession P secrets user.id db.nextId db.now]
        nextId := db.nextId + 1 }
      (.loggedIn user db.nextId)
  | setUp (organizationId : Nat) (email : String) (payload : FirstAdminCreateIn)
    (hunused : db.users.any (fun user => user.organizationId == organizationId && user.email == email) = false) :
    AccountEffect P db (.emailUnused email)
      { db with
        users := db.users ++ [firstAdmin P db.nextId organizationId email payload]
        sessions := db.sessions ++ [issueSession P payload.secrets db.nextId (db.nextId + 1) db.now]
        nextId := db.nextId + 2 }
      (.setUp (firstAdmin P db.nextId organizationId email payload) (db.nextId + 1))

theorem quietPlace_ending (e : Exn) : QuietPlace p (.ending e) := by
  cases e <;> exact ⟨rfl, nofun, nofun⟩

theorem quietPlace_proceed {α : Type} {result : Except Exn α} {next : α → AccountPhase} (h : ∀ a, QuietPlace p (next a)) :
    QuietPlace p (proceed result next) := by
  cases result with
  | ok a => exact h a
  | error e => exact quietPlace_ending e

/-- A step of a request that did not commit leaves the tables as they are. -/
theorem quiet_of_eq (h : some (db, p') = some (db', p'')) (hp' : QuietPlace p p') : AccountEffect P db p db' p'' := by
  cases h
  exact .quiet hp'

theorem changeNext_effect {a : AdminCredentials} {userId : Nat} {change : UserChange}
    (h : changeNext P a userId change db p = some (db', p')) : AccountEffect P db p db' p' := by
  cases p with
  | idle => exact quiet_of_eq h (quietPlace_proceed fun _ => ⟨rfl, nofun, nofun⟩)
  | current => exact quiet_of_eq h (quietPlace_proceed fun _ => ⟨rfl, nofun, nofun⟩)
  | acting => exact quiet_of_eq h (quietPlace_proceed fun _ => ⟨rfl, nofun, nofun⟩)
  | loaded =>
    cases change with
    | update => exact quiet_of_eq h (quietPlace_proceed fun _ => ⟨rfl, nofun, nofun⟩)
    | password => exact quiet_of_eq h ⟨rfl, nofun, nofun⟩
  | emailFree => exact quiet_of_eq h (quietPlace_proceed fun _ => ⟨rfl, nofun, nofun⟩)
  | allowed => exact quiet_of_eq h ⟨rfl, nofun, nofun⟩
  | revoking c revoked =>
    simp only [changeNext] at h
    cases hcommit : commitUser c.user c.next revoked db with
    | ok db₁ =>
      rw [hcommit] at h
      cases h
      exact .change hcommit
    | error e =>
      rw [hcommit] at h
      exact quiet_of_eq h (quietPlace_ending e)
  | changed | verified | loggedIn | noAdmin | emailUnused | setUp | refused | raised => cases h

theorem loginNext_effect {email password : String} {secrets : SessionSecrets}
    (h : loginNext P email password secrets db p = some (db', p')) : AccountEffect P db p db' p' := by
  cases p with
  | idle => exact quiet_of_eq h (quietPlace_proceed fun _ => ⟨rfl, nofun, fun _ _ => rfl⟩)
  | verified user =>
    simp only [loginNext, Option.ite_none_right_eq_some] at h
    obtain ⟨-, h⟩ := h
    cases h
    exact .login user secrets
  | current | acting | loaded | emailFree | allowed | revoking | changed | loggedIn | noAdmin | emailUnused | setUp | refused
  | raised => cases h

theorem setupNext_effect {organizationId : Nat} {payload : FirstAdminCreateIn}
    (h : setupNext P organizationId payload db p = some (db', p')) : AccountEffect P db p db' p' := by
  cases p with
  | idle =>
    refine quiet_of_eq h ?_
    split <;> exact ⟨rfl, nofun, nofun⟩
  | noAdmin =>
    refine quiet_of_eq h (quietPlace_proceed fun email => ?_)
    split <;> exact ⟨rfl, nofun, nofun⟩
  | emailUnused email =>
    simp only [setupNext] at h
    split at h
    · exact quiet_of_eq h ⟨rfl, nofun, nofun⟩
    · obtain ⟨-, h⟩ := Option.ite_none_right_eq_some.1 h
      cases h
      exact .setUp organizationId email payload (Bool.eq_false_iff.2 ‹_›)
  | current | acting | loaded | emailFree | allowed | revoking | changed | verified | loggedIn | setUp | refused
  | raised => cases h

/-- A step leaves the tables as they are, or is one of the three commits. -/
theorem accountNext_effect (h : accountNext P R i db p = some (db', p')) : AccountEffect P db p db' p' := by
  unfold accountNext at h
  split at h
  · exact changeNext_effect h
  · exact loginNext_effect h
  · exact setupNext_effect h

/-- What a commit of a change leaves. -/
theorem commitUser_ok {user next : User} {revoked : List Nat} (h : commitUser user next revoked db = .ok db') :
    db' = { db with
      users := Table.update (·.id == user.id) (flushUser user next) db.users
      sessions := Table.update (fun session => revoked.contains session.id)
        (fun session => { session with revokedAt := some db.now }) db.sessions } := by
  unfold commitUser at h
  split at h
  · cases h
  · cases h
    rfl

/-! ## The rows of users -/

/-- Ids of users are unique, and below the next one. -/
structure Accounts.UsersWf (db : Accounts) : Prop where
  ids : Table.UniqueOn (·.id) db.users
  fresh : ∀ user ∈ db.users, user.id < db.nextId

/-- The table has a row with the id and the organization of the object. -/
def Accounts.HasRow (db : Accounts) (user : User) : Prop :=
  ∃ row ∈ db.users, row.id = user.id ∧ row.organizationId = user.organizationId

@[simp] theorem flushUser_id (user next row : User) : (flushUser user next row).id = row.id := rfl
@[simp] theorem flushUser_organizationId (user next row : User) :
    (flushUser user next row).organizationId = row.organizationId := rfl

/-- Every step keeps the ids of users unique and fresh. -/
theorem AccountEffect.usersWf (h : AccountEffect P db p db' p') (hwf : db.UsersWf) : db'.UsersWf := by
  cases h with
  | quiet => exact hwf
  | change hcommit =>
    rw [commitUser_ok hcommit]
    exact ⟨Table.uniqueOn_update hwf.ids fun _ => rfl, Table.forall_mem_update hwf.fresh fun user hu _ =>
      hwf.fresh user hu⟩
  | login => exact ⟨hwf.ids, fun user hu => Nat.lt_succ_of_lt (hwf.fresh user hu)⟩
  | setUp organizationId email payload =>
    refine ⟨Table.uniqueOn_append hwf.ids fun user hu => (hwf.fresh user hu).ne, fun user hu => ?_⟩
    rcases List.mem_append.1 hu with hu | hu
    · have := hwf.fresh user hu
      exact Nat.lt_add_right 2 this
    · rw [List.mem_singleton.1 hu]
      exact Nat.lt_add_of_pos_right (by decide)

/-- Every row is there after every step, with its id and its organization. -/
theorem AccountEffect.row_kept (h : AccountEffect P db p db' p') {row : User} (hrow : row ∈ db.users) :
    ∃ row' ∈ db'.users, row'.id = row.id ∧ row'.organizationId = row.organizationId := by
  cases h with
  | quiet => exact ⟨row, hrow, rfl, rfl⟩
  | change hcommit =>
    rw [commitUser_ok hcommit]
    refine ⟨_, Table.mem_update.2 ⟨row, hrow, rfl⟩, ?_⟩
    split <;> exact ⟨rfl, rfl⟩
  | login => exact ⟨row, hrow, rfl, rfl⟩
  | setUp => exact ⟨row, List.mem_append_left _ hrow, rfl, rfl⟩

theorem AccountEffect.hasRow_kept (h : AccountEffect P db p db' p') {user : User} (hu : db.HasRow user) :
    db'.HasRow user := by
  obtain ⟨row, hrow, hid, horg⟩ := hu
  obtain ⟨row', hrow', hid', horg'⟩ := h.row_kept hrow
  exact ⟨row', hrow', hid'.trans hid, horg'.trans horg⟩

/-- The id of a user with a row is below the next one. -/
theorem Accounts.HasRow.id_lt {user : User} (h : db.HasRow user) (hwf : db.UsersWf) : user.id < db.nextId := by
  obtain ⟨row, hrow, hid, -⟩ := h
  rw [← hid]
  exact hwf.fresh row hrow

/-- What `_get_org_user` gives: an object of the admin's organization that the table has a row of, which is the admin
when the ids agree, and else the row. -/
theorem getOrgUser_ok {admin user : User} {userId : Nat} (hadmin : db.HasRow admin)
    (h : getOrgUser admin userId db = .ok user) :
    user.organizationId = admin.organizationId ∧ db.HasRow user ∧
        (user = admin ∨ user.id ≠ admin.id ∧ user ∈ db.users) := by
  unfold getOrgUser at h
  split at h
  · rename_i row hfind
    have hrow := List.mem_of_find?_eq_some hfind
    have hkey := List.find?_some hfind
    simp only [Bool.and_eq_true, beq_iff_eq] at hkey
    by_cases hid : row.id = admin.id
    · rw [if_pos hid] at h
      cases h
      exact ⟨rfl, hadmin, .inl rfl⟩
    · rw [if_neg hid] at h
      cases h
      exact ⟨hkey.2, ⟨user, hrow, rfl, rfl⟩, .inr ⟨hid, hrow⟩⟩
  · cases h

/-- The objects of a loaded change: those of its admin and of the user `_get_org_user` gives, with the values of the
change. -/
theorem loadChange_ok {session : UserSession} {admin : User} {userId : Nat} {change : UserChange} {c : Change}
    (h : loadChange P session admin userId change db = .ok c) :
    c.session = session ∧ c.admin = admin ∧ getOrgUser admin userId db = .ok c.user ∧
    change.next P c.user = .ok c.next := by
  unfold loadChange at h
  cases huser : getOrgUser admin userId db with
  | error e => simp [huser, bind, Except.bind] at h
  | ok user =>
    cases hnext : change.next P user with
    | error e => simp [huser, hnext, bind, Except.bind] at h
    | ok next =>
      simp only [huser, hnext, bind, Except.bind, pure, Except.pure, Except.ok.injEq] at h
      subst h
      exact ⟨rfl, rfl, rfl, hnext⟩

/-! ## The places of a request -/

/-- A request that has committed takes no further step. -/
theorem accountNext_of_committed (hp : p.committed = true) : accountNext P R i db p = none := by
  unfold accountNext
  cases p <;> cases hp
  all_goals split <;> rfl

/-- No step leads back to the start. -/
theorem AccountEffect.ne_idle (h : AccountEffect P db p db' p') : p' ≠ .idle := by
  cases h with
  | quiet hp' => exact hp'.not_idle
  | change | login | setUp => exact nofun

/-- A verified password comes from the first step. -/
theorem AccountEffect.idle_of_verified (h : AccountEffect P db p db' p') {user : User} (hp' : p' = .verified user) :
    p = .idle := by
  cases h with
  | quiet hquiet => exact hquiet.verified user hp'
  | change | login | setUp => cases hp'

/-- A change that a step has committed was in `.revoking`. -/
theorem AccountEffect.revoking_of_changed {c : Change} (h : AccountEffect P db p db' p') (hp' : p' = .changed c) :
    ∃ revoked, p = .revoking c revoked := by
  cases h with
  | quiet hquiet =>
    rw [hp'] at hquiet
    cases hquiet.committed
  | @change c' revoked =>
    cases hp'
    exact ⟨revoked, rfl⟩
  | login | setUp => cases hp'

/-- A session that is there after a step was there before it, or is new: of a login, or of the first admin. -/
theorem AccountEffect.session_cases (h : AccountEffect P db p db' p') {session : UserSession}
    (hs : session ∈ db'.sessions) (hrevoked : session.revokedAt = none) :
    session ∈ db.sessions ∧ (∀ c revoked, p = .revoking c revoked → p' = .changed c → session.id ∉ revoked) ∨
      (∃ user, p = .verified user ∧ p' = .loggedIn user session.id ∧ session.userId = user.id) ∨
      session.userId = db.nextId := by
  cases h with
  | quiet hquiet =>
    refine .inl ⟨hs, ?_⟩
    rintro c revoked - rfl
    cases hquiet.committed
  | change hcommit =>
    rw [commitUser_ok hcommit] at hs
    obtain ⟨row, hrow, rfl⟩ := Table.mem_update.1 hs
    split at hrevoked
    · cases hrevoked
    · rename_i hnot
      rw [if_neg hnot]
      refine .inl ⟨hrow, ?_⟩
      rintro c revoked hp -
      cases hp
      simpa using hnot
  | login user secrets =>
    rcases List.mem_append.1 hs with hs | hs
    · refine .inl ⟨hs, ?_⟩
      rintro c revoked hp
      cases hp
    · rw [List.mem_singleton.1 hs]
      exact .inr (.inl ⟨user, rfl, rfl, rfl⟩)
  | setUp organizationId email payload =>
    rcases List.mem_append.1 hs with hs | hs
    · refine .inl ⟨hs, ?_⟩
      rintro c revoked hp
      cases hp
    · rw [List.mem_singleton.1 hs]
      exact .inr (.inr rfl)

/-- The request has authenticated its admin to change a user, and has not ended. -/
def AccountPhase.changing : AccountPhase → Bool
  | .acting _ _ | .loaded _ | .emailFree _ | .allowed _ | .revoking _ _ => true
  | _ => false

theorem changing_proceed {α : Type} {result : Except Exn α} {next : α → AccountPhase}
    (h : ∀ a, (next a).changing = false) : (proceed result next).changing = false := by
  cases result with
  | ok a => exact h a
  | error e => cases e <;> rfl

/-- A login and a setup request do not change a user. -/
theorem changing_of_accountNext (hR : ∀ a userId change, R i ≠ .change a userId change)
    (h : accountNext P R i db p = some (db', p')) : p'.changing = false := by
  unfold accountNext at h
  split at h
  · exact absurd ‹_› (hR _ _ _)
  · cases p with
    | idle =>
      cases h
      exact changing_proceed fun _ => rfl
    | verified user =>
      obtain ⟨-, h⟩ := Option.ite_none_right_eq_some.1 h
      cases h
      rfl
    | _ => cases h
  · cases p with
    | idle =>
      cases h
      split <;> rfl
    | noAdmin =>
      cases h
      refine changing_proceed fun email => ?_
      split <;> rfl
    | emailUnused email =>
      simp only [setupNext] at h
      split at h
      · cases h
        rfl
      · obtain ⟨-, h⟩ := Option.ite_none_right_eq_some.1 h
        cases h
        rfl
    | _ => cases h

/-- The admin of an authenticated request has a row, and was loaded as an active admin. -/
theorem acting_ok {session : UserSession} {admin : User} (h : (getCurrentUser session db >>= requireAdmin) = .ok admin) :
    db.HasRow admin ∧ admin.isAdmin = true ∧ admin.isActive = true := by
  unfold getCurrentUser at h
  split at h
  · rename_i user hfind
    split at h
    · rename_i hactive
      have hrow : db.HasRow user := ⟨user, List.mem_of_find?_eq_some hfind, rfl, rfl⟩
      simp only [bind, Except.bind, requireAdmin] at h
      split at h
      · rename_i hadmin
        cases h
        exact ⟨hrow, hadmin, hactive⟩
      · cases h
    · cases h
  · cases h

end TeamsRehook
