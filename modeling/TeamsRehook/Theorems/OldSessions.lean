import TeamsRehook.Lemmas.Accounts

namespace TeamsRehook

variable {ι : Type}

/-! ## A password change or a deactivation ends every old session -/

/-- The change ends the user's sessions: it is one of the password, or leaves the user inactive. -/
def Change.Ends (r : AccountRequest) (c : Change) : Prop :=
  match r with
  | .change _ _ (.password _ _) => True
  | .change _ _ (.update _) => c.next.isActive = false
  | _ => False

/-- The session is the acting admin's own, who changes the own password. -/
def Change.Own (r : AccountRequest) (c : Change) (sessionId : Nat) : Prop :=
  (∃ a userId password salt, r = .change a userId (.password password salt)) ∧ c.keptSession = some sessionId

/-- The logins of the user that were verified in the state `x₁`, in which the change is committed, have finished in the
state `x`. -/
def LoginsFinished (c : Change) (x₁ x : AccountSessions ι) : Prop :=
  ∀ j user, x₁.phase j = .verified user → user.id = c.user.id → ∀ user', x.phase j ≠ .verified user'

/-- Once the logins that were verified before the change was committed have finished, every session of the user that is
not revoked is the acting admin's own, or of a login that had not begun when the change was committed. -/
def OldSessionsEnded (R : ι → AccountRequest) (i : ι) (c : Change) (x₁ x : AccountSessions ι) : Prop :=
  LoginsFinished c x₁ x → ∀ session ∈ x.shared.sessions, session.userId = c.user.id → session.revokedAt = none →
    c.Own (R i) session.id ∨ ∃ j user, x₁.phase j = .idle ∧ x.phase j = .loggedIn user session.id

/-- One request is a login of a user that has verified the password and has not finished, and the other one a change
that ends the user's sessions, which has selected them and is not committed. -/
def Overlapping (r : AccountRequest) : AccountPhase → AccountPhase → Prop
  | .verified user, .revoking c _ => c.Ends r ∧ user.id = c.user.id
  | _, _ => False

/-- A login of a user stands beside a change that ends the user's sessions. -/
def LoginOverlaps (R : ι → AccountRequest) (x : AccountSessions ι) : Prop :=
  ∃ i j, Overlapping (R j) (x.phase i) (x.phase j)

instance (r : AccountRequest) (c : Change) : Decidable (c.Ends r) := by
  unfold Change.Ends
  split <;> infer_instance

instance (r : AccountRequest) (p q : AccountPhase) : Decidable (Overlapping r p q) :=
  decidable_of_iff
    ((match p, q with
      | .verified user, .revoking c _ => decide (c.Ends r ∧ user.id = c.user.id)
      | _, _ => false) = true)
    (by unfold Overlapping; split <;> simp)

instance [Fintype ι] (R : ι → AccountRequest) (x : AccountSessions ι) : Decidable (LoginOverlaps R x) :=
  inferInstanceAs (Decidable (∃ i j, Overlapping (R j) (x.phase i) (x.phase j)))

namespace OldSessionsAux

open Processes

variable {P : Platform} {R : ι → AccountRequest} {i : ι} {db db' : Accounts} {p p' : AccountPhase} {c : Change}

/-- Every session of the user that is not revoked is selected, or the acting admin's own. -/
def Selected (r : AccountRequest) (c : Change) (revoked : List Nat) (db : Accounts) : Prop :=
  ∀ session ∈ db.sessions, session.userId = c.user.id → session.revokedAt = none → session.id ∈ revoked ∨
    c.Own r session.id

/-- What is known of a request at its place: its objects have rows, and a change that ends sessions has selected them
all. -/
def PhaseOk (r : AccountRequest) (db : Accounts) : AccountPhase → Prop
  | .acting _ admin => db.HasRow admin
  | .loaded c => db.HasRow c.user
  | .emailFree c | .allowed c => db.HasRow c.user ∧ ∃ a userId payload, r = .change a userId (.update payload)
  | .revoking c revoked => db.HasRow c.user ∧ (c.Ends r → Selected r c revoked db)
  | _ => True

theorem phaseOk_ending {r : AccountRequest} (e : Exn) : PhaseOk r db (.ending e) := by
  cases e <;> trivial

/-- A statement ends the request, or leads to the place of its value. -/
theorem phaseOk_proceed {r : AccountRequest} {α : Type} {result : Except Exn α} {next : α → AccountPhase}
    (h : ∀ a, result = .ok a → PhaseOk r db (next a)) : PhaseOk r db (proceed result next) := by
  cases result with
  | ok a => exact h a rfl
  | error e => exact phaseOk_ending e

/-- What `_revoke_user_sessions` selects. -/
theorem mem_sessionsToRevoke {userId : Nat} (excludeSessionId : Option Nat) {session : UserSession}
    (hs : session ∈ db.sessions) (huser : session.userId = userId) (hrevoked : session.revokedAt = none) :
    session.id ∈ sessionsToRevoke userId excludeSessionId db ∨ excludeSessionId = some session.id := by
  by_cases hexclude : excludeSessionId = some session.id
  · exact .inr hexclude
  · refine .inl (List.mem_map.2 ⟨session, List.mem_filter.2 ⟨hs, ?_⟩, rfl⟩)
    simp [huser, hrevoked, hexclude]

/-- A step of a change leads to a place that is right for it. -/
theorem phaseOk_changeNext {a : AdminCredentials} {userId : Nat} {change : UserChange}
    (hok : PhaseOk (.change a userId change) db p) (h : changeNext P a userId change db p = some (db', p')) :
    PhaseOk (.change a userId change) db' p' := by
  cases p with
  | idle =>
    cases h
    exact phaseOk_proceed fun _ _ => trivial
  | current session =>
    cases h
    exact phaseOk_proceed fun admin hadmin => (acting_ok hadmin).1
  | acting session admin =>
    cases h
    refine phaseOk_proceed fun c hc => ?_
    obtain ⟨-, hadmin, huser, -⟩ := loadChange_ok hc
    exact (getOrgUser_ok hok huser).2.1
  | loaded c =>
    cases change with
    | update payload =>
      cases h
      exact phaseOk_proceed fun _ _ => ⟨hok, a, userId, payload, rfl⟩
    | password password salt =>
      cases h
      refine ⟨hok, fun _ session hs huser hrevoked => ?_⟩
      exact (mem_sessionsToRevoke c.keptSession hs huser hrevoked).imp_right fun hkept =>
        ⟨⟨a, userId, password, salt, rfl⟩, hkept⟩
  | emailFree c =>
    cases h
    exact phaseOk_proceed fun _ _ => hok
  | allowed c =>
    cases h
    refine ⟨hok.1, fun hends session hs huser hrevoked => ?_⟩
    obtain ⟨_, _, payload, hupdate⟩ := hok.2
    rw [hupdate] at hends
    have hinactive : c.next.isActive = false := hends
    rw [hinactive]
    rcases mem_sessionsToRevoke none hs huser hrevoked with hmem | hkept
    · exact .inl hmem
    · cases hkept
  | revoking c revoked =>
    simp only [changeNext] at h
    split at h
    · cases h
      trivial
    · cases h
      exact phaseOk_ending _
  | changed | verified | loggedIn | noAdmin | emailUnused | setUp | refused | raised => cases h

/-- A step of a request leads to a place that is right for it. -/
theorem phaseOk_next (hok : PhaseOk (R i) db p) (h : accountNext P R i db p = some (db', p')) : PhaseOk (R i) db' p' := by
  by_cases hR : ∃ a userId change, R i = .change a userId change
  · obtain ⟨a, userId, change, hR⟩ := hR
    unfold accountNext at h
    rw [hR] at h hok ⊢
    exact phaseOk_changeNext hok h
  · have hplace : p'.changing = false :=
      changing_of_accountNext (fun a userId change heq => hR ⟨a, userId, change, heq⟩) h
    cases p' with
    | acting | loaded | emailFree | allowed | revoking => cases hplace
    | _ => trivial

/-- What is selected is still all there is after a step of another request, unless that one finishes a login of the
user. -/
theorem selected_others {r : AccountRequest} {revoked : List Nat} (hwf : db.UsersWf) (hrow : db.HasRow c.user)
    (h : AccountEffect P db p db' p') (hlogin : ∀ user, p = .verified user → user.id ≠ c.user.id)
    (hselected : Selected r c revoked db) : Selected r c revoked db' := by
  intro session hs huser hrevoked
  rcases h.session_cases hs hrevoked with ⟨hs, -⟩ | ⟨user, hp, -, hsession⟩ | hnew
  · exact hselected session hs huser hrevoked
  · exact absurd (hsession.symm.trans huser) (hlogin user hp)
  · have hlt := hrow.id_lt hwf
    omega

/-- What is known of a request still holds after a step of another one that does not finish a login of its user. -/
theorem phaseOk_others {r : AccountRequest} {q : AccountPhase} (hwf : db.UsersWf) (h : AccountEffect P db p db' p')
    (hlogin : ∀ user c revoked, p = .verified user → q = .revoking c revoked → c.Ends r → user.id ≠ c.user.id)
    (hq : PhaseOk r db q) : PhaseOk r db' q := by
  cases q with
  | acting session admin => exact h.hasRow_kept hq
  | loaded c => exact h.hasRow_kept hq
  | emailFree c => exact ⟨h.hasRow_kept hq.1, hq.2⟩
  | allowed c => exact ⟨h.hasRow_kept hq.1, hq.2⟩
  | revoking c revoked =>
    refine ⟨h.hasRow_kept hq.1, fun hends => ?_⟩
    exact selected_others hwf hq.1 h (fun user hp => hlogin user c revoked hp rfl hends) (hq.2 hends)
  | idle | current | changed | verified | loggedIn | noAdmin | emailUnused | setUp | refused | raised => trivial

/-- The clock changes nothing that is known. -/
theorem phaseOk_tick {r : AccountRequest} {now : Int} (h : tick db now = some db') (hok : PhaseOk r db p) :
    PhaseOk r db' p := by
  obtain ⟨-, h⟩ := Option.ite_none_right_eq_some.1 h
  cases h
  cases p with
  | acting | loaded | emailFree | allowed | revoking => exact hok
  | idle | current | changed | verified | loggedIn | noAdmin | emailUnused | setUp | refused | raised => trivial

/-! ### After the commit -/

variable {x₁ x x' : AccountSessions ι}

/-- What holds in every state after the commit: each session of the user that is not revoked is the acting admin's own
or of a login that had not begun, and so is each login of the user that is on its way. -/
structure After (r : AccountRequest) (c : Change) (x₁ x : AccountSessions ι) : Prop where
  wf : x.shared.UsersWf
  row : x.shared.HasRow c.user
  idle : ∀ j, x.phase j = .idle → x₁.phase j = .idle
  verified : ∀ j user, x.phase j = .verified user → user.id = c.user.id → x₁.phase j = .idle
  sessions : ∀ session ∈ x.shared.sessions, session.userId = c.user.id → session.revokedAt = none →
    c.Own r session.id ∨ ∃ j user, x₁.phase j = .idle ∧ x.phase j = .loggedIn user session.id

variable [DecidableEq ι]

/-- The login a session belongs to is still at its end after a step. -/
theorem loggedIn_kept {j k : ι} {user : User} {sessionId : Nat}
    (h : accountNext P R j x.shared (x.phase j) = some (db', p')) (hk : x.phase k = .loggedIn user sessionId) :
    Function.update x.phase j p' k = .loggedIn user sessionId := by
  have hkj : k ≠ j := by
    rintro rfl
    rw [hk, accountNext_of_committed rfl] at h
    cases h
  rw [Function.update_of_ne hkj]
  exact hk

/-- A step of a request keeps what holds after the commit. -/
theorem After.next {r : AccountRequest} (hI : After r c x₁ x) {j : ι}
    (h : accountNext P R j x.shared (x.phase j) = some (db', p')) : After r c x₁ ⟨db', Function.update x.phase j p'⟩ := by
  have heffect := accountNext_effect h
  refine ⟨heffect.usersWf hI.wf, heffect.hasRow_kept hI.row, ?_, ?_, ?_⟩
  · exact forall_move (Q := fun k (q : AccountPhase) => q = .idle → x₁.phase k = .idle) (fun k _ => hI.idle k)
      fun hp' => absurd hp' heffect.ne_idle
  · exact forall_move (Q := fun k (q : AccountPhase) => ∀ user : User, q = .verified user → user.id = c.user.id →
      x₁.phase k = .idle)
      (fun k _ => hI.verified k) fun user hp' _ => hI.idle j (heffect.idle_of_verified hp')
  · intro session hs huser hrevoked
    rcases heffect.session_cases hs hrevoked with ⟨hs, -⟩ | ⟨user, hp, hp', hsession⟩ | hnew
    · refine (hI.sessions session hs huser hrevoked).imp_right ?_
      rintro ⟨k, user, hk, hloggedIn⟩
      exact ⟨k, user, hk, loggedIn_kept h hloggedIn⟩
    · have hj : x₁.phase j = .idle := hI.verified j user hp (hsession.symm.trans huser)
      exact .inr ⟨j, user, hj, (Function.update_self ..).trans hp'⟩
    · have hlt := hI.row.id_lt hI.wf
      omega

/-- Every step keeps what holds after the commit. -/
theorem After.step {r : AccountRequest} (hI : After r c x₁ x) {a : Act ι Int} (h : accountStep P R x a = some x') :
    After r c x₁ x' := by
  rcases World.step_cases h with ⟨j, db', p', -, hnext, rfl⟩ | ⟨now, db', -, htick, rfl⟩
  · exact hI.next hnext
  · obtain ⟨-, hdb⟩ := Option.ite_none_right_eq_some.1 htick
    cases hdb
    exact ⟨⟨hI.wf.ids, hI.wf.fresh⟩, hI.row, hI.idle, hI.verified, hI.sessions⟩

/-- What the commit of a change that has selected every session leaves, when no login of the user is on its way. -/
theorem after_commit {x₀ : AccountSessions ι} (hwf : x₀.shared.UsersWf) (hok : PhaseOk (R i) x₀.shared (x₀.phase i))
    (hguard : ¬LoginOverlaps R x₀) (hends : c.Ends (R i)) (hcommit : accountStep P R x₀ (.next i) = some x₁)
    (hchanged : x₁.phase i = .changed c) : After (R i) c x₁ x₁ := by
  rcases World.step_cases hcommit with ⟨k, db', p', hk, hnext, rfl⟩ | ⟨now, db', hk, -, -⟩
  swap
  · cases hk
  cases hk
  have heffect := accountNext_effect hnext
  have hp' : p' = .changed c := (Function.update_self i p' x₀.phase).symm.trans hchanged
  obtain ⟨revoked, hp⟩ := heffect.revoking_of_changed hp'
  rw [hp] at hok
  refine ⟨heffect.usersWf hwf, heffect.hasRow_kept hok.1, fun _ hj => hj, fun j user hj hid => ?_,
    fun session hs huser hrevoked => ?_⟩
  · have hji : j ≠ i := by
      rintro rfl
      cases hj.symm.trans hchanged
    have hverified : x₀.phase j = .verified user := (Function.update_of_ne hji p' x₀.phase).symm.trans hj
    refine absurd ⟨j, i, ?_⟩ hguard
    rw [hverified, hp]
    exact ⟨hends, hid⟩
  · rcases heffect.session_cases hs hrevoked with ⟨hs, hnot⟩ | ⟨user, hp₀, -⟩ | hnew
    · rcases hok.2 hends session hs huser hrevoked with hmem | hown
      · exact absurd hmem (hnot c revoked hp hp')
      · exact .inl hown
    · cases hp.symm.trans hp₀
    · have hlt := hok.1.id_lt hwf
      omega

end OldSessionsAux

open OldSessionsAux Processes Transition in
/-- Any number of requests of any kind, in any order of their steps, and any change of a password or deactivation of a
user among them: once the change is committed, every session of the user that is not revoked is the acting admin's own
or of a login that began later, as long as no login of a user stands between the check of the password and its commit
while a change that ends the user's sessions stands between the select of them and its commit. -/
theorem old_sessions_ended {ι : Type} [DecidableEq ι] (P : Platform) (R : ι → AccountRequest) (db : Accounts)
    (hwf : db.UsersWf) (pre post : List (Act ι Int)) (i : ι) (c : Change) (x₀ x₁ x : AccountSessions ι)
    (hmeets : Meets (accountStep P R) (fun x _ => ¬LoginOverlaps R x) (.initial db) (pre ++ [.next i]))
    (hpre : exec (accountStep P R) (.initial db) pre = some x₀) (hcommit : accountStep P R x₀ (.next i) = some x₁)
    (hchanged : x₁.phase i = .changed c) (hends : c.Ends (R i)) (hpost : exec (accountStep P R) x₁ post = some x) :
    OldSessionsEnded R i c x₁ x := by
  obtain ⟨hmeets, hlast⟩ := meets_append.1 hmeets
  have hguard : ¬LoginOverlaps R x₀ := (hlast x₀ hpre).1
  have hinv :=
    World.exec_invariant (I := Accounts.UsersWf) (Q := fun i db p => PhaseOk (R i) db p) ?hown ?hothers ?henv hwf
    ?hinitial hmeets hpre
  case hinitial => exact fun _ => trivial
  case hown => exact fun x j db' p' hwf hQ _ hnext => ⟨(accountNext_effect hnext).usersWf hwf, phaseOk_next (hQ j) hnext⟩
  case hothers =>
    intro x j db' p' k hwf hQ hone hnext _
    refine phaseOk_others hwf (accountNext_effect hnext) (fun user c revoked hp hq hends hid => ?_) (hQ k)
    refine hone ⟨j, k, ?_⟩
    rw [hp, hq]
    exact ⟨hends, hid⟩
  case henv =>
    intro x now db' hwf hQ htick
    refine ⟨?_, fun j => phaseOk_tick htick (hQ j)⟩
    obtain ⟨-, hdb⟩ := Option.ite_none_right_eq_some.1 htick
    cases hdb
    exact ⟨hwf.ids, hwf.fresh⟩
  have hafter : After (R i) c x₁ x₁ := after_commit hinv.1 (hinv.2 i) hguard hends hcommit hchanged
  have hend : After (R i) c x₁ x := exec_invariant (fun _ _ _ hI hstep => hI.step hstep) hafter hpost
  exact fun _ => hend.sessions

/-- An admin, and a user with a password and a session. -/
def adminAndUser : Accounts where
  users := [
    { id := 1, organizationId := 1, email := "ada@example.com", displayName := "Ada", isAdmin := true },
    { id := 2, organizationId := 1, email := "bob@example.com", displayName := "Bob", passwordHash := some "$old" }]
  sessions := [
    { id := 3, userId := 1, sessionTokenHash := "ada-session", csrfTokenHash := "$ada-csrf", expiresAt := hours 8 },
    { id := 4, userId := 2, sessionTokenHash := "bob-session", csrfTokenHash := "$bob-csrf", expiresAt := hours 8 }]
  nextId := 5

/-- The admin gives the user a new password, and someone logs in with a password. -/
def resetAndLogin (password : String) : Fin 2 → AccountRequest
  | 0 => .change ⟨"ada-session", "ada-csrf"⟩ 2 (.password "new" "")
  | 1 => .login "bob@example.com" password ⟨"new-session", "c", "", 8⟩

/-- The change of the user, as loaded in the run. -/
def passwordReset : Change where
  session :=
    { id := 3, userId := 1, sessionTokenHash := "ada-session", csrfTokenHash := "$ada-csrf", expiresAt := hours 8 }
  admin := { id := 1, organizationId := 1, email := "ada@example.com", displayName := "Ada", isAdmin := true }
  user := { id := 2, organizationId := 1, email := "bob@example.com", displayName := "Bob", passwordHash := some "$old" }
  next := { id := 2, organizationId := 1, email := "bob@example.com", displayName := "Bob", passwordHash := some "$new" }

/-- The login begins when the password is changed. -/
theorem old_sessions_ended_oneByOne :
    ∃ x₁ x, Transition.exec (accountStep .plain (resetAndLogin "new")) (.initial adminAndUser)
      (List.replicate 5 (.next 0)) = some x₁ ∧ Transition.exec (accountStep .plain (resetAndLogin "new")) x₁ [.next 1,
        .next 1] = some x ∧
      x.shared.sessions.map (fun session => (session.userId, session.revokedAt)) = [(1, none), (2, some 0), (2, none)] ∧
      OldSessionsEnded (resetAndLogin "new") 0 passwordReset x₁ x :=
  ⟨_, _, rfl, rfl, rfl, old_sessions_ended .plain (resetAndLogin "new") adminAndUser ⟨by decide, by decide⟩
    (List.replicate 4 (.next 0)) [.next 1, .next 1] 0 passwordReset _ _ _ (by decide) rfl rfl rfl trivial rfl⟩

/-- A login that has checked the old password before the change is committed leaves a session of the old password. -/
theorem old_session_crossingLogin :
    ∃ x₁ x, Transition.exec (accountStep .plain (resetAndLogin "old")) (.initial adminAndUser)
        (.next 1 :: List.replicate 5 (.next 0)) = some x₁ ∧
      Transition.exec (accountStep .plain (resetAndLogin "old")) x₁ [.next 1] = some x ∧
      x.shared.sessions.map (fun session => (session.userId, session.revokedAt)) = [(1, none), (2, some 0), (2, none)] ∧
      x₁.phase 0 = .changed passwordReset ∧ ¬OldSessionsEnded (resetAndLogin "old") 0 passwordReset x₁ x := by
  refine ⟨_, _, rfl, rfl, rfl, rfl, fun h => ?_⟩
  have hsessions := h fun j user hj _ user' hj' => by
    match j with
    | 0 => cases hj
    | 1 => cases hj'
  rcases hsessions ⟨5, 2, "new-session", "$c", hours 8, none⟩ (by decide) rfl rfl with ⟨-, hown⟩ | ⟨j, user, hidle, -⟩
  · exact absurd hown (by decide)
  · match j with
    | 0 => cases hidle
    | 1 => cases hidle

end TeamsRehook
