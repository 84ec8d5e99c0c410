import TeamsRehook.Lemmas.Accounts

namespace TeamsRehook

/-! ## An organization keeps an active admin -/

/-- The organization has a user who is an active admin. -/
def HasActiveAdmin (organizationId : Nat) (db : Accounts) : Prop :=
  ∃ user ∈ db.users, user.activeAdminOf organizationId = true

/-- The change takes admin access from the user, or deactivates the user. -/
def Change.TakesAway (c : Change) : Prop :=
  c.user.isAdmin = true ∧ c.next.isAdmin = false ∨ c.user.isActive = true ∧ c.next.isActive = false

/-- The request has loaded a user of the organization whom it takes admin access from or deactivates, and has not ended.
-/
def TakesAwayFrom (organizationId : Nat) (p : AccountPhase) : Prop :=
  ∃ c ∈ p.change?, c.user.organizationId = organizationId ∧ c.TakesAway

instance (o : Nat) (db : Accounts) : Decidable (HasActiveAdmin o db) :=
  inferInstanceAs (Decidable (∃ user ∈ db.users, user.activeAdminOf o = true))

instance (c : Change) : Decidable c.TakesAway := inferInstanceAs (Decidable (_ ∨ _))

instance (o : Nat) : DecidablePred (TakesAwayFrom o) := fun p =>
  inferInstanceAs (Decidable (∃ c ∈ p.change?, c.user.organizationId = o ∧ c.TakesAway))

namespace ActiveAdminAux

variable {P : Platform} {ι : Type} {R : ι → AccountRequest} {i : ι} {db db' : Accounts} {p p' : AccountPhase}
    {o : Nat} {c : Change}

/-- Another user than the one of the change is an active admin. -/
def OtherAdmin (o : Nat) (c : Change) (db : Accounts) : Prop :=
  ∃ user ∈ db.users, user.id ≠ c.user.id ∧ user.activeAdminOf o = true

/-- What is known of a loaded change: the table has the user, the acting admin is of the same organization and is the
loaded user only as an active admin. -/
structure ChangeOk (db : Accounts) (c : Change) : Prop where
  hasRow : db.HasRow c.user
  organization : c.admin.organizationId = c.user.organizationId
  self : c.user.id = c.admin.id → c.user.isAdmin = true ∧ c.user.isActive = true

/-- What is known of a request at its place. A change that takes something away leaves another active admin, once that
is checked; before that, when the user was not loaded as an active admin. -/
def PhaseOk (o : Nat) (db : Accounts) : AccountPhase → Prop
  | .acting _ admin => db.HasRow admin ∧ admin.isAdmin = true ∧ admin.isActive = true
  | .loaded c | .emailFree c =>
    ChangeOk db c ∧
      (c.user.organizationId = o → c.TakesAway → ¬(c.user.isAdmin = true ∧ c.user.isActive = true) → OtherAdmin o c db)
  | .allowed c | .revoking c _ => ChangeOk db c ∧ (c.user.organizationId = o → c.TakesAway → OtherAdmin o c db)
  | _ => True

@[simp] theorem phaseOk_ending (e : Exn) : PhaseOk o db (.ending e) := by
  cases e <;> trivial

/-- A statement ends the request, or leads to the place of its value. -/
theorem phaseOk_proceed {α : Type} {result : Except Exn α} {next : α → AccountPhase}
    (h : ∀ a, result = .ok a → PhaseOk o db (next a)) : PhaseOk o db (proceed result next) := by
  cases result with
  | ok a => exact h a rfl
  | error e => exact phaseOk_ending e

/-! ### What a commit leaves of the admins -/

/-- A flush that takes nothing away leaves an active admin one. -/
theorem activeAdminOf_flushUser {user next row : User} (h : row.activeAdminOf o = true)
    (hadmin : ¬(user.isAdmin = true ∧ next.isAdmin = false)) (hactive : ¬(user.isActive = true ∧ next.isActive = false)) :
    (flushUser user next row).activeAdminOf o = true := by
  simp only [User.activeAdminOf, Bool.and_eq_true, beq_iff_eq] at h
  obtain ⟨⟨horg, hrowAdmin⟩, hrowActive⟩ := h
  have hwrite : ∀ loaded current : Bool, ¬(loaded = true ∧ current = false) →
      Table.ormWrite loaded current true = true := by
    decide
  simp only [User.activeAdminOf, flushUser, hrowAdmin, hrowActive, hwrite _ _ hadmin, hwrite _ _ hactive, horg,
    beq_self_eq_true, Bool.and_true]

/-- A commit leaves an active admin one, unless it takes something away from that user. -/
theorem activeAdmin_kept_commit {revoked : List Nat} (hwf : db.UsersWf) (hok : db.HasRow c.user)
    (h : commitUser c.user c.next revoked db = .ok db') {user : User} (hu : user ∈ db.users)
    (hadmin : user.activeAdminOf o = true) (hkeeps : user.id = c.user.id → c.user.organizationId = o → ¬c.TakesAway) :
    ∃ user' ∈ db'.users, user'.id = user.id ∧ user'.activeAdminOf o = true := by
  rw [commitUser_ok h]
  by_cases hid : user.id = c.user.id
  · obtain ⟨row, hrow, hrowId, hrowOrg⟩ := hok
    have hsame : row = user := hwf.ids.eq_of_mem hrow hu (hrowId.trans hid.symm)
    have horg : c.user.organizationId = o := by
      simp only [User.activeAdminOf, Bool.and_eq_true, beq_iff_eq] at hadmin
      rw [← hrowOrg, hsame]
      exact hadmin.1.1
    have hnot := hkeeps hid horg
    refine ⟨flushUser c.user c.next user, Table.mem_update_of_pos hu (by simp [hid]), rfl, ?_⟩
    exact activeAdminOf_flushUser hadmin (fun h => hnot (.inl h)) (fun h => hnot (.inr h))
  · exact ⟨user, Table.mem_update_of_not hu (by simp [hid]), rfl, hadmin⟩

/-- A step leaves an active admin one, unless it commits a change that takes something away from that user. -/
theorem activeAdmin_kept (hwf : db.UsersWf) (hok : PhaseOk o db p) (h : AccountEffect P db p db' p') {user : User}
    (hu : user ∈ db.users) (hadmin : user.activeAdminOf o = true)
    (hkeeps : ∀ c revoked, p = .revoking c revoked → user.id = c.user.id → c.user.organizationId = o → ¬c.TakesAway) :
    ∃ user' ∈ db'.users, user'.id = user.id ∧ user'.activeAdminOf o = true := by
  cases h with
  | quiet => exact ⟨user, hu, rfl, hadmin⟩
  | change hcommit => exact activeAdmin_kept_commit hwf hok.1.hasRow hcommit hu hadmin (hkeeps _ _ rfl)
  | login => exact ⟨user, hu, rfl, hadmin⟩
  | setUp => exact ⟨user, List.mem_append_left _ hu, rfl, hadmin⟩

/-- Of two users with different ids, one is not the given one. -/
theorem exists_id_ne {users : List User} (hids : (users.map (·.id)).Nodup) (h : 1 < users.length) (id : Nat) :
    ∃ user ∈ users, user.id ≠ id := by
  match users, h with
  | a :: b :: rest, _ =>
    have hab : a.id ≠ b.id := by
      simp only [List.map_cons, List.nodup_cons, List.mem_cons, not_or] at hids
      exact hids.1.1
    by_cases ha : a.id = id
    · exact ⟨b, by simp, fun hb => hab (ha.trans hb.symm)⟩
    · exact ⟨a, by simp, ha⟩

/-- An allowed update that takes something away leaves another active admin. -/
theorem otherAdmin_of_allowed (hwf : db.UsersWf) (hok : ChangeOk db c) (horg : c.user.organizationId = o)
    (hother : ¬(c.user.isAdmin = true ∧ c.user.isActive = true) → OtherAdmin o c db)
    (htakes : c.TakesAway) (h : ensureUserUpdateAllowed c.admin c.user c.next db = .ok ()) : OtherAdmin o c db := by
  unfold ensureUserUpdateAllowed at h
  split at h
  · cases h
  rename_i hselfAdmin
  split at h
  · cases h
  rename_i hselfActive
  split at h
  · cases h
  rename_i hcount
  have hnext : c.next.isAdmin = false ∨ c.next.isActive = false := htakes.imp And.right And.right
  by_cases hactive : c.user.isAdmin = true ∧ c.user.isActive = true
  · have hlength : 1 < (db.users.filter (·.activeAdminOf c.admin.organizationId)).length := by
      by_contra hle
      exact hcount ⟨hactive.1, hactive.2, hnext, Nat.le_of_not_lt hle⟩
    have hids : ((db.users.filter (·.activeAdminOf c.admin.organizationId)).map (·.id)).Nodup :=
      hwf.ids.sublist (List.filter_sublist.map _)
    obtain ⟨user, hu, hne⟩ := exists_id_ne hids hlength c.user.id
    obtain ⟨hu, hadmin⟩ := List.mem_filter.1 hu
    rw [hok.organization, horg] at hadmin
    exact ⟨user, hu, hne, hadmin⟩
  · exact hother hactive

/-! ### The steps of a change -/

/-- A change of the password takes nothing away. -/
def PasswordOk (r : AccountRequest) (p : AccountPhase) : Prop :=
  ∀ a userId password salt, r = .change a userId (.password password salt) → ∀ c ∈ p.change?, ¬c.TakesAway

/-- A change that is loaded is known of, and one of the password takes nothing away. -/
theorem loaded_ok (hwf : db.UsersWf) (hI : HasActiveAdmin o db) {session : UserSession} {admin : User} {userId : Nat}
    {change : UserChange} (hadmin : db.HasRow admin ∧ admin.isAdmin = true ∧ admin.isActive = true)
    (h : loadChange P session admin userId change db = .ok c) : PhaseOk o db (.loaded c) := by
  obtain ⟨-, hactor, huser, -⟩ := loadChange_ok h
  obtain ⟨horg, hrow, hobject⟩ := getOrgUser_ok hadmin.1 huser
  have hself : c.user.id = c.admin.id → c.user.isAdmin = true ∧ c.user.isActive = true := by
    intro hid
    rcases hobject with hobject | ⟨hne, -⟩
    · rw [hobject]
      exact hadmin.2
    · exact absurd (hid.trans (by rw [hactor])) hne
  refine ⟨⟨hrow, by rw [hactor, horg], hself⟩, fun _ _ hactive => ?_⟩
  obtain ⟨user, hu, huser'⟩ := hI
  refine ⟨user, hu, fun hid => hactive ?_, huser'⟩
  rcases hobject with hobject | ⟨-, hmem⟩
  · rw [hobject]
    exact hadmin.2
  · rw [← hwf.ids.eq_of_mem hu hmem hid]
    simp only [User.activeAdminOf, Bool.and_eq_true] at huser'
    exact ⟨huser'.1.2, huser'.2⟩

/-- A password change that is loaded takes nothing away. -/
theorem not_takesAway_of_password {session : UserSession} {admin : User} {userId : Nat} {password salt : String}
    (h : loadChange P session admin userId (.password password salt) db = .ok c) : ¬c.TakesAway := by
  obtain ⟨-, -, -, hnext⟩ := loadChange_ok h
  simp only [UserChange.next, Except.ok.injEq] at hnext
  rw [Change.TakesAway, ← hnext]
  rintro (⟨h, h'⟩ | ⟨h, h'⟩)
  · exact absurd (h.symm.trans h') (by decide)
  · exact absurd (h.symm.trans h') (by decide)

/-- A step of a change of users leads to a place that is right for it. -/
theorem phaseOk_changeNext {a : AdminCredentials} {userId : Nat} {change : UserChange} (hwf : db.UsersWf)
    (hI : HasActiveAdmin o db) (hok : PhaseOk o db p)
    (hpassword : ∀ password salt, change = .password password salt → ∀ c ∈ p.change?, ¬c.TakesAway)
    (h : changeNext P a userId change db p = some (db', p')) : PhaseOk o db' p' := by
  cases p with
  | idle =>
    cases h
    exact phaseOk_proceed fun _ _ => trivial
  | current session =>
    cases h
    exact phaseOk_proceed fun admin hadmin => acting_ok hadmin
  | acting session admin =>
    cases h
    exact phaseOk_proceed fun c hc => loaded_ok hwf hI hok hc
  | loaded c =>
    cases change with
    | update payload =>
      cases h
      exact phaseOk_proceed fun _ _ => hok
    | password password salt =>
      cases h
      exact ⟨hok.1, fun _ htakes => absurd htakes (hpassword password salt rfl c rfl)⟩
  | emailFree c =>
    cases h
    exact phaseOk_proceed fun _ hallowed =>
      ⟨hok.1, fun horg htakes => otherAdmin_of_allowed hwf hok.1 horg (hok.2 horg htakes) htakes hallowed⟩
  | allowed c =>
    cases h
    exact hok
  | revoking c revoked =>
    simp only [changeNext] at h
    split at h
    · cases h
      trivial
    · cases h
      exact phaseOk_ending _
  | changed | verified | loggedIn | noAdmin | emailUnused | setUp | refused | raised => cases h

/-- A step of a request leads to a place that is right for it. -/
theorem phaseOk_accountNext (hwf : db.UsersWf) (hI : HasActiveAdmin o db) (hok : PhaseOk o db p)
    (hpassword : PasswordOk (R i) p) (h : accountNext P R i db p = some (db', p')) : PhaseOk o db' p' := by
  by_cases hR : ∃ a userId change, R i = .change a userId change
  · obtain ⟨a, userId, change, hR⟩ := hR
    unfold accountNext at h
    rw [hR] at h
    exact phaseOk_changeNext hwf hI hok (fun password salt hchange =>
      hpassword a userId password salt (by rw [hR, hchange])) h
  · have hplace : p'.changing = false :=
      changing_of_accountNext (fun a userId change heq => hR ⟨a, userId, change, heq⟩) h
    cases p' with
    | acting | loaded | emailFree | allowed | revoking => cases hplace
    | _ => trivial

/-- A step keeps what is known of a change of the password. -/
theorem passwordOk_accountNext (hpassword : PasswordOk (R i) p) (h : accountNext P R i db p = some (db', p')) :
    PasswordOk (R i) p' := by
  intro a userId password salt hR c hc
  have hkept := hpassword a userId password salt hR
  unfold accountNext at h
  rw [hR] at h
  cases p with
  | acting session admin =>
    cases h
    cases hload : loadChange P session admin userId (.password password salt) db with
    | ok c' =>
      rw [hload] at hc
      cases hc
      exact not_takesAway_of_password hload
    | error e =>
      rw [hload] at hc
      cases e <;> cases hc
  | idle =>
    cases h
    revert hc
    rcases hresult : (do
      let session ← getCurrentSession P a.sessionToken db
      requireCsrf P a.csrfToken session
      return session : Except Exn UserSession) with e | session
    · intro hc
      cases e <;> cases hc
    · intro hc
      cases hc
  | current session =>
    cases h
    revert hc
    rcases getCurrentUser session db >>= requireAdmin with e | admin
    · intro hc
      cases e <;> cases hc
    · intro hc
      cases hc
  | loaded c' =>
    cases h
    exact hkept c hc
  | emailFree c' =>
    cases h
    revert hc
    rcases ensureUserUpdateAllowed c'.admin c'.user c'.next db with e | _
    · intro hc
      cases e <;> cases hc
    · exact hkept c
  | allowed c' =>
    cases h
    exact hkept c hc
  | revoking c' revoked =>
    simp only [changeNext] at h
    split at h
    · cases h
      cases hc
    · rename_i e _
      cases h
      cases e <;> cases hc
  | changed | verified | loggedIn | noAdmin | emailUnused | setUp | refused | raised => cases h

/-! ### The steps of the others -/

/-- A step leaves another active admin, unless it commits a change that takes something away from one. -/
theorem otherAdmin_kept (hwf : db.UsersWf) (hok : PhaseOk o db p) (h : AccountEffect P db p db' p')
    (hkeeps : ∀ c revoked, p = .revoking c revoked → c.user.organizationId = o → ¬c.TakesAway) (hc : OtherAdmin o c db) :
    OtherAdmin o c db' := by
  obtain ⟨user, hu, hne, hadmin⟩ := hc
  obtain ⟨user', hu', hid, hadmin'⟩ := activeAdmin_kept hwf hok h hu hadmin fun c' revoked hp _ => hkeeps c' revoked hp
  exact ⟨user', hu', by rwa [hid], hadmin'⟩

/-- What is known of a request still holds after a step of another one, when not both take something away. -/
theorem phaseOk_others {q : AccountPhase} (hwf : db.UsersWf) (hok : PhaseOk o db p) (h : AccountEffect P db p db' p')
    (hq : PhaseOk o db q) (hone : TakesAwayFrom o q → ¬TakesAwayFrom o p) : PhaseOk o db' q := by
  have hchange : ∀ {c : Change}, ChangeOk db c → ChangeOk db' c :=
    fun hc => ⟨h.hasRow_kept hc.hasRow, hc.organization, hc.self⟩
  have hother : ∀ {c : Change}, c ∈ q.change? → c.user.organizationId = o → c.TakesAway → OtherAdmin o c db →
      OtherAdmin o c db' := by
    intro c hc horg htakes
    refine otherAdmin_kept hwf hok h fun c' revoked hp horg' htakes' =>
      hone ⟨c, hc, horg, htakes⟩ ⟨c', ?_, horg', htakes'⟩
    rw [hp]
    rfl
  cases q with
  | acting session admin => exact ⟨h.hasRow_kept hq.1, hq.2⟩
  | loaded c => exact ⟨hchange hq.1, fun horg htakes hactive => hother rfl horg htakes (hq.2 horg htakes hactive)⟩
  | emailFree c => exact ⟨hchange hq.1, fun horg htakes hactive => hother rfl horg htakes (hq.2 horg htakes hactive)⟩
  | allowed c => exact ⟨hchange hq.1, fun horg htakes => hother rfl horg htakes (hq.2 horg htakes)⟩
  | revoking c revoked => exact ⟨hchange hq.1, fun horg htakes => hother rfl horg htakes (hq.2 horg htakes)⟩
  | idle | current | changed | verified | loggedIn | noAdmin | emailUnused | setUp | refused | raised => trivial

/-- A step leaves an active admin. -/
theorem hasActiveAdmin_kept (hwf : db.UsersWf) (hI : HasActiveAdmin o db) (hok : PhaseOk o db p)
    (h : AccountEffect P db p db' p') : HasActiveAdmin o db' := by
  by_cases htakes : ∃ c revoked, p = .revoking c revoked ∧ c.user.organizationId = o ∧ c.TakesAway
  · obtain ⟨c, revoked, rfl, horg, htakes⟩ := htakes
    obtain ⟨user, hu, hne, hadmin⟩ := hok.2 horg htakes
    obtain ⟨user', hu', -, hadmin'⟩ := activeAdmin_kept hwf hok h hu hadmin fun c' revoked' hp hid => by
      cases hp
      exact absurd hid hne
    exact ⟨user', hu', hadmin'⟩
  · obtain ⟨user, hu, hadmin⟩ := hI
    obtain ⟨user', hu', -, hadmin'⟩ := activeAdmin_kept hwf hok h hu hadmin fun c revoked hp _ horg htakes' =>
      htakes ⟨c, revoked, hp, horg, htakes'⟩
    exact ⟨user', hu', hadmin'⟩

/-- The clock changes nothing that is known. -/
theorem phaseOk_tick {now : Int} (h : tick db now = some db') (hok : PhaseOk o db p) : PhaseOk o db' p := by
  obtain ⟨-, h⟩ := Option.ite_none_right_eq_some.1 h
  cases h
  have hchange : ∀ {c : Change}, ChangeOk db c → ChangeOk { db with now := now } c := fun hc =>
    ⟨hc.hasRow, hc.organization, hc.self⟩
  cases p with
  | acting => exact hok
  | loaded | emailFree | allowed | revoking => exact ⟨hchange hok.1, hok.2⟩
  | idle | current | changed | verified | loggedIn | noAdmin | emailUnused | setUp | refused | raised => trivial

end ActiveAdminAux

open ActiveAdminAux Processes Transition in
/-- Any number of requests of any kind, in any order of their steps: an organization that has an active admin has one in
every state, and so an admin for the first-run setup to find, as long as no two requests at once have loaded a user of
the organization whom they take admin access from or deactivate. -/
theorem active_admin_kept {ι : Type} [DecidableEq ι] (P : Platform) (R : ι → AccountRequest) (o : Nat) (db : Accounts)
    (hwf : db.UsersWf) (hadmin : HasActiveAdmin o db) (acts : List (Act ι Int)) (x : AccountSessions ι)
    (hmeets : Meets (accountStep P R) (fun x _ => AtMostOne (TakesAwayFrom o) x.phase) (.initial db) acts)
    (hrun : exec (accountStep P R) (.initial db) acts = some x) :
    HasActiveAdmin o x.shared ∧ adminExists o x.shared = true := by
  have hinv := World.exec_invariant (I := fun db => db.UsersWf ∧ HasActiveAdmin o db)
    (Q := fun i db p => PhaseOk o db p ∧ PasswordOk (R i) p) ?hown ?hothers ?henv ⟨hwf, hadmin⟩ ?hinitial hmeets hrun
  case hinitial => exact fun i => ⟨trivial, fun _ _ _ _ _ c hc => by cases hc⟩
  case hown =>
    rintro x i db' p' ⟨hwf, hI⟩ hQ - hnext
    have heffect := accountNext_effect hnext
    exact ⟨⟨heffect.usersWf hwf, hasActiveAdmin_kept hwf hI (hQ i).1 heffect⟩,
      phaseOk_accountNext hwf hI (hQ i).1 (hQ i).2 hnext, passwordOk_accountNext (hQ i).2 hnext⟩
  case hothers =>
    rintro x i db' p' j ⟨hwf, hI⟩ hQ hone hnext hji
    refine ⟨phaseOk_others hwf (hQ i).1 (accountNext_effect hnext) (hQ j).1 fun hj hi => hji (hone j i hj hi), (hQ j).2⟩
  case henv =>
    rintro x now db' ⟨hwf, hI⟩ hQ htick
    obtain ⟨-, hdb⟩ := Option.ite_none_right_eq_some.1 htick
    cases hdb
    exact ⟨⟨⟨hwf.ids, hwf.fresh⟩, hI⟩, fun j => ⟨phaseOk_tick htick (hQ j).1, (hQ j).2⟩⟩
  obtain ⟨⟨-, user, hu, huser⟩, -⟩ := hinv
  refine ⟨⟨user, hu, huser⟩, List.any_eq_true.2 ⟨user, hu, ?_⟩⟩
  simp only [User.activeAdminOf, Bool.and_eq_true] at huser ⊢
  exact huser.1

/-- Two active admins, each with a session. -/
def twoAdmins : Accounts where
  users := [
    { id := 1, organizationId := 1, email := "ada@example.com", displayName := "Ada", isAdmin := true },
    { id := 2, organizationId := 1, email := "bob@example.com", displayName := "Bob", isAdmin := true }]
  sessions := [
    { id := 3, userId := 1, sessionTokenHash := "ada-session", csrfTokenHash := "$ada-csrf", expiresAt := hours 8 },
    { id := 4, userId := 2, sessionTokenHash := "bob-session", csrfTokenHash := "$bob-csrf", expiresAt := hours 8 }]
  nextId := 5

/-- Each of the two admins takes admin access from the other. -/
def demotions : Fin 2 → AccountRequest
  | 0 => .change ⟨"ada-session", "ada-csrf"⟩ 2 (.update { isAdmin := some false })
  | 1 => .change ⟨"bob-session", "bob-csrf"⟩ 1 (.update { isAdmin := some false })

/-- The steps of one request, to its end. -/
def sevenSteps (i : Fin 2) : List (Processes.Act (Fin 2) Int) := List.replicate 7 (.next i)

/-- One request to its end, and what the other one can still do. -/
theorem active_admin_kept_oneByOne :
    ∃ x, Transition.exec (accountStep .plain demotions) (.initial twoAdmins) (sevenSteps 0 ++ [.next 1, .next 1]) =
      some x ∧ HasActiveAdmin 1 x.shared ∧ adminExists 1 x.shared = true :=
  ⟨_, rfl, active_admin_kept .plain demotions 1 twoAdmins ⟨by decide, by decide⟩ (by decide)
    (sevenSteps 0 ++ [.next 1, .next 1]) _ (by decide) rfl⟩

/-- Both requests count two active admins before either commits. -/
def crossingDemotions : List (Processes.Act (Fin 2) Int) :=
  List.replicate 6 (.next 0) ++ List.replicate 6 (.next 1) ++ [.next 0, .next 1]

/-- Two admins who demote each other at once leave no admin, and the first-run setup open. -/
theorem no_admin_crossingDemotions :
    HasActiveAdmin 1 twoAdmins ∧
      ∃ x, Transition.exec (accountStep .plain demotions) (.initial twoAdmins) crossingDemotions = some x ∧
        ¬HasActiveAdmin 1 x.shared ∧ adminExists 1 x.shared = false :=
  ⟨by decide, _, rfl, by decide, by decide⟩

end TeamsRehook
