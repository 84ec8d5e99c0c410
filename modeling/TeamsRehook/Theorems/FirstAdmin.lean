import TeamsRehook.Lemmas.Accounts

namespace TeamsRehook

/-! ## First-run setup succeeds at most once -/

/-- The request created an admin and received a session. -/
def IsSetUp (p : AccountPhase) : Prop := ∃ user sessionId, p = .setUp user sessionId

/-- The request has found no admin, and has not ended. -/
def InSetup : AccountPhase → Prop
  | .noAdmin | .emailUnused _ => True
  | _ => False

instance : DecidablePred InSetup := fun p => by
  cases p <;> first | exact isTrue trivial | exact isFalse id

/-- At most one request created an admin and received a session, the others created nothing, and a request that ended
otherwise was answered with 409, or with 400 when its text is not an e-mail address. -/
structure SetUpOnce {ι : Type} (P : Platform) (payload : ι → FirstAdminCreateIn) (db : Accounts)
    (x : AccountSessions ι) : Prop where
  once : Processes.AtMostOne IsSetUp x.phase
  stored : (x.shared.users = db.users ∧ x.shared.sessions = db.sessions ∧ ∀ i, ¬IsSetUp (x.phase i)) ∨
    ∃ i user session, x.phase i = .setUp user session.id ∧ session.userId = user.id ∧ user.isAdmin = true ∧
      x.shared.users = db.users ++ [user] ∧ x.shared.sessions = db.sessions ++ [session]
  refused : ∀ i statusCode detail, x.phase i = .refused statusCode detail →
    statusCode = 409 ∨ statusCode = 400 ∧ ∃ e, normalizeUserEmail P (payload i).email = .error e
  notRaised : ∀ i e, x.phase i ≠ .raised e

namespace FirstAdminAux

open Processes

variable {ι : Type} {P : Platform} {o : Nat} {db db' : Accounts} {p p' : AccountPhase} {payload : FirstAdminCreateIn}

/-- What is known of a setup request at its place. -/
def SetupOk (P : Platform) (o : Nat) (payload : FirstAdminCreateIn) (db : Accounts) : AccountPhase → Prop
  | .noAdmin => adminExists o db = false
  | .emailUnused email =>
    adminExists o db = false ∧ db.users.any (fun user => user.organizationId == o && user.email == email) = false
  | .refused statusCode _ => statusCode = 409 ∨ statusCode = 400 ∧ ∃ e, normalizeUserEmail P payload.email = .error e
  | .raised _ => False
  | _ => True

/-- A text that is not an e-mail address is answered with 400. -/
theorem normalizeUserEmail_error {email : String} {e : Exn} (h : normalizeUserEmail P email = .error e) :
    e = .http 400 "A valid email address is required" := by
  unfold normalizeUserEmail at h
  simp only at h
  split at h
  · cases h
  · cases h
    rfl

/-- A step of a setup request leads to a place that is right for it. -/
theorem setupOk_next (hok : SetupOk P o payload db p) (h : setupNext P o payload db p = some (db', p')) :
    SetupOk P o payload db' p' := by
  cases p with
  | idle =>
    cases h
    split
    · exact .inl rfl
    · exact Bool.eq_false_iff.2 ‹_›
  | noAdmin =>
    cases h
    cases hemail : normalizeUserEmail P payload.email with
    | ok email =>
      simp only [proceed]
      split
      · exact .inl rfl
      · exact ⟨hok, Bool.eq_false_iff.2 ‹_›⟩
    | error e =>
      rw [normalizeUserEmail_error hemail]
      exact .inr ⟨rfl, e, hemail⟩
  | emailUnused email =>
    have hunused : ¬(db.users.any (fun user => user.organizationId == o && user.email == email)) = true :=
      Bool.eq_false_iff.1 hok.2
    simp only [setupNext, if_neg hunused] at h
    obtain ⟨-, h⟩ := Option.ite_none_right_eq_some.1 h
    cases h
    trivial
  | current | acting | loaded | emailFree | allowed | revoking | changed | verified | loggedIn | setUp | refused
  | raised => cases h

/-- A setup request leaves the tables as they are and does not succeed, or it was in setup and creates the admin and the
session. -/
theorem setupNext_cases (h : setupNext P o payload db p = some (db', p')) :
    (db' = db ∧ ¬IsSetUp p') ∨
      InSetup p ∧ ∃ user session, p' = .setUp user session.id ∧ session.userId = user.id ∧ user.isAdmin = true ∧
        user.organizationId = o ∧ db'.users = db.users ++ [user] ∧ db'.sessions = db.sessions ++ [session] := by
  cases p with
  | emailUnused email =>
    simp only [setupNext] at h
    split at h
    · cases h
      exact .inl ⟨rfl, by rintro ⟨user, sessionId, hp⟩; cases hp⟩
    · obtain ⟨-, h⟩ := Option.ite_none_right_eq_some.1 h
      cases h
      exact .inr ⟨trivial, _, _, rfl, rfl, rfl, rfl, rfl, rfl⟩
  | _ =>
    have heffect := setupNext_effect h
    cases heffect with
    | quiet hp' =>
      refine .inl ⟨rfl, ?_⟩
      rintro ⟨user, sessionId, rfl⟩
      cases hp'.committed
    | _ => cases h

/-- What is known of a request that is not in setup does not depend on the tables. -/
theorem setupOk_of_not_inSetup (hok : SetupOk P o payload db p) (hp : ¬InSetup p) (db' : Accounts) :
    SetupOk P o payload db' p := by
  cases p with
  | noAdmin => exact absurd trivial hp
  | emailUnused => exact absurd trivial hp
  | _ => exact hok

variable {S : ι → FirstAdminCreateIn} {db₀ : Accounts} {x x' : AccountSessions ι}

/-- What holds in every state: what is known of each request, that nothing is stored or what one request created, and
that the organization has an admin once a request succeeded. -/
structure SetupInv (P : Platform) (o : Nat) (S : ι → FirstAdminCreateIn) (db₀ : Accounts) (x : AccountSessions ι) :
    Prop where
  phases : ∀ i, SetupOk P o (S i) x.shared (x.phase i)
  once : AtMostOne IsSetUp x.phase
  admin : ∀ i, IsSetUp (x.phase i) → adminExists o x.shared = true
  stored : (x.shared.users = db₀.users ∧ x.shared.sessions = db₀.sessions ∧ ∀ i, ¬IsSetUp (x.phase i)) ∨
    ∃ i user session, x.phase i = .setUp user session.id ∧ session.userId = user.id ∧ user.isAdmin = true ∧
      x.shared.users = db₀.users ++ [user] ∧ x.shared.sessions = db₀.sessions ++ [session]

/-- In setup the organization has no admin, so that no request has succeeded. -/
theorem SetupInv.none_of_inSetup (hI : SetupInv P o S db₀ x) {i : ι} (hi : InSetup (x.phase i)) :
    ∀ j, ¬IsSetUp (x.phase j) := by
  have hnone : adminExists o x.shared = false := by
    have hok := hI.phases i
    cases hp : x.phase i with
    | noAdmin =>
      rw [hp] at hok
      exact hok
    | emailUnused email =>
      rw [hp] at hok
      exact hok.1
    | _ =>
      rw [hp] at hi
      exact hi.elim
  intro j hj
  rw [hI.admin j hj] at hnone
  cases hnone

variable [DecidableEq ι]

/-- A step that does not succeed keeps the invariant. -/
theorem SetupInv.quiet (hI : SetupInv P o S db₀ x) {i : ι} (hp : SetupOk P o (S i) x.shared p) (hnot : ¬IsSetUp p)
    (hi : ¬IsSetUp (x.phase i)) : SetupInv P o S db₀ ⟨x.shared, Function.update x.phase i p⟩ := by
  refine ⟨forall_move (fun j _ => hI.phases j) hp, hI.once.move fun h => absurd h hnot, ?_, ?_⟩
  · intro j hj
    by_cases hji : j = i
    · subst hji
      simp only [Function.update_self] at hj
      exact absurd hj hnot
    · simp only [Function.update_of_ne hji] at hj
      exact hI.admin j hj
  · rcases hI.stored with ⟨hu, hs, hnone⟩ | ⟨j, user, session, hj, hrest⟩
    · exact .inl ⟨hu, hs, forall_move (Q := fun _ q => ¬IsSetUp q) (fun j _ => hnone j) hnot⟩
    · have hji : j ≠ i := by
        rintro rfl
        exact hi ⟨user, session.id, hj⟩
      exact .inr ⟨j, user, session, (Function.update_of_ne hji p x.phase).trans hj, hrest⟩

/-- A request that ended takes no step. -/
theorem not_isSetUp_of_next (h : setupNext P o payload db p = some (db', p')) : ¬IsSetUp p := by
  rintro ⟨user, sessionId, rfl⟩
  cases h

/-- A step of a request keeps the invariant when no other request is in setup. -/
theorem SetupInv.next (hI : SetupInv P o S db₀ x) (hone : AtMostOne InSetup x.phase) {i : ι}
    (h : setupNext P o (S i) x.shared (x.phase i) = some (db', p')) :
    SetupInv P o S db₀ ⟨db', Function.update x.phase i p'⟩ := by
  have hp' : SetupOk P o (S i) db' p' := setupOk_next (hI.phases i) h
  rcases setupNext_cases h with ⟨rfl, hnot⟩ | ⟨hi, user, session, rfl, huser, hadmin, horg, hu, hs⟩
  · exact hI.quiet hp' hnot (not_isSetUp_of_next h)
  · have hnone := hI.none_of_inSetup hi
    have hdb : x.shared.users = db₀.users ∧ x.shared.sessions = db₀.sessions := by
      rcases hI.stored with ⟨hu, hs, -⟩ | ⟨j, user, session, hj, -⟩
      · exact ⟨hu, hs⟩
      · exact absurd ⟨user, session.id, hj⟩ (hnone j)
    refine ⟨forall_move (fun j hji => ?_) hp', AtMostOne.enter fun j _ => hnone j, fun _ _ => ?_,
      .inr ⟨i, user, session, ?_⟩⟩
    · exact setupOk_of_not_inSetup (hI.phases j) (fun hj => hji (hone j i hj hi)) db'
    · refine List.any_eq_true.2 ⟨user, ?_, by simp [horg, hadmin]⟩
      simp [hu]
    · exact ⟨Function.update_self .., huser, hadmin, by rw [hu, hdb.1], by rw [hs, hdb.2]⟩

end FirstAdminAux

open FirstAdminAux Processes Transition in
/-- Any number of setup requests for one organization, in any order of their steps: at most one creates an admin and
receives a session, the others create nothing, and those that end are answered with 409, as long as no two requests at
once have found no admin. -/
theorem set_up_once {ι : Type} [DecidableEq ι] (P : Platform) (o : Nat) (payload : ι → FirstAdminCreateIn) (db : Accounts)
    (acts : List (Act ι Int)) (x : AccountSessions ι)
    (hmeets : Meets (accountStep P fun i => .createFirstAdmin o (payload i)) (fun x _ => AtMostOne InSetup x.phase)
      (.initial db) acts)
    (hrun : exec (accountStep P fun i => .createFirstAdmin o (payload i)) (.initial db) acts = some x) :
    SetUpOnce P payload db x := by
  have hinv : SetupInv P o payload db x := by
    refine exec_invariant_of_meets (I := SetupInv P o payload db) ?_ ?_ hmeets hrun
    · intro x a x' hI hone hstep
      rcases World.step_cases hstep with ⟨i, db', p', -, hnext, rfl⟩ | ⟨now, db', -, htick, rfl⟩
      · exact hI.next hone hnext
      · obtain ⟨-, hdb⟩ := Option.ite_none_right_eq_some.1 htick
        cases hdb
        refine ⟨fun i => ?_, hI.once, hI.admin, hI.stored⟩
        have hok := hI.phases i
        revert hok
        cases x.phase i <;> exact id
    · have hnone : ∀ i : ι, ¬IsSetUp ((AccountSessions.initial db : AccountSessions ι).phase i) := by
        rintro i ⟨user, sessionId, hp⟩
        cases hp
      exact ⟨fun _ => trivial, atMostOne_of_none hnone, fun i hi => absurd hi (hnone i), .inl ⟨rfl, rfl, hnone⟩⟩
  refine ⟨hinv.once, hinv.stored, fun i statusCode detail hp => ?_, fun i e hp => ?_⟩
  · have hok := hinv.phases i
    rw [hp] at hok
    exact hok
  · have hok := hinv.phases i
    rw [hp] at hok
    exact hok

/-- Two installers, with different e-mail addresses. -/
def installers : Fin 2 → FirstAdminCreateIn
  | 0 =>
    { email := "ada@example.com", displayName := "Ada", password := "ada-password",
      secrets := ⟨"ada-session", "c", "", 8⟩ }
  | 1 =>
    { email := "eve@example.com", displayName := "Eve", password := "eve-password",
      secrets := ⟨"eve-session", "c", "", 8⟩ }

/-- One request to its end, and then the other one. -/
theorem set_up_once_oneByOne :
    ∃ x, Transition.exec (accountStep .plain fun i => .createFirstAdmin 1 (installers i)) (.initial { nextId := 2 })
        [.next 0, .next 0, .next 0, .next 1] = some x ∧
      SetUpOnce .plain installers { nextId := 2 } x :=
  ⟨_, rfl, set_up_once .plain 1 installers { nextId := 2 } [.next 0, .next 0, .next 0, .next 1] _ (by decide) rfl⟩

/-- Two installers who both find no admin before either commits are both created as admins, with a session each. -/
theorem set_up_twice :
    ∃ x, Transition.exec (accountStep .plain fun i => .createFirstAdmin 1 (installers i)) (.initial { nextId := 2 })
        [.next 0, .next 1, .next 0, .next 1, .next 0, .next 1] = some x ∧
      x.shared.users.map (·.email) = ["ada@example.com", "eve@example.com"] ∧ x.shared.sessions.length = 2 ∧
      ¬SetUpOnce .plain installers { nextId := 2 } x := by
  refine ⟨_, rfl, rfl, rfl, fun h => ?_⟩
  have := h.once 0 1 ⟨_, _, rfl⟩ ⟨_, _, rfl⟩
  cases this

end TeamsRehook
