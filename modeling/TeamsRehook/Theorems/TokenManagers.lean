import TeamsRehook.Delivery.GraphAuth
import TeamsRehook.Delivery.TokenManagers

/-!
# The tokens that the calls are given

Any number of calls of `get_token`, of changes of settings and of refresh jobs take their steps in any order, and time
passes.
-/

namespace TeamsRehook

open Processes Transition

variable {ι : Type*} [DecidableEq ι]

/-- The refresh window of `get_token`. -/
def refreshWindow : Int := 60000000

/-- The manager a call works with. -/
def TokenPhase.manager : TokenPhase ι → Option ι
  | .waiting m | .fetching m | .cached m _ _ | .renewed m _ _ _ => some m
  | _ => none

/-- The places of a thread. -/
def TokenThread.Takes : TokenThread → TokenPhase ι → Prop
  | .call _, phase => phase ≠ .loaded ∧ phase ≠ .ended
  | .change _, phase => phase = .ready ∨ phase = .loaded ∨ phase = .ended
  | .refresh, phase => phase = .ready ∨ phase = .ended

/-- The thread has ended. -/
def TokenPhase.Over : TokenPhase ι → Prop
  | .cached _ _ _ | .renewed _ _ _ _ | .raised _ | .ended => True
  | _ => False

/-- The manager, the token and the time of a call that has returned. -/
def TokenPhase.result : TokenPhase ι → Option (ι × String × Int)
  | .cached m token at_ | .renewed m token at_ _ => some (m, token, at_)
  | _ => none

/-- The token was fetched with the manager for these settings, by a call that has returned, and given at this time: by
that call, or while more than the refresh window was left of its lifetime. -/
def FetchedFor (P : Platform) (service : TokenService) (threads : ι → TokenThread)
    (w : World (TokenProcess ι) ι (TokenPhase ι)) (settings : Settings) (i m : ι) (token : String) (at_ : Int) : Prop :=
  ∃ j endpoint fetchedAt expiresIn, threads j = .call endpoint ∧ w.phase j = .renewed m token fetchedAt expiresIn ∧
    service.fetch P settings (endpoint settings) = .ok (token, expiresIn) ∧ token ≠ "" ∧ fetchedAt ≤ at_ ∧
    at_ ≤ w.shared.now ∧ (j = i ∨ at_ + refreshWindow < expiry fetchedAt expiresIn)

/-- No change of a setting begins in the step. -/
def NoChange (threads : ι → TokenThread) (w : World (TokenProcess ι) ι (TokenPhase ι)) : Act ι Nat → Prop
  | .next k => (match threads k, w.phase k with | .change _, .ready => true | _, _ => false) = false
  | .env _ => True

instance (threads : ι → TokenThread) (w : World (TokenProcess ι) ι (TokenPhase ι)) : DecidablePred (NoChange threads w)
  | .next _ => inferInstanceAs (Decidable (_ = _))
  | .env _ => isTrue trivial

/-- The step does not drop the manager. -/
def NoReset (threads : ι → TokenThread) (w : World (TokenProcess ι) ι (TokenPhase ι)) : Act ι Nat → Prop
  | .next k => (match threads k, w.phase k with | .change _, .loaded | .refresh, .ready => true | _, _ => false) = false
  | .env _ => True

instance (threads : ι → TokenThread) (w : World (TokenProcess ι) ι (TokenPhase ι)) : DecidablePred (NoReset threads w)
  | .next _ => inferInstanceAs (Decidable (_ = _))
  | .env _ => isTrue trivial

/-- In some state of the run the call `i` took the lock of the manager to fetch a token, when the call `j` had fetched
this one and at most the refresh window was left of its lifetime. -/
def FetchedAfter (P : Platform) (service : TokenService) (threads : ι → TokenThread)
    (start : World (TokenProcess ι) ι (TokenPhase ι)) (as : List (Act ι Nat)) (m i j : ι) (token : String)
    (fetchedAt expiresIn : Int) : Prop :=
  ∃ earlier later v v', as = earlier ++ .next i :: later ∧ exec (tokenStep P service threads) start earlier = some v ∧
    v.phase i = .waiting m ∧ tokenStep P service threads v (.next i) = some v' ∧ v'.phase i = .fetching m ∧
    v.phase j = .renewed m token fetchedAt expiresIn ∧ expiry fetchedAt expiresIn ≤ v.shared.now + refreshWindow

/-- The call has got as far as making a manager. -/
def Begun (w : World (TokenProcess ι) ι (TokenPhase ι)) (m : ι) : Prop := w.phase m ≠ .ready ∧ w.phase m ≠ .absent

/-- The other managers stay. -/
@[simp, grind =] theorem TokenProcess.setManager_managers (x : TokenProcess ι) (m : ι) (manager : TokenManager) (m' : ι) :
    (x.setManager m manager).managers m' = if m' = m then manager else x.managers m' := Function.update_apply ..

@[simp, grind =] theorem TokenProcess.setManager_now (x : TokenProcess ι) (m : ι) (manager : TokenManager) :
    (x.setManager m manager).now = x.now := rfl

@[simp, grind =] theorem TokenProcess.setManager_settings (x : TokenProcess ι) (m : ι) (manager : TokenManager) :
    (x.setManager m manager).settings = x.settings := rfl

@[simp, grind =] theorem TokenProcess.setManager_current (x : TokenProcess ι) (m : ι) (manager : TokenManager) :
    (x.setManager m manager).current = x.current := rfl

namespace TokenManagersAux

variable {P : Platform} {service : TokenService} {threads : ι → TokenThread}
    {w w' w₁ w₂ : World (TokenProcess ι) ι (TokenPhase ι)}
  {a : Act ι Nat} {as : List (Act ι Nat)}

/-- What a step can do. -/
inductive Moves (P : Platform) (service : TokenService) (threads : ι → TokenThread)
    (w : World (TokenProcess ι) ι (TokenPhase ι)) : Act ι Nat → World (TokenProcess ι) ι (TokenPhase ι) → Prop
  | foundNone {i : ι} {endpoint : Settings → UrlOutcome} (hthread : threads i = .call endpoint)
      (hphase : w.phase i = .ready) (hcurrent : w.shared.current = none) :
      Moves P service threads w (.next i) ⟨w.shared, Function.update w.phase i .absent⟩
  | found {i m : ι} {endpoint : Settings → UrlOutcome} (hthread : threads i = .call endpoint)
      (hphase : w.phase i = .ready) (hcurrent : w.shared.current = some m) :
      Moves P service threads w (.next i) ⟨w.shared, Function.update w.phase i .present⟩
  | made {i : ι} {endpoint : Settings → UrlOutcome} (hthread : threads i = .call endpoint)
      (hphase : w.phase i = .absent) :
      Moves P service threads w (.next i)
        ⟨w.shared.setManager i { settings := w.shared.settings }, Function.update w.phase i .made⟩
  | assigned {i : ι} {endpoint : Settings → UrlOutcome} (hthread : threads i = .call endpoint)
      (hphase : w.phase i = .made) :
      Moves P service threads w (.next i) ⟨{ w.shared with current := some i }, Function.update w.phase i .present⟩
  | missing {i : ι} {endpoint : Settings → UrlOutcome} (hthread : threads i = .call endpoint)
      (hphase : w.phase i = .present) (hcurrent : w.shared.current = none) :
      Moves P service threads w (.next i) ⟨w.shared, Function.update w.phase i (.raised .attributeError)⟩
  | took {i m : ι} {endpoint : Settings → UrlOutcome} (hthread : threads i = .call endpoint)
      (hphase : w.phase i = .present) (hcurrent : w.shared.current = some m) :
      Moves P service threads w (.next i) ⟨w.shared, Function.update w.phase i (.waiting m)⟩
  | gave {i m : ι} {endpoint : Settings → UrlOutcome} (hthread : threads i = .call endpoint)
      (hphase : w.phase i = .waiting m)
      (hunlocked : (w.shared.managers m).locked = false) (hcached : (w.shared.managers m).cached w.shared.now = true) :
      Moves P service threads w (.next i)
        ⟨w.shared, Function.update w.phase i (.cached m (w.shared.managers m).accessToken w.shared.now)⟩
  | locked {i m : ι} {endpoint : Settings → UrlOutcome} (hthread : threads i = .call endpoint)
      (hphase : w.phase i = .waiting m)
      (hunlocked : (w.shared.managers m).locked = false) (hcached : (w.shared.managers m).cached w.shared.now = false) :
      Moves P service threads w (.next i)
        ⟨w.shared.setManager m { w.shared.managers m with locked := true }, Function.update w.phase i (.fetching m)⟩
  | failed {i m : ι} {endpoint : Settings → UrlOutcome} {token : String} {e : Exn} (hthread : threads i = .call endpoint)
      (hphase : w.phase i = .fetching m) (htoken : token = (w.shared.managers m).accessToken ∨ token ≠ "") :
      Moves P service threads w (.next i)
        ⟨w.shared.setManager m { w.shared.managers m with locked := false, accessToken := token },
          Function.update w.phase i (.raised e)⟩
  | stored {i m : ι} {endpoint : Settings → UrlOutcome} {token : String} {expiresIn : Int} (hthread : threads i =
    .call endpoint)
      (hphase : w.phase i = .fetching m)
      (hfetch : service.fetch P (w.shared.managers m).settings (endpoint (w.shared.managers m).settings) =
        .ok (token, expiresIn))
      (htoken : token ≠ "") :
      Moves P service threads w (.next i)
        ⟨w.shared.setManager m
            { w.shared.managers m with
              locked := false, accessToken := token, expiresAt := some (expiry w.shared.now expiresIn) },
          Function.update w.phase i (.renewed m token w.shared.now expiresIn)⟩
  | loaded {i : ι} {settings : Settings} (hthread : threads i = .change settings) (hphase : w.phase i = .ready) :
      Moves P service threads w (.next i) ⟨{ w.shared with settings := settings }, Function.update w.phase i .loaded⟩
  | dropped {i : ι} (hthread : (∃ settings, threads i = .change settings) ∧ w.phase i = .loaded ∨
        threads i = .refresh ∧ w.phase i = .ready) :
      Moves P service threads w (.next i) ⟨{ w.shared with current := none }, Function.update w.phase i .ended⟩
  | time (d : Nat) : Moves P service threads w (.env d) { w with shared := { w.shared with now := w.shared.now + d } }

/-- A time some seconds later, when there is one. -/
theorem addSeconds_ok {now n x : Int} (h : addSeconds now n = .ok x) : x = now + n * 1000000 := by
  unfold addSeconds at h
  split at h
  · cases h
  · exact (Except.ok.inj h).symm

/-- What the end of a fetch does. -/
theorem moves_of_storeToken {i m : ι} {endpoint : Settings → UrlOutcome} {x : TokenProcess ι} {p : TokenPhase ι}
    (hthread : threads i = .call endpoint) (hphase : w.phase i = .fetching m)
    (h : storeToken service w.shared m
      (service.fetch P (w.shared.managers m).settings (endpoint (w.shared.managers m).settings)) = (x, p)) :
    Moves P service threads w (.next i) ⟨x, Function.update w.phase i p⟩ := by
  cases hfetch : service.fetch P (w.shared.managers m).settings (endpoint (w.shared.managers m).settings) with
  | error e =>
    rw [hfetch] at h
    cases h
    exact .failed hthread hphase (.inl rfl)
  | ok answer =>
    obtain ⟨token, expiresIn⟩ := answer
    rw [hfetch] at h
    simp only [storeToken] at h
    by_cases htoken : token = ""
    · rw [if_pos htoken] at h
      cases h
      exact .failed hthread hphase (.inl rfl)
    · rw [if_neg htoken] at h
      cases hexpires : addSeconds w.shared.now (max expiresIn 1) with
      | error e =>
        rw [hexpires] at h
        cases h
        exact .failed hthread hphase (.inr htoken)
      | ok expiresAt =>
        rw [hexpires] at h
        cases h
        have hexpiry : expiresAt = expiry w.shared.now expiresIn := addSeconds_ok hexpires
        rw [hexpiry]
        exact .stored hthread hphase hfetch htoken

/-- A step of a call. -/
theorem moves_of_callNext {i : ι} {endpoint : Settings → UrlOutcome} {x : TokenProcess ι} {p : TokenPhase ι}
    (hthread : threads i = .call endpoint) (h : tokenCallNext P service i endpoint w.shared (w.phase i) = some (x, p)) :
    Moves P service threads w (.next i) ⟨x, Function.update w.phase i p⟩ := by
  cases hphase : w.phase i with
  | ready =>
    rw [hphase] at h
    cases hcurrent : w.shared.current with
    | none =>
      simp only [tokenCallNext, hcurrent, Option.isNone_none, if_true] at h
      cases h
      exact .foundNone hthread hphase hcurrent
    | some m =>
      simp only [tokenCallNext, hcurrent, Option.isNone_some, Bool.false_eq_true, if_false] at h
      cases h
      exact .found hthread hphase hcurrent
  | absent =>
    rw [hphase] at h
    cases h
    exact .made hthread hphase
  | made =>
    rw [hphase] at h
    cases h
    exact .assigned hthread hphase
  | present =>
    rw [hphase] at h
    cases hcurrent : w.shared.current with
    | none =>
      simp only [tokenCallNext, hcurrent] at h
      cases h
      exact .missing hthread hphase hcurrent
    | some m =>
      simp only [tokenCallNext, hcurrent] at h
      cases h
      exact .took hthread hphase hcurrent
  | waiting m =>
    rw [hphase] at h
    simp only [tokenCallNext] at h
    cases hlocked : (w.shared.managers m).locked with
    | true =>
      rw [hlocked, if_pos rfl] at h
      cases h
    | false =>
      rw [hlocked, if_neg (by decide)] at h
      cases hcached : (w.shared.managers m).cached w.shared.now with
      | true =>
        rw [hcached, if_pos rfl] at h
        cases h
        exact .gave hthread hphase hlocked hcached
      | false =>
        rw [hcached, if_neg (by decide)] at h
        cases h
        exact .locked hthread hphase hlocked hcached
  | fetching m =>
    rw [hphase] at h
    exact moves_of_storeToken hthread hphase (Option.some.inj h)
  | _ =>
    rw [hphase] at h
    cases h

/-- Every step is one of those listed. -/
theorem moves_of_step (h : tokenStep P service threads w a = some w') : Moves P service threads w a w' := by
  rcases World.step_cases h with ⟨i, x, p, rfl, hnext, rfl⟩ | ⟨d, x, rfl, henv, rfl⟩
  · unfold tokenNext at hnext
    cases hthread : threads i with
    | call endpoint =>
      rw [hthread] at hnext
      exact moves_of_callNext hthread hnext
    | change settings =>
      rw [hthread] at hnext
      cases hphase : w.phase i with
      | ready =>
        simp only [hphase, settingChangeNext] at hnext
        cases hnext
        exact .loaded hthread hphase
      | loaded =>
        simp only [hphase, settingChangeNext] at hnext
        cases hnext
        exact .dropped (.inl ⟨⟨settings, hthread⟩, hphase⟩)
      | _ =>
        simp only [hphase, settingChangeNext] at hnext
        cases hnext
    | refresh =>
      rw [hthread] at hnext
      cases hphase : w.phase i with
      | ready =>
        simp only [hphase, managerResetNext] at hnext
        cases hnext
        exact .dropped (.inr ⟨hthread, hphase⟩)
      | _ =>
        simp only [hphase, managerResetNext] at hnext
        cases hnext
  · cases henv
    exact .time d

/-- What holds of the process in every state that can be reached. -/
structure Inv (P : Platform) (service : TokenService) (threads : ι → TokenThread)
    (w : World (TokenProcess ι) ι (TokenPhase ι)) : Prop where
  placed : ∀ i, (threads i).Takes (w.phase i)
  current : ∀ m, w.shared.current = some m → Begun w m
  begun : ∀ i m, (w.phase i).manager = some m → Begun w m
  locked : ∀ i m, w.phase i = .fetching m → (w.shared.managers m).locked = true
  held : ∀ m, (w.shared.managers m).locked = true → ∃ i, w.phase i = .fetching m
  exclusive : ∀ i j m, w.phase i = .fetching m → w.phase j = .fetching m → i = j
  due : ∀ i m x, w.phase i = .fetching m → (w.shared.managers m).expiresAt = some x → x ≤ w.shared.now + refreshWindow
  stored : ∀ m x, (w.shared.managers m).expiresAt = some x → w.shared.now + refreshWindow < x →
    ∃ j at_ expiresIn, w.phase j = .renewed m (w.shared.managers m).accessToken at_ expiresIn ∧ x = expiry at_ expiresIn
  hasToken : ∀ m x, (w.shared.managers m).expiresAt = some x → (w.shared.managers m).accessToken ≠ ""

/-- What holds of the calls that have returned. -/
structure Given (P : Platform) (service : TokenService) (threads : ι → TokenThread)
    (w : World (TokenProcess ι) ι (TokenPhase ι)) : Prop where
  renewed : ∀ i m token at_ expiresIn, w.phase i = .renewed m token at_ expiresIn → at_ ≤ w.shared.now ∧ token ≠ "" ∧
    ∃ endpoint, threads i = .call endpoint ∧
      service.fetch P (w.shared.managers m).settings (endpoint (w.shared.managers m).settings) = .ok (token, expiresIn)
  lifetimes : ∀ i m token at_ expiresIn, w.phase i = .renewed m token at_ expiresIn →
    (w.shared.managers m).expiresAt = some (expiry at_ expiresIn) ∨ expiry at_ expiresIn ≤ w.shared.now + refreshWindow
  cached : ∀ i m token at_, w.phase i = .cached m token at_ → at_ ≤ w.shared.now ∧
    ∃ j at_' expiresIn, w.phase j = .renewed m token at_' expiresIn ∧ at_' ≤ at_ ∧
    at_ + refreshWindow < expiry at_' expiresIn

/-- `get_token` gives the cached token when there is one that has more than the refresh window left. -/
theorem cached_iff {m : TokenManager} {now : Int} :
    m.cached now = true ↔ m.accessToken ≠ "" ∧ ∃ x, m.expiresAt = some x ∧ now + refreshWindow < x := by
  unfold BotTokenManager.cached refreshWindow
  cases m.expiresAt with
  | none => simp
  | some x =>
    have hwindow : 60000000 < x - now ↔ now + 60000000 < x := by omega
    simp [hwindow]

/-! ### What a step leaves as it is -/

/-- The settings of a manager that calls can know. -/
theorem settings_moves (h : Moves P service threads w a w') {m : ι} (hm : Begun w m) :
    (w'.shared.managers m).settings = (w.shared.managers m).settings := by
  cases h <;> grind [Begun]

/-- The clock does not go back. -/
theorem now_moves (h : Moves P service threads w a w') : w.shared.now ≤ w'.shared.now := by
  cases h <;> grind

/-- A call that has fetched a token has ended. -/
theorem renewed_moves (h : Moves P service threads w a w') {j m : ι} {token : String} {at_ expiresIn : Int}
    (hj : w.phase j = .renewed m token at_ expiresIn) : w'.phase j = .renewed m token at_ expiresIn := by
  cases h <;> grind [Function.update_apply]

/-! ### The managers and their locks -/

/-- A thread stays at the places of its kind. -/
theorem placed_moves (hI : ∀ i, (threads i).Takes (w.phase i)) (h : Moves P service threads w a w') (i : ι) :
    (threads i).Takes (w'.phase i) := by
  have hold := hI i
  cases h <;> grind [Function.update_apply, TokenThread.Takes]

/-- The manager of the process was made by a call that has got so far. -/
theorem current_moves (hI : Inv P service threads w) (h : Moves P service threads w a w') (m : ι)
    (hm : w'.shared.current = some m) : Begun w' m := by
  have hold := hI.current m
  cases h <;> grind [Function.update_apply, Begun]

/-- The manager of a call was made by a call that has got so far. -/
theorem begun_moves (hI : Inv P service threads w) (h : Moves P service threads w a w') (i m : ι)
    (hm : (w'.phase i).manager = some m) : Begun w' m := by
  have hold := hI.begun i m
  have hcurrent := hI.current m
  cases h <;> grind [Function.update_apply, Begun, TokenPhase.manager]

/-- A call that fetches holds the lock of its manager. -/
theorem locked_moves (hI : Inv P service threads w) (h : Moves P service threads w a w') (i m : ι)
    (hi : w'.phase i = .fetching m) : (w'.shared.managers m).locked = true := by
  have hold := hI.locked i m
  have hbegun := hI.begun i m
  have hexclusive := hI.exclusive
  cases h <;> grind [Function.update_apply, Begun, TokenPhase.manager]

/-- A lock that was held is held by the same call, unless this call releases it. -/
theorem held_moves (hI : Inv P service threads w) (h : Moves P service threads w a w') (m : ι)
    (hm : (w'.shared.managers m).locked = true) : ∃ i, w'.phase i = .fetching m := by
  by_cases hold : (w.shared.managers m).locked = true
  · obtain ⟨j, hj⟩ := hI.held m hold
    refine ⟨j, ?_⟩
    cases h <;> grind [Function.update_apply]
  · cases h with
    | locked =>
      rename_i i m' endpoint hthread hphase hunlocked hcached
      refine ⟨i, ?_⟩
      grind [Function.update_apply]
    | _ => grind [Function.update_apply]

/-- A call begins to fetch when no other one holds the lock. -/
theorem exclusive_moves (hI : Inv P service threads w) (h : Moves P service threads w a w') (i j m : ι)
    (hi : w'.phase i = .fetching m) (hj : w'.phase j = .fetching m) : i = j := by
  have hlocked := fun i => hI.locked i m
  have hold := hI.exclusive
  cases h <;> grind [Function.update_apply]

/-! ### The tokens of the managers -/

/-- A call begins to fetch when the token of the manager has at most the refresh window left. -/
theorem due_moves (hI : Inv P service threads w) (h : Moves P service threads w a w') (i m : ι) (x : Int)
    (hi : w'.phase i = .fetching m) (hx : (w'.shared.managers m).expiresAt = some x) :
    x ≤ w'.shared.now + refreshWindow := by
  have hold := hI.due i m x
  have hbegun := hI.begun i m
  have hexclusive := hI.exclusive
  have htoken := hI.hasToken m x
  cases h <;> grind [Function.update_apply, cached_iff, Begun, TokenPhase.manager]

/-- A manager with a time of expiry has a token. -/
theorem hasToken_moves (hI : Inv P service threads w) (h : Moves P service threads w a w') (m : ι) (x : Int)
    (hx : (w'.shared.managers m).expiresAt = some x) : (w'.shared.managers m).accessToken ≠ "" := by
  have hold := hI.hasToken m x
  cases h <;> grind

/-- A token that is not about to expire is the one a call has returned: a fetch that fails changes a token that is. -/
theorem stored_moves (hI : Inv P service threads w) (h : Moves P service threads w a w') (m : ι) (x : Int)
    (hx : (w'.shared.managers m).expiresAt = some x) (hnow : w'.shared.now + refreshWindow < x) :
    ∃ j at_ expiresIn, w'.phase j = .renewed m (w'.shared.managers m).accessToken at_ expiresIn ∧
    x = expiry at_ expiresIn := by
  have hold : (w.shared.managers m).expiresAt = some x → w.shared.now + refreshWindow < x →
      ∃ j at_ expiresIn, w'.phase j = .renewed m (w.shared.managers m).accessToken at_ expiresIn ∧
      x = expiry at_ expiresIn := by
    intro hx hnow
    obtain ⟨j, at_, expiresIn, hj, heq⟩ := hI.stored m x hx hnow
    exact ⟨j, at_, expiresIn, renewed_moves h hj, heq⟩
  have hdue := fun i hi hx => hI.due i m x hi hx
  cases h with
  | stored =>
    rename_i i m' endpoint token expiresIn hthread hphase hfetch htoken
    by_cases hm : m = m'
    · subst hm
      refine ⟨i, w.shared.now, expiresIn, ?_⟩
      grind [Function.update_apply]
    · grind [Function.update_apply]
  | time d =>
    refine hold hx (lt_of_le_of_lt ?_ hnow)
    grind
  | _ => grind [Function.update_apply]

/-! ### The calls that have returned -/

/-- A call that has fetched got its token from the token service, with the settings of its manager. -/
theorem givenRenewed_moves (hI : Inv P service threads w) (hG : Given P service threads w)
    (h : Moves P service threads w a w') (i m : ι) (token : String) (at_ expiresIn : Int)
    (hi : w'.phase i = .renewed m token at_ expiresIn) :
    at_ ≤ w'.shared.now ∧ token ≠ "" ∧ ∃ endpoint, threads i = .call endpoint ∧
      service.fetch P (w'.shared.managers m).settings (endpoint (w'.shared.managers m).settings) =
      .ok (token, expiresIn) := by
  by_cases hold : w.phase i = .renewed m token at_ expiresIn
  · obtain ⟨hat, htoken, endpoint, hthread, hfetch⟩ := hG.renewed i m token at_ expiresIn hold
    have hbegun := hI.begun i m (by rw [hold]; rfl)
    refine ⟨hat.trans (now_moves h), htoken, endpoint, hthread, ?_⟩
    rw [settings_moves h hbegun]
    exact hfetch
  · cases h <;> grind [Function.update_apply]

/-- The token of a call that has fetched is the one of the manager, or its lifetime is about to end. -/
theorem lifetimes_moves (hI : Inv P service threads w) (hG : Given P service threads w)
    (h : Moves P service threads w a w') (i m : ι) (token : String) (at_ expiresIn : Int)
    (hi : w'.phase i = .renewed m token at_ expiresIn) :
    (w'.shared.managers m).expiresAt = some (expiry at_ expiresIn) ∨
    expiry at_ expiresIn ≤ w'.shared.now + refreshWindow := by
  have hold := hG.lifetimes i m token at_ expiresIn
  have hdue := hI.due
  have hbegun := hI.begun i m
  cases h <;> grind [Function.update_apply, TokenPhase.manager, Begun]

/-- A call that is given the cached token is given that of a call which has returned. -/
theorem cached_moves (hI : Inv P service threads w) (hG : Given P service threads w) (h : Moves P service threads w a w')
    (i m : ι) (token : String) (at_ : Int) (hi : w'.phase i = .cached m token at_) :
    at_ ≤ w'.shared.now ∧ ∃ j at_' expiresIn, w'.phase j = .renewed m token at_' expiresIn ∧ at_' ≤ at_ ∧
      at_ + refreshWindow < expiry at_' expiresIn := by
  by_cases hold : w.phase i = .cached m token at_
  · obtain ⟨hat, j, at_', expiresIn, hj, hrest⟩ := hG.cached i m token at_ hold
    exact ⟨hat.trans (now_moves h), j, at_', expiresIn, renewed_moves h hj, hrest⟩
  · have hfetched : ∀ j at_' expiresIn, w.phase j = .renewed m token at_' expiresIn →
        w'.phase j = .renewed m token at_' expiresIn :=
      fun _ _ _ => renewed_moves h
    cases h with
    | gave hthread hphase hunlocked hcached =>
      simp only [Function.update_apply] at hi
      split at hi
      · cases hi
        obtain ⟨-, x, hx, hnow⟩ := cached_iff.1 hcached
        obtain ⟨j, at_', expiresIn, hj, rfl⟩ := hI.stored _ x hx hnow
        exact ⟨le_rfl, j, at_', expiresIn, hfetched j at_' expiresIn hj, (hG.renewed j _ _ _ _ hj).1, hnow⟩
      · exact absurd hi hold
    | _ => grind [Function.update_apply]

/-! ### Runs -/

omit [DecidableEq ι] in
/-- The invariants hold in a process that has just started. -/
theorem inv_initial {now : Int} {settings : Settings} :
    Inv P service threads (initialTokens now settings) ∧ Given P service threads (initialTokens now settings) := by
  refine ⟨⟨fun i => ?_, ?_, ?_, ?_, ?_, ?_, ?_, ?_, ?_⟩, ⟨?_, ?_, ?_⟩⟩
  · cases h : threads i <;> simp [initialTokens, TokenThread.Takes]
  all_goals simp [initialTokens, TokenPhase.manager]

/-- Every step keeps the invariants. -/
theorem inv_moves (hI : Inv P service threads w ∧ Given P service threads w) (h : Moves P service threads w a w') :
    Inv P service threads w' ∧ Given P service threads w' where
  left :=
    { placed := placed_moves hI.1.placed h
      current := current_moves hI.1 h
      begun := begun_moves hI.1 h
      locked := locked_moves hI.1 h
      held := held_moves hI.1 h
      exclusive := exclusive_moves hI.1 h
      due := due_moves hI.1 h
      stored := stored_moves hI.1 h
      hasToken := hasToken_moves hI.1 h }
  right :=
    { renewed := givenRenewed_moves hI.1 hI.2 h
      lifetimes := lifetimes_moves hI.1 hI.2 h
      cached := cached_moves hI.1 hI.2 h }

/-- The invariants hold in every state that can be reached. -/
theorem inv_of_run {now : Int} {settings : Settings}
    (hrun : exec (tokenStep P service threads) (initialTokens now settings) as = some w) :
    Inv P service threads w ∧ Given P service threads w :=
  exec_invariant (fun _ _ _ hI h => inv_moves hI (moves_of_step h)) inv_initial hrun

/-! ### Two calls that fetch with one manager -/

/-- The call fetches a token with the manager, or has fetched this one. -/
def Fetches (w : World (TokenProcess ι) ι (TokenPhase ι)) (m i : ι) (token : String) (fetchedAt expiresIn : Int) : Prop :=
  w.phase i = .fetching m ∨ w.phase i = .renewed m token fetchedAt expiresIn

/-- A call that fetches did so before the step, or takes the lock in it. -/
theorem fetches_moves {m i : ι} {token : String} {fetchedAt expiresIn : Int} (h : Moves P service threads w a w')
    (hi : Fetches w' m i token fetchedAt expiresIn) :
    Fetches w m i token fetchedAt expiresIn ∨ a = .next i ∧ w.phase i = .waiting m ∧ w'.phase i = .fetching m := by
  unfold Fetches at hi ⊢
  cases h <;> grind [Function.update_apply]

/-- A step of a call takes no time and leaves the other calls where they are. -/
theorem other_moves {i j : ι} (h : Moves P service threads w (.next i) w') (hij : i ≠ j) :
    w'.phase j = w.phase j ∧ w'.shared.now = w.shared.now := by
  cases h <;> simp [Function.update_of_ne hij.symm]

/-- A call that takes the lock finds the lifetime of a token that another one has fetched about to end. -/
theorem fetchedAfter_now {m i j : ι} {token : String} {fetchedAt expiresIn : Int}
    (hI : Inv P service threads w ∧ Given P service threads w)
    (hstep : tokenStep P service threads w (.next i) = some w') (hwaiting : w.phase i = .waiting m)
    (hfetching : w'.phase i = .fetching m) (hij : i ≠ j) (hj : Fetches w' m j token fetchedAt expiresIn) :
    FetchedAfter P service threads w (.next i :: as) m i j token fetchedAt expiresIn := by
  have hmoves := moves_of_step hstep
  obtain ⟨hI', hG'⟩ := inv_moves hI hmoves
  obtain ⟨hsame, hnow⟩ := other_moves hmoves hij
  have hrenewed : w'.phase j = .renewed m token fetchedAt expiresIn :=
    hj.resolve_left fun h => hij (hI'.exclusive i j m hfetching h)
  refine ⟨[], as, w, w', rfl, rfl, hwaiting, hstep, hfetching, hsame ▸ hrenewed, ?_⟩
  rw [← hnow]
  exact (hG'.lifetimes j m token fetchedAt expiresIn hrenewed).elim (hI'.due i m _ hfetching) id

/-- What happened in the rest of a run happened in the run. -/
theorem fetchedAfter_cons {m i j : ι} {token : String} {fetchedAt expiresIn : Int}
    (hstep : tokenStep P service threads w a = some w')
    (h : FetchedAfter P service threads w' as m i j token fetchedAt expiresIn) :
    FetchedAfter P service threads w (a :: as) m i j token fetchedAt expiresIn := by
  obtain ⟨earlier, later, v, v', rfl, hearlier, hrest⟩ := h
  exact ⟨a :: earlier, later, v, v', rfl, exec_cons_eq_some.2 ⟨w', hstep, hearlier⟩, hrest⟩

/-- Of two calls that fetch at the end of a run, both did so at its start, or one of them took the lock after the other
had fetched. -/
theorem fetchedAfter_of_run {m i j : ι} {token token' : String} {fetchedAt expiresIn fetchedAt' expiresIn' : Int}
    (hij : i ≠ j) (hI : Inv P service threads w ∧ Given P service threads w)
    (hrun : exec (tokenStep P service threads) w as = some w') (hi : Fetches w' m i token fetchedAt expiresIn)
    (hj : Fetches w' m j token' fetchedAt' expiresIn') :
    (Fetches w m i token fetchedAt expiresIn ∧ Fetches w m j token' fetchedAt' expiresIn') ∨
      FetchedAfter P service threads w as m i j token' fetchedAt' expiresIn' ∨
      FetchedAfter P service threads w as m j i token fetchedAt expiresIn := by
  induction as generalizing w with
  | nil =>
    cases hrun
    exact .inl ⟨hi, hj⟩
  | cons a as ih =>
    obtain ⟨v, hstep, hlater⟩ := exec_cons_eq_some.1 hrun
    have hmoves := moves_of_step hstep
    rcases ih (inv_moves hI hmoves) hlater with ⟨hi, hj⟩ | h | h
    · rcases fetches_moves hmoves hi with hi₀ | ⟨rfl, hwaiting, hfetching⟩
      · rcases fetches_moves hmoves hj with hj₀ | ⟨rfl, hwaiting, hfetching⟩
        · exact .inl ⟨hi₀, hj₀⟩
        · exact .inr (.inr (fetchedAfter_now hI hstep hwaiting hfetching hij.symm hi))
      · exact .inr (.inl (fetchedAfter_now hI hstep hwaiting hfetching hij hj))
    · exact .inr (.inl (fetchedAfter_cons hstep h))
    · exact .inr (.inr (fetchedAfter_cons hstep h))

omit [DecidableEq ι] in
/-- A token that a call was given was fetched for the settings of its manager. -/
theorem fetchedFor_of_given (hG : Given P service threads w) {i m : ι} {token : String} {at_ : Int}
    (hi : (w.phase i).result = some (m, token, at_)) :
    FetchedFor P service threads w (w.shared.managers m).settings i m token at_ := by
  cases hphase : w.phase i with
  | cached m' token' at_' =>
    rw [hphase] at hi
    cases hi
    obtain ⟨hnow, j, fetchedAt, expiresIn, hj, hat, hleft⟩ := hG.cached i m token at_ hphase
    obtain ⟨-, htoken, endpoint, hthread, hfetch⟩ := hG.renewed j m token fetchedAt expiresIn hj
    exact ⟨j, endpoint, fetchedAt, expiresIn, hthread, hj, hfetch, htoken, hat, hnow, .inr hleft⟩
  | renewed m' token' at_' expiresIn =>
    rw [hphase] at hi
    cases hi
    obtain ⟨hnow, htoken, endpoint, hthread, hfetch⟩ := hG.renewed i m token at_ expiresIn hphase
    exact ⟨i, endpoint, at_, expiresIn, hthread, hphase, hfetch, htoken, le_rfl, hnow, .inl rfl⟩
  | _ =>
    rw [hphase] at hi
    cases hi

omit [DecidableEq ι] in
/-- A call that has returned a token has a manager. -/
theorem manager_of_result {phase : TokenPhase ι} {m : ι} {token : String} {at_ : Int}
    (h : phase.result = some (m, token, at_)) : phase.manager = some m := by
  cases phase <;> simp_all [TokenPhase.result, TokenPhase.manager]

/-- Every manager that is in use, or comes into use, was made with the settings in force, for the call `i`. -/
structure InForce (settings : Settings) (i : ι) (w : World (TokenProcess ι) ι (TokenPhase ι)) : Prop where
  inForce : w.shared.settings = settings
  current : ∀ m, w.shared.current = some m → (w.shared.managers m).settings = settings
  made : ∀ c, w.phase c = .made → (w.shared.managers c).settings = settings
  used : ∀ m, (w.phase i).manager = some m → (w.shared.managers m).settings = settings

/-- Until the next change of a setting, only managers with the settings in force come into use. -/
theorem inForce_moves {settings : Settings} {i : ι} (hI : Inv P service threads w) (hF : InForce settings i w)
    (hno : NoChange threads w a) (h : Moves P service threads w a w') : InForce settings i w' := by
  obtain ⟨hinForce, hinUse, hmade, hused⟩ := hF
  have hcurrent := hI.current
  have hbegun := hI.begun
  constructor
  · cases h <;> grind [NoChange]
  · cases h <;> grind [NoChange, Begun]
  · cases h <;> grind [Function.update_apply]
  · cases h <;> grind [Function.update_apply, TokenPhase.manager, Begun]

/-- The manager stays the one of the process, and the call `i` has no other. -/
structure Kept (settings : Settings) (c i : ι) (w : World (TokenProcess ι) ι (TokenPhase ι)) : Prop where
  current : w.shared.current = some c
  madeWith : (w.shared.managers c).settings = settings
  making : ∀ k, w.phase k ≠ .absent ∧ w.phase k ≠ .made
  used : ∀ m, (w.phase i).manager = some m → m = c

/-- The call assigns its manager to the variable. -/
theorem kept_assigned {c i : ι} (hmade : w.phase c = .made) (hothers : ∀ k, k ≠ c → w.phase k ≠ .absent ∧
    w.phase k ≠ .made)
    (hready : w.phase i = .ready) (h : Moves P service threads w (.next c) w') :
    Kept (w.shared.managers c).settings c i w' := by
  cases h with
  | assigned =>
    refine ⟨rfl, rfl, fun k => ?_, fun m hm => ?_⟩
    · by_cases hk : k = c
      · subst hk
        simp
      · simp only [Function.update_of_ne hk]
        exact hothers k hk
    · have hi : i ≠ c := by
        rintro rfl
        rw [hmade] at hready
        cases hready
      simp [Function.update_of_ne hi, hready, TokenPhase.manager] at hm
  | dropped hthread =>
    rw [hmade] at hthread
    simp at hthread
  | foundNone _ hphase | found _ hphase | made _ hphase | missing _ hphase | took _ hphase | gave _ hphase
  | locked _ hphase | failed _ hphase | stored _ hphase | loaded _ hphase =>
    rw [hmade] at hphase
    cases hphase

/-- Until the next reset, the manager stays. -/
theorem kept_moves {settings : Settings} {c i : ι} (hI : Inv P service threads w) (hK : Kept settings c i w)
    (hno : NoReset threads w a) (h : Moves P service threads w a w') : Kept settings c i w' := by
  obtain ⟨hkept, hmadeWith, hmaking, hused⟩ := hK
  have hcurrent := hI.current
  constructor
  · cases h <;> grind [NoReset]
  · cases h <;> grind [Begun]
  · intro k
    have hold := hmaking k
    cases h <;> grind [Function.update_apply]
  · cases h <;> grind [Function.update_apply, TokenPhase.manager]

/-- A thread that cannot take its next step has ended, or waits for a manager with which another call fetches. -/
theorem next_eq_none_iff (hI : Inv P service threads w) (k : ι) :
    tokenStep P service threads w (.next k) = none ↔
      (w.phase k).Over ∨ ∃ m j, w.phase k = .waiting m ∧ w.phase j = .fetching m := by
  have hnext : tokenStep P service threads w (.next k) = none ↔
      tokenNext P service threads k w.shared (w.phase k) = none :=
    Option.map_eq_none_iff
  have hplaced := hI.placed k
  rw [hnext]
  unfold tokenNext
  cases hthread : threads k with
  | call endpoint =>
    rw [hthread] at hplaced
    cases hphase : w.phase k with
    | ready | absent | made | fetching => simp [tokenCallNext, TokenPhase.Over]
    | present => cases hcurrent : w.shared.current <;> simp [tokenCallNext, hcurrent, TokenPhase.Over]
    | waiting m =>
      have hheld : (w.shared.managers m).locked = true ↔ ∃ j, w.phase j = .fetching m :=
        ⟨hI.held m, fun ⟨j, hj⟩ => hI.locked j m hj⟩
      by_cases hlocked : (w.shared.managers m).locked = true
      · simp [tokenCallNext, hlocked, TokenPhase.Over, hheld.1 hlocked]
      · have hfree : ¬∃ j, w.phase j = .fetching m := fun h => hlocked (hheld.2 h)
        by_cases hcached : (w.shared.managers m).cached w.shared.now = true <;> simp_all [tokenCallNext, TokenPhase.Over]
    | cached | renewed | raised => simp [tokenCallNext, TokenPhase.Over]
    | loaded => exact absurd hphase hplaced.1
    | ended => exact absurd hphase hplaced.2
  | change settings =>
    rw [hthread] at hplaced
    rcases hplaced with hphase | hphase | hphase <;> simp [hphase, settingChangeNext, TokenPhase.Over]
  | refresh =>
    rw [hthread] at hplaced
    rcases hplaced with hphase | hphase <;> simp [hphase, managerResetNext, TokenPhase.Over]

end TokenManagersAux

open TokenManagersAux in
/-- A token that a call is given was fetched by a call of `get_token`, with the settings its manager was made with: by
this call itself, or by another one so recently that more than 60 seconds were left of the lifetime of the token. -/
theorem given_token_fetched {P : Platform} {service : TokenService} {threads : ι → TokenThread} {now : Int}
    {settings : Settings} {as : List (Act ι Nat)} {w : World (TokenProcess ι) ι (TokenPhase ι)}
    (hrun : exec (tokenStep P service threads) (initialTokens now settings) as = some w) {i m : ι}
    {token : String} {at_ : Int} (hi : (w.phase i).result = some (m, token, at_)) :
    FetchedFor P service threads w (w.shared.managers m).settings i m token at_ :=
  fetchedFor_of_given (inv_of_run hrun).2 hi

/-- A token endpoint that answers with the token `a` to the client secret of `registeredApp`, and with `b` to any other
one. -/
def secretEndpoint (s : Settings) : UrlOutcome :=
  .response 200 (.body (if s.msAppClientSecret = registeredApp.msAppClientSecret
    then [123, 34, 97, 99, 99, 101, 115, 115, 95, 116, 111, 107, 101, 110, 34, 58, 34, 97, 34, 125]
    else [123, 34, 97, 99, 99, 101, 115, 115, 95, 116, 111, 107, 101, 110, 34, 58, 34, 98, 34, 125]))

/-- A platform that reads these answers. -/
def secretPlatform : Platform :=
  { Platform.plain with
    jsonLoads := fun text =>
      if text = "\x7b\"access_token\":\"a\"\x7d" then .ok (.obj [("access_token", .str "a")])
      else if text = "\x7b\"access_token\":\"b\"\x7d" then .ok (.obj [("access_token", .str "b")])
      else .error .jsonDecodeError }

/-- Three threads: two calls, and a change of a setting between them. -/
inductive TokenUser where
  | first
  | changer
  | last
  deriving DecidableEq

/-- Two calls, and a change of the client secret between them. -/
def rotatedSecret : TokenUser → TokenThread
  | .changer => .change { registeredApp with msAppClientSecret := "rotated" }
  | _ => .call secretEndpoint

/-- The first call fetches a token, and a minute later the last one is given it. -/
def sharedToken : List (Act (TokenUser) Nat) := List.replicate 6 (.next .first) ++ .env 60000000 ::
    List.replicate 3 (.next .last)

/-- The last call is given the token that the first one has fetched a minute before. -/
theorem given_token_fetched_shared :
    ∃ w, exec (tokenStep secretPlatform botTokens rotatedSecret) (initialTokens 0 registeredApp) sharedToken = some w ∧
      FetchedFor secretPlatform botTokens rotatedSecret w (w.shared.managers .first).settings .last .first "a" 60000000 :=
  have hrun : exec (tokenStep secretPlatform botTokens rotatedSecret) (initialTokens 0 registeredApp) sharedToken =
    some _ := rfl
  ⟨_, hrun, given_token_fetched hrun rfl⟩

open TokenManagersAux in
/-- At most one call at a time fetches a token with a manager, and of two calls that have fetched one, one took the lock
of the manager when the token of the other had at most 60 seconds left. -/
theorem one_fetch_per_lifetime {P : Platform} {service : TokenService} {threads : ι → TokenThread} {now : Int}
    {settings : Settings} {as : List (Act ι Nat)} {w : World (TokenProcess ι) ι (TokenPhase ι)}
    (hrun : exec (tokenStep P service threads) (initialTokens now settings) as = some w) (m : ι) :
    (∀ i j, w.phase i = .fetching m → w.phase j = .fetching m → i = j) ∧
      ∀ i j token fetchedAt expiresIn token' fetchedAt' expiresIn', i ≠ j →
        w.phase i = .renewed m token fetchedAt expiresIn → w.phase j = .renewed m token' fetchedAt' expiresIn' →
        FetchedAfter P service threads (initialTokens now settings) as m i j token' fetchedAt' expiresIn' ∨
          FetchedAfter P service threads (initialTokens now settings) as m j i token fetchedAt expiresIn := by
  refine ⟨fun i j => (inv_of_run hrun).1.exclusive i j m,
    fun i j token fetchedAt expiresIn token' fetchedAt' expiresIn' hij hi hj => ?_⟩
  rcases fetchedAfter_of_run hij inv_initial hrun (.inr hi) (.inr hj) with ⟨h, -⟩ | h
  · exact absurd h (by simp [Fetches, initialTokens])
  · exact h

/-- Three calls: the second one fetches a token when the one of the first has expired, and the third one when that has
expired too. -/
def renewedTokens : List (Act Nat Nat) :=
  List.replicate 6 (.next 0) ++ .env 3600000000 :: List.replicate 4 (.next 1) ++
    .env 3600000000 :: List.replicate 3 (.next 2)

/-- Two calls have fetched, and the third one fetches. -/
theorem one_fetch_per_lifetime_renewed :
    ∃ w, exec (tokenStep secretPlatform botTokens fun _ => .call secretEndpoint) (initialTokens 0 registeredApp)
      renewedTokens = some w ∧ w.phase 2 = .fetching 0 ∧
      (∀ i j, w.phase i = .fetching 0 → w.phase j = .fetching 0 → i = j) ∧
      (FetchedAfter secretPlatform botTokens (fun _ => .call secretEndpoint) (initialTokens 0 registeredApp)
          renewedTokens 0 0 1 "a" 3600000000 3600 ∨
        FetchedAfter secretPlatform botTokens (fun _ => .call secretEndpoint) (initialTokens 0 registeredApp)
          renewedTokens 0 1 0 "a" 0 3600) :=
  have hrun : exec (tokenStep secretPlatform botTokens fun _ => .call secretEndpoint) (initialTokens 0 registeredApp)
    renewedTokens = some _ := rfl
  have hfetches := one_fetch_per_lifetime hrun 0
  ⟨_, hrun, rfl, hfetches.1, hfetches.2 0 1 "a" 0 3600 "a" 3600000000 3600 (by decide) rfl rfl⟩

open TokenManagersAux in
/-- After a reset, until the next change of a setting, every call that begins is given a token for the settings in
force, if no call had made a manager with other settings and not yet assigned it to the variable. -/
theorem settings_in_force_used {P : Platform} {service : TokenService} {threads : ι → TokenThread} {now : Int}
    {settings : Settings} {before after : List (Act ι Nat)} {w₁ w₂ : World (TokenProcess ι) ι (TokenPhase ι)}
    (hbefore : exec (tokenStep P service threads) (initialTokens now settings) before = some w₁)
    (hreset : w₁.shared.current = none)
    (hmade : ∀ c, w₁.phase c = .made → (w₁.shared.managers c).settings = w₁.shared.settings)
    (hafter : exec (tokenStep P service threads) w₁ after = some w₂)
    (hnochange : Meets (tokenStep P service threads) (NoChange threads) w₁ after) {i m : ι} (hready : w₁.phase i = .ready)
    {token : String} {at_ : Int} (hi : (w₂.phase i).result = some (m, token, at_)) :
    FetchedFor P service threads w₂ w₁.shared.settings i m token at_ := by
  have hstart : InForce w₁.shared.settings i w₁ :=
    ⟨rfl, fun m hm => absurd (hreset.symm.trans hm) (by simp), hmade, fun m hm =>
      by simp [hready, TokenPhase.manager] at hm⟩
  obtain ⟨⟨hI, hG⟩, hF⟩ := exec_invariant_of_meets
    (I := fun w => (Inv P service threads w ∧ Given P service threads w) ∧ InForce w₁.shared.settings i w)
    (fun w a w' hw hno hstep => ⟨inv_moves hw.1 (moves_of_step hstep),
      inForce_moves hw.1.1 hw.2 hno (moves_of_step hstep)⟩)
    ⟨inv_of_run hbefore, hstart⟩ hnochange hafter
  have hfetched := fetchedFor_of_given hG hi
  rwa [hF.used m (manager_of_result hi)] at hfetched

/-- The first call has its token, then the secret is changed. -/
def changedSecret : List (Act (TokenUser) Nat) := List.replicate 6 (.next .first) ++ List.replicate 2 (.next .changer)

/-- The last call fetches a token with the new secret. -/
theorem settings_in_force_used_changed :
    ∃ w₁ w₂, exec (tokenStep secretPlatform botTokens rotatedSecret) (initialTokens 0 registeredApp) changedSecret =
      some w₁ ∧ exec (tokenStep secretPlatform botTokens rotatedSecret) w₁ (List.replicate 6 (.next .last)) = some w₂ ∧
      FetchedFor secretPlatform botTokens rotatedSecret w₂ w₁.shared.settings .last .last "b" 0 :=
  have hbefore : exec (tokenStep secretPlatform botTokens rotatedSecret) (initialTokens 0 registeredApp) changedSecret =
    some _ := rfl
  have hafter : exec (tokenStep secretPlatform botTokens rotatedSecret) _ (List.replicate 6 (.next .last)) = some _ := rfl
  ⟨_, _, hbefore, hafter,
    settings_in_force_used hbefore rfl (fun c hc => by cases c <;> cases hc) hafter (by decide) rfl rfl⟩

open TokenManagersAux in
/-- A call that assigns its manager to the variable leaves it there until the next reset, when no other call has found
the variable empty and not yet assigned a manager: all calls that begin after that are given tokens for the settings
this manager was made with, whatever settings are in force. -/
theorem outdated_manager_kept {P : Platform} {service : TokenService} {threads : ι → TokenThread} {now : Int}
    {settings : Settings} {before after : List (Act ι Nat)} {w₁ w₂ : World (TokenProcess ι) ι (TokenPhase ι)}
    (hbefore : exec (tokenStep P service threads) (initialTokens now settings) before = some w₁) {c : ι}
    (hmade : w₁.phase c = .made) (hothers : ∀ k, k ≠ c → w₁.phase k ≠ .absent ∧ w₁.phase k ≠ .made)
    (hafter : exec (tokenStep P service threads) w₁ (.next c :: after) = some w₂)
    (hnoreset : Meets (tokenStep P service threads) (NoReset threads) w₁ (.next c :: after)) {i m : ι}
    (hready : w₁.phase i = .ready) {token : String} {at_ : Int} (hi : (w₂.phase i).result = some (m, token, at_)) :
    w₂.shared.current = some c ∧ m = c ∧ FetchedFor P service threads w₂ (w₁.shared.managers c).settings i m
      token at_ := by
  have hI₁ := inv_of_run hbefore
  obtain ⟨v, hstep, hlater⟩ := exec_cons_eq_some.1 hafter
  have hmoves := moves_of_step hstep
  have hkept := kept_assigned hmade hothers hready hmoves
  obtain ⟨⟨-, hG⟩, hK⟩ := exec_invariant_of_meets
    (I := fun w => (Inv P service threads w ∧ Given P service threads w) ∧ Kept (w₁.shared.managers c).settings c i w)
    (fun w a w' hw hno hstep => ⟨inv_moves hw.1 (moves_of_step hstep), kept_moves hw.1.1 hw.2 hno (moves_of_step hstep)⟩)
    ⟨inv_moves hI₁ hmoves, hkept⟩ (hnoreset.2 v hstep) hlater
  obtain rfl := hK.used m (manager_of_result hi)
  have hfetched := fetchedFor_of_given hG hi
  rw [hK.madeWith] at hfetched
  exact ⟨hK.current, rfl, hfetched⟩

/-- The first call has made its manager when the secret is changed. -/
def overtakenCall : List (Act (TokenUser) Nat) := List.replicate 2 (.next .first) ++ List.replicate 2 (.next .changer)

/-- The last call is given a token that is fetched with the old secret. -/
theorem outdated_manager_kept_overtaken :
    ∃ w₁ w₂, exec (tokenStep secretPlatform botTokens rotatedSecret) (initialTokens 0 registeredApp) overtakenCall =
      some w₁ ∧ exec (tokenStep secretPlatform botTokens rotatedSecret) w₁
      (.next .first :: List.replicate 4 (.next .last)) = some w₂ ∧ w₁.shared.settings.msAppClientSecret = "rotated" ∧
      (w₁.shared.managers .first).settings.msAppClientSecret = "secret" ∧ w₂.shared.current = some .first ∧
      TokenUser.first = .first ∧ FetchedFor secretPlatform botTokens rotatedSecret w₂
        (w₁.shared.managers .first).settings .last .first "a" 0 :=
  have hbefore : exec (tokenStep secretPlatform botTokens rotatedSecret) (initialTokens 0 registeredApp) overtakenCall =
    some _ := rfl
  have hafter : exec (tokenStep secretPlatform botTokens rotatedSecret) _
    (.next .first :: List.replicate 4 (.next .last)) = some _ := rfl
  ⟨_, _, hbefore, hafter, rfl, rfl, outdated_manager_kept hbefore rfl
    (fun k hk => by
      cases k
      · exact absurd rfl hk
      all_goals exact ⟨fun h => (by cases h), fun h => (by cases h)⟩)
    hafter (by decide) rfl rfl⟩

open TokenManagersAux in
/-- A thread waits only for the lock of a manager with which another call fetches a token, and that call can go on; so
when no thread can take a step, all have ended. -/
theorem token_calls_end {P : Platform} {service : TokenService} {threads : ι → TokenThread} {now : Int}
    {settings : Settings} {as : List (Act ι Nat)} {w : World (TokenProcess ι) ι (TokenPhase ι)}
    (hrun : exec (tokenStep P service threads) (initialTokens now settings) as = some w) :
    (∀ k, tokenStep P service threads w (.next k) = none ↔
        (w.phase k).Over ∨ ∃ m j, w.phase k = .waiting m ∧ w.phase j = .fetching m) ∧
      ((∀ k, tokenStep P service threads w (.next k) = none) ↔ ∀ k, (w.phase k).Over) := by
  have hI := (inv_of_run hrun).1
  refine ⟨next_eq_none_iff hI, fun hstuck k => ?_, fun hover k => (next_eq_none_iff hI k).2 (.inl (hover k))⟩
  rcases (next_eq_none_iff hI k).1 (hstuck k) with hover | ⟨m, j, -, hj⟩
  · exact hover
  · rcases (next_eq_none_iff hI j).1 (hstuck j) with hover | ⟨m', j', hwaiting, -⟩
    · rw [hj] at hover
      exact hover.elim
    · rw [hj] at hwaiting
      cases hwaiting

/-- The last call waits while the first one fetches. -/
theorem token_calls_end_waiting :
    ∃ w, exec (tokenStep secretPlatform botTokens rotatedSecret) (initialTokens 0 registeredApp)
        (List.replicate 5 (.next .first) ++ List.replicate 2 (.next .last)) = some w ∧
      w.phase .last = .waiting .first ∧
      (∀ k, tokenStep secretPlatform botTokens rotatedSecret w (.next k) = none ↔
        (w.phase k).Over ∨ ∃ m j, w.phase k = .waiting m ∧ w.phase j = .fetching m) ∧
      ((∀ k, tokenStep secretPlatform botTokens rotatedSecret w (.next k) = none) ↔ ∀ k, (w.phase k).Over) :=
  have hrun : exec (tokenStep secretPlatform botTokens rotatedSecret) (initialTokens 0 registeredApp)
      (List.replicate 5 (.next .first) ++ List.replicate 2 (.next .last)) = some _ := rfl
  ⟨_, hrun, rfl, token_calls_end hrun⟩

end TeamsRehook
