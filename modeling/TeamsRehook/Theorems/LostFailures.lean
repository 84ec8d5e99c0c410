import TeamsRehook.AbuseSessions
import TeamsRehook.Lemmas.Abuse

namespace TeamsRehook

/-! ## Failures counted by concurrent sessions -/

namespace LostFailuresAux

variable {ι : Type} [DecidableEq ι] {P : Platform} {s : Settings} {host : String} {reason : ι → String} {newId : ι → Nat}
  {x : AbuseSessions ι} {i : ι} {p : AbusePhase}

/-- The object has the count and the block it was loaded with. -/
def Keeps (o : SessionBucket) : Prop :=
  o.current.failureCount = o.loaded.failureCount ∧ o.current.blockedUntil = o.loaded.blockedUntil

/-- The bucket is blocked, having reached the limit, unless it was blocked from the start. -/
def Blocked (s : Settings) (blocked₀ : Prop) (row : Option WebhookAbuseBucket) : Prop :=
  ∃ b, row = some b ∧ b.blockedUntil.isSome = true ∧ (s.webhookAbuseFailureLimit ≤ b.failureCount ∨ blocked₀)

/-- What holds of a request in a phase, with the committed row. -/
def PhaseOk (s : Settings) (blocked₀ : Prop) (row : Option WebhookAbuseBucket) : AbusePhase → Prop
  | .passed o | .recording _ o => ∀ o', o = some o' → Keeps o'
  | .rejecting o => Keeps o ∧ Blocked s blocked₀ row
  | .rejected => Blocked s blocked₀ row
  | .inserted _ => row = none
  | .locked _ o => Keeps o ∧ ∃ b, row = some b ∧ o.loaded.failureCount = b.failureCount
  | .idle | .missing _ | .conflicted _ | .recorded => True

/-- The transaction of the request holds the row. -/
def Holds : AbusePhase → Prop
  | .inserted _ | .locked _ _ => True
  | _ => False

/-- What holds in every state of a run that stays in the window and locks only fresh objects: the bucket has counted every
recorded failure, and is blocked once a request was rejected. -/
structure Inv [Fintype ι] (s : Settings) (blocked₀ : Prop) (count₀ : Int) (x : AbuseSessions ι) : Prop where
  phases : ∀ i, PhaseOk s blocked₀ x.row (x.phase i)
  lock : ∀ i, Holds (x.phase i) → x.lock = some i
  count : storedFailures x.row = count₀ + x.recorded.card
  blocked : ∀ b, x.row = some b → b.blockedUntil.isSome = true → s.webhookAbuseFailureLimit ≤ b.failureCount ∨ blocked₀

/-! ### Moving one request -/

theorem to_phase_self (x : AbuseSessions ι) (i : ι) (p : AbusePhase) : (x.to i p).phase i = p := by
  simp [AbuseSessions.to]

theorem to_phase_of_ne (x : AbuseSessions ι) {i j : ι} (hj : j ≠ i) (p : AbusePhase) :
    (x.to i p).phase j = x.phase j := by
  simp [AbuseSessions.to, hj]

theorem recorded_to_of_ne [Fintype ι] (hi : x.phase i ≠ .recorded) (hp : p ≠ .recorded) :
    (x.to i p).recorded = x.recorded := by
  apply Finset.filter_congr
  intro j _
  by_cases hj : j = i
  · subst hj
    rw [to_phase_self]
    exact iff_of_false hp hi
  · rw [to_phase_of_ne x hj]

/-- A request that has recorded its failure is one more. -/
theorem card_recorded_to [Fintype ι] (hi : x.phase i ≠ .recorded) :
    (x.to i .recorded).recorded.card = x.recorded.card + 1 := by
  have hins : (x.to i .recorded).recorded = insert i x.recorded := by
    ext j
    by_cases hj : j = i
    · subst hj
      simp [AbuseSessions.recorded, to_phase_self]
    · simp [AbuseSessions.recorded, to_phase_of_ne x hj, hj]
  rw [hins, Finset.card_insert_of_notMem]
  simpa [AbuseSessions.recorded] using hi

/-- A request moves, to a phase that is right for it; the row stays. -/
theorem Inv.to [Fintype ι] {blocked₀ : Prop} {count₀ : Int} (hI : Inv s blocked₀ count₀ x) (i : ι) (p : AbusePhase)
    (hi : x.phase i ≠ .recorded) (hp : p ≠ .recorded) (hok : PhaseOk s blocked₀ x.row p) (l : Option ι)
    (hl : (Holds p ∧ x.lock = none ∧ l = some i) ∨ (¬Holds p ∧ l = x.lock)) :
    Inv s blocked₀ count₀ { x.to i p with lock := l } where
  phases j := by
    show PhaseOk s blocked₀ x.row ((x.to i p).phase j)
    by_cases hj : j = i
    · subst hj
      rwa [to_phase_self]
    · rw [to_phase_of_ne x hj]
      exact hI.phases j
  lock j hh := by
    by_cases hj : j = i
    · subst hj
      rcases hl with ⟨-, -, rfl⟩ | ⟨hn, -⟩
      · rfl
      · exact absurd (by simpa only [to_phase_self] using hh) hn
    · have hlock := hI.lock j (by simpa only [to_phase_of_ne x hj] using hh)
      rcases hl with ⟨-, hnone, -⟩ | ⟨-, rfl⟩
      · rw [hnone] at hlock
        cases hlock
      · exact hlock
  count := by
    have := recorded_to_of_ne hi hp
    exact hI.count.trans (by rw [← this]; rfl)
  blocked := hI.blocked

/-- What holds of a request that does not hold the row still holds when the row counts more and keeps its block. -/
theorem phaseOk_of_not_holds {blocked₀ : Prop} {row : Option WebhookAbuseBucket} {b' : WebhookAbuseBucket}
    (hrow : ∀ b, row = some b →
      b.failureCount ≤ b'.failureCount ∧ (b.blockedUntil.isSome = true → b'.blockedUntil.isSome = true))
    (hp : ¬Holds p) (hok : PhaseOk s blocked₀ row p) : PhaseOk s blocked₀ (some b') p := by
  have hblocked : Blocked s blocked₀ row → Blocked s blocked₀ (some b') := by
    rintro ⟨b, rfl, h1, h2⟩
    exact ⟨b', rfl, (hrow b rfl).2 h1, h2.imp_left fun h2 => le_trans h2 (hrow b rfl).1⟩
  cases p with
  | inserted | locked => exact absurd trivial hp
  | rejecting => exact ⟨hok.1, hblocked hok.2⟩
  | rejected => exact hblocked hok
  | idle | passed | recording | missing | conflicted | recorded => exact hok

/-- A request commits a row, when no other request holds it. -/
theorem Inv.write [Fintype ι] {blocked₀ : Prop} {count₀ : Int} {b' : WebhookAbuseBucket} (hI : Inv s blocked₀ count₀ x)
    (i : ι) (p : AbusePhase) (hothers : ∀ j, j ≠ i → ¬Holds (x.phase j)) (hrow : ∀ b, x.row = some b →
      b.failureCount ≤ b'.failureCount ∧ (b.blockedUntil.isSome = true → b'.blockedUntil.isSome = true))
    (hok : PhaseOk s blocked₀ (some b') p) (hp : ¬Holds p) (hcount : b'.failureCount = count₀ + (x.to i p).recorded.card)
    (hblocked : b'.blockedUntil.isSome = true → s.webhookAbuseFailureLimit ≤ b'.failureCount ∨ blocked₀) (l : Option ι) :
    Inv s blocked₀ count₀ { x.to i p with row := some b', lock := l } where
  phases j := by
    show PhaseOk s blocked₀ (some b') ((x.to i p).phase j)
    by_cases hj : j = i
    · subst hj
      rwa [to_phase_self]
    · rw [to_phase_of_ne x hj]
      exact phaseOk_of_not_holds hrow (hothers j hj) (hI.phases j)
  lock j hh := by
    by_cases hj : j = i
    · subst hj
      exact absurd (by simpa only [to_phase_self] using hh) hp
    · exact absurd (by simpa only [to_phase_of_ne x hj] using hh) (hothers j hj)
  count := hcount
  blocked := by
    rintro _ ⟨⟩ hb
    exact hblocked hb

omit [DecidableEq ι] in
/-- When the row is free, no request is in a phase that holds it. -/
theorem Inv.not_holds_of_none [Fintype ι] {blocked₀ : Prop} {count₀ : Int} (hI : Inv s blocked₀ count₀ x)
    (hl : x.lock = none) (j : ι) : ¬Holds (x.phase j) := by
  intro hh
  have := hI.lock j hh
  rw [hl] at this
  cases this

omit [DecidableEq ι] in
/-- While one request holds the row, no other does. -/
theorem Inv.not_holds_of_holds [Fintype ι] {blocked₀ : Prop} {count₀ : Int} (hI : Inv s blocked₀ count₀ x)
    (hi : Holds (x.phase i)) (j : ι) (hj : j ≠ i) : ¬Holds (x.phase j) := by
  intro hh
  have h1 := hI.lock j hh
  rw [hI.lock i hi] at h1
  exact hj (Option.some.inj h1).symm

/-! ### The flush -/

theorem flushBucket_failureCount (o : SessionBucket) (b : WebhookAbuseBucket) :
    (flushBucket o b).failureCount = Table.ormWrite o.loaded.failureCount o.current.failureCount b.failureCount := rfl

theorem flushBucket_blockedUntil (o : SessionBucket) (b : WebhookAbuseBucket) :
    (flushBucket o b).blockedUntil = Table.ormWrite o.loaded.blockedUntil o.current.blockedUntil b.blockedUntil := rfl

/-- The flush of a counted failure adds one to the stored count, when the object was fresh and the window has not
passed; it keeps a block, and sets one only at the limit. -/
theorem flush_counted {o : SessionBucket} {b : WebhookAbuseBucket} {now : Int} {r : String} (hk : Keeps o)
    (hf : o.loaded.failureCount = b.failureCount)
    (hw : now - o.current.windowStartedAt ≤ minutes s.webhookAbuseWindowMinutes) :
    (flushBucket { o with current := countFailure s now host r o.current } b).failureCount = b.failureCount + 1 ∧
      (b.blockedUntil.isSome = true →
        (flushBucket { o with current := countFailure s now host r o.current } b).blockedUntil.isSome = true) ∧
      ((flushBucket { o with current := countFailure s now host r o.current } b).blockedUntil.isSome = true →
        b.blockedUntil.isSome = true ∨ s.webhookAbuseFailureLimit ≤ b.failureCount + 1) := by
  have hroll : rollWindow s now o.current = o.current := by
    unfold rollWindow
    rw [if_neg (by omega)]
  have hc : (countFailure s now host r o.current).failureCount = b.failureCount + 1 := by
    rw [countFailure_failureCount, hroll, hk.1, hf]
  have hcases := countFailure_cases s now host r o.current
  rw [hroll, hk.1, hf, hk.2] at hcases
  rw [flushBucket_failureCount, flushBucket_blockedUntil, hc, hf]
  refine ⟨Table.ormWrite_of_ne (by omega) _, ?_⟩
  obtain ⟨hl, -, hu⟩ | ⟨-, -, hu⟩ := hcases
  · simp only [hu]
    unfold Table.ormWrite
    split
    · exact ⟨fun h => h, fun h => .inl h⟩
    · exact ⟨fun _ => rfl, fun _ => .inr hl⟩
  · simp only [hu, Table.ormWrite_unchanged]
    exact ⟨fun h => h, fun h => .inl h⟩

/-- The flush of an object that keeps its count and block keeps those of the row. -/
theorem flush_keeps {o : SessionBucket} (hk : Keeps o) (b : WebhookAbuseBucket) :
    (flushBucket o b).failureCount = b.failureCount ∧ (flushBucket o b).blockedUntil = b.blockedUntil := by
  rw [flushBucket_failureCount, flushBucket_blockedUntil, hk.1, hk.2]
  simp

/-! ### Each step -/

/-- An object `check_block` leaves, when the block of its bucket has not expired, keeps the count and the block. -/
theorem keeps_observe (host : String) {b : WebhookAbuseBucket} {now : Int}
    (hw : b.blockedUntil = none ∨ b.blockedAt now = true) : Keeps ⟨b, observe now host b⟩ := by
  have hob : observe now host b = touch now host b := by
    refine observe_of_blocked fun u hu => ?_
    rcases hw with hn | hbl
    · rw [hu] at hn
      cases hn
    · simpa [WebhookAbuseBucket.blockedAt, hu] using hbl
  rw [hob]
  exact ⟨touch_failureCount now host b, touch_blockedUntil now host b⟩

omit [DecidableEq ι] in
/-- `check_block` of one request, when no expired block is found. -/
theorem phaseOk_checkSession {blocked₀ : Prop}
    (hblocked : ∀ b, x.row = some b → b.blockedUntil.isSome = true → s.webhookAbuseFailureLimit ≤ b.failureCount ∨
      blocked₀)
    (hw : ∀ b, x.row = some b → b.blockedUntil = none ∨ b.blockedAt x.now = true) :
    PhaseOk s blocked₀ x.row (checkSession host x) ∧ ¬Holds (checkSession host x) ∧ checkSession host x ≠ .recorded := by
  unfold checkSession
  cases hrow : x.row with
  | none =>
    refine ⟨?_, id, by simp⟩
    intro o' ho
    cases ho
  | some b =>
    have hkeep := keeps_observe host (hw b hrow)
    by_cases hb : b.blockedAt x.now = true
    · have hsome : b.blockedUntil.isSome = true := by
        cases hu : b.blockedUntil with
        | none => simp [WebhookAbuseBucket.blockedAt, hu] at hb
        | some u => rfl
      simp only [hb, if_true]
      exact ⟨⟨hkeep, b, rfl, hsome, hblocked b hrow hsome⟩, id, by simp⟩
    · simp only [hb, Bool.false_eq_true, if_false]
      refine ⟨?_, id, by simp⟩
      intro o' ho
      cases ho
      exact hkeep

/-- The commit of a rejection writes what `check_block` changed in the bucket, which keeps its count and its block. -/
theorem inv_commit_rejecting [Fintype ι] {blocked₀ : Prop} {count₀ : Int} {o : SessionBucket} {b : WebhookAbuseBucket}
    (hI : Inv s blocked₀ count₀ x) (hp : x.phase i = .rejecting o) (hrow : x.row = some b) (hl : x.lock = none) :
    Inv s blocked₀ count₀ { x.to i .rejected with row := some (flushBucket o b) } := by
  have hok := hI.phases i
  rw [hp] at hok
  obtain ⟨hkeeps, _, hb, hsome, hlimit⟩ := hok
  rw [hrow] at hb
  cases hb
  obtain ⟨hc, hu⟩ := flush_keeps hkeeps b
  have hphase : PhaseOk s blocked₀ (some (flushBucket o b)) .rejected := ⟨_, rfl, by rw [hu]; exact hsome, by rwa [hc]⟩
  refine hI.write i .rejected (fun j _ => hI.not_holds_of_none hl j) ?_ hphase id ?_ (fun _ => by rwa [hc]) x.lock
  · intro b' hb'
    rw [hrow] at hb'
    cases hb'
    exact ⟨le_of_eq hc.symm, fun h => by rwa [hu]⟩
  · rw [hc, recorded_to_of_ne (by simp [hp]) (by simp), ← hI.count]
    simp [storedFailures, hrow]

/-- The commit of a new bucket counts the failure of its request as the first one. -/
theorem inv_commit_inserted [Fintype ι] {blocked₀ : Prop} {count₀ now : Int} (P : Platform) (host r : String) (id : Nat)
    (hI : Inv s blocked₀ count₀ x) (hp : x.phase i = .inserted now) (hrow : x.row = none) :
    Inv s blocked₀ count₀ { x.to i .recorded with
      row := some (countFailure s now host r (newBucket P s now host (.ip, none) id))
      lock := none } := by
  have hcount := hI.count
  have h0 := (rollWindow_newBucket s now host P (.ip, none) id).2
  have hcard : (x.to i .recorded).recorded.card = x.recorded.card + 1 := card_recorded_to (by simp [hp])
  refine hI.write i .recorded (hI.not_holds_of_holds (by rw [hp]; trivial)) ?_ trivial (fun h => h) ?_ ?_ none
  · intro b hb
    rw [hrow] at hb
    cases hb
  · rw [countFailure_failureCount, h0, hcard]
    simp only [storedFailures, hrow, Option.map_none, Option.getD_none] at hcount
    push_cast
    omega
  · intro hsome
    obtain ⟨hl, -⟩ | ⟨-, -, hu⟩ := countFailure_cases s now host r (newBucket P s now host (.ip, none) id)
    · exact .inl (by rwa [countFailure_failureCount])
    · rw [hu] at hsome
      cases hsome

/-- The commit of a locked bucket counts the failure of its request, when the object was fresh and its window has not
passed. -/
theorem inv_commit_locked [Fintype ι] {blocked₀ : Prop} {count₀ now : Int} {o : SessionBucket} {b : WebhookAbuseBucket}
    (host r : String) (hI : Inv s blocked₀ count₀ x) (hp : x.phase i = .locked now o) (hrow : x.row = some b)
    (hwin : now - o.current.windowStartedAt ≤ minutes s.webhookAbuseWindowMinutes) :
    Inv s blocked₀ count₀ { x.to i .recorded with
      row := some (flushBucket { o with current := countFailure s now host r o.current } b)
      lock := none } := by
  have hok := hI.phases i
  have hcount := hI.count
  rw [hp] at hok
  obtain ⟨hkeeps, _, hb, hfresh⟩ := hok
  rw [hrow] at hb
  cases hb
  obtain ⟨hc, hkeepb, hset⟩ := flush_counted hkeeps hfresh hwin
  have hcard : (x.to i .recorded).recorded.card = x.recorded.card + 1 := card_recorded_to (by simp [hp])
  refine hI.write i .recorded (hI.not_holds_of_holds (by rw [hp]; trivial)) ?_ trivial (fun h => h) ?_ ?_ none
  · intro b' hb'
    rw [hrow] at hb'
    cases hb'
    exact ⟨by omega, hkeepb⟩
  · rw [hc, hcard]
    simp only [storedFailures, hrow, Option.map_some, Option.getD_some] at hcount
    push_cast
    omega
  · intro hsome
    rw [hc]
    rcases hset hsome with hb | hl
    · exact (hI.blocked b hrow hb).imp_left fun h => by omega
    · exact .inl hl

/-- Each step that stays in the window and locks only fresh objects. -/
theorem inv_step [Fintype ι] {blocked₀ : Prop} {count₀ : Int} (x : AbuseSessions ι) (a : AbuseAct ι)
    (x' : AbuseSessions ι) (hI : Inv s blocked₀ count₀ x) (hg : InWindow s x a ∧ FreshAtLock x a)
    (h : abuseSessionStep P s host reason newId x a = some x') : Inv s blocked₀ count₀ x' := by
  obtain ⟨hwin, hfresh⟩ := hg
  cases a with
  | tick now =>
    simp only [abuseSessionStep, Option.ite_none_right_eq_some, Option.some.injEq] at h
    obtain ⟨-, rfl⟩ := h
    exact ⟨hI.phases, hI.lock, hI.count, hI.blocked⟩
  | check i =>
    cases hp : x.phase i with
    | idle =>
      simp only [abuseSessionStep, hp, Option.some.injEq] at h
      subst h
      obtain ⟨hok, hh, hr⟩ := phaseOk_checkSession hI.blocked hwin
      exact hI.to i _ (by simp [hp]) hr hok x.lock (.inr ⟨hh, rfl⟩)
    | _ => simp [abuseSessionStep, hp] at h
  | read i =>
    cases hp : x.phase i with
    | passed o =>
      simp only [abuseSessionStep, hp, Option.some.injEq] at h
      subst h
      have hok := hI.phases i
      rw [hp] at hok
      exact hI.to i (.recording x.now o) (by simp [hp]) (by simp) hok x.lock (.inr ⟨id, rfl⟩)
    | _ => simp [abuseSessionStep, hp] at h
  | select i =>
    have hok := hI.phases i
    cases hp : x.phase i with
    | recording now o =>
      rw [hp] at hok
      cases hrow : x.row with
      | none =>
        simp only [abuseSessionStep, hp, hrow, Option.some.injEq] at h
        subst h
        exact hI.to i (.missing now) (by simp [hp]) (by simp) trivial x.lock (.inr ⟨id, rfl⟩)
      | some b =>
        simp only [abuseSessionStep, hp, hrow, Option.ite_none_right_eq_some, Option.some.injEq] at h
        obtain ⟨hl, rfl⟩ := h
        refine hI.to i (.locked now _) (by simp [hp]) (by simp) ?_ _ (.inl ⟨trivial, hl, rfl⟩)
        cases o with
        | none => exact ⟨⟨rfl, rfl⟩, b, hrow, rfl⟩
        | some o =>
          simp only [FreshAtLock, hp] at hfresh
          exact ⟨hok o rfl, b, hrow, hfresh b hrow⟩
    | conflicted now =>
      cases hrow : x.row with
      | none => simp [abuseSessionStep, hp, hrow] at h
      | some b =>
        simp only [abuseSessionStep, hp, hrow, Option.ite_none_right_eq_some, Option.some.injEq] at h
        obtain ⟨hl, rfl⟩ := h
        exact hI.to i (.locked now _) (by simp [hp]) (by simp) ⟨⟨rfl, rfl⟩, b, hrow, rfl⟩ _ (.inl ⟨trivial, hl, rfl⟩)
    | _ => cases hrow : x.row <;> simp [abuseSessionStep, hp, hrow] at h
  | insert i =>
    cases hp : x.phase i with
    | missing now =>
      cases hrow : x.row with
      | none =>
        simp only [abuseSessionStep, hp, hrow, Option.ite_none_right_eq_some, Option.some.injEq] at h
        obtain ⟨hl, rfl⟩ := h
        exact hI.to i (.inserted now) (by simp [hp]) (by simp) hrow _ (.inl ⟨trivial, hl, rfl⟩)
      | some b =>
        simp only [abuseSessionStep, hp, hrow, Option.some.injEq] at h
        subst h
        exact hI.to i (.conflicted now) (by simp [hp]) (by simp) trivial x.lock (.inr ⟨id, rfl⟩)
    | _ => cases hrow : x.row <;> simp [abuseSessionStep, hp, hrow] at h
  | commit i =>
    cases hp : x.phase i with
    | rejecting o =>
      cases hrow : x.row with
      | none => simp [abuseSessionStep, hp, hrow] at h
      | some b =>
        simp only [abuseSessionStep, hp, hrow, Option.ite_none_right_eq_some, Option.some.injEq] at h
        obtain ⟨hl, rfl⟩ := h
        exact inv_commit_rejecting hI hp hrow hl
    | inserted now =>
      cases hrow : x.row with
      | some b => simp [abuseSessionStep, hp, hrow] at h
      | none =>
        simp only [abuseSessionStep, hp, hrow, Option.some.injEq] at h
        subst h
        exact inv_commit_inserted P host (reason i) (newId i) hI hp hrow
    | locked now o =>
      have hok := hI.phases i
      rw [hp] at hok
      obtain ⟨-, b, hrow, -⟩ := hok
      simp only [abuseSessionStep, hp, hrow, Option.some.injEq] at h
      subst h
      simp only [InWindow, hp] at hwin
      exact inv_commit_locked host (reason i) hI hp hrow hwin
    | _ => cases hrow : x.row <;> simp [abuseSessionStep, hp, hrow] at h

omit [DecidableEq ι] in
theorem inv_initial [Fintype ι] (s : Settings) (row : Option WebhookAbuseBucket) (now : Int) :
    Inv s (∃ b, row = some b ∧ b.blockedUntil.isSome = true) (storedFailures row)
      (AbuseSessions.initial row now : AbuseSessions ι) where
  phases _ := trivial
  lock _ hh := absurd hh id
  count := by simp [AbuseSessions.recorded, AbuseSessions.initial]
  blocked b hb hsome := .inr ⟨b, hb, hsome⟩

end LostFailuresAux

open LostFailuresAux Transition in
/-- However the sessions of the failing requests of a client interleave within one window, starting from any bucket or
none: when every session that loaded the bucket in `check_block` locks its row in `record_failure` before another
failure is committed to it, then, once all have committed, the bucket has counted every one of them, or it is blocked,
its count having reached the limit unless it was blocked from the start. -/
theorem no_failure_lost {ι : Type} [DecidableEq ι] [Fintype ι] (P : Platform) (s : Settings) (clientHost : String)
    (reason : ι → String) (newId : ι → Nat) (row : Option WebhookAbuseBucket) (now : Int) (acts : List (AbuseAct ι))
    (x : AbuseSessions ι) (hrun : exec (abuseSessionStep P s clientHost reason newId) (.initial row now) acts = some x)
    (hwin : Meets (abuseSessionStep P s clientHost reason newId) (InWindow s) (.initial row now) acts)
    (hfresh : Meets (abuseSessionStep P s clientHost reason newId) FreshAtLock (.initial row now) acts)
    (hfin : x.Finished) :
    storedFailures x.row = storedFailures row + Fintype.card ι ∨
      ∃ b, x.row = some b ∧ b.blockedUntil.isSome = true ∧
        (s.webhookAbuseFailureLimit ≤ b.failureCount ∨ ∃ b₀, row = some b₀ ∧ b₀.blockedUntil.isSome = true) := by
  have hI := exec_invariant_of_meets (fun x a x' hI hg h => inv_step x a x' hI hg h) (inv_initial s row now)
    (hwin.and hfresh) hrun
  by_cases hall : ∀ i, x.phase i = .recorded
  · left
    have huniv : x.recorded = Finset.univ := by
      ext i
      simp [AbuseSessions.recorded, hall i]
    rw [hI.count, huniv, Finset.card_univ]
  · right
    obtain ⟨i, hi⟩ := not_forall.1 hall
    have hok := hI.phases i
    rw [(hfin i).resolve_left hi] at hok
    exact hok

local instance neZero_two : NeZero 2 := ⟨by decide⟩

/-- The first two failures of a client, both of which find no bucket; the second insert is refused and counts in the
bucket of the first one. -/
def firstFailures : List (AbuseAct (Fin 2)) :=
  [.check 0, .check 1, .read 0, .read 1, .select 0, .select 1, .insert 0, .commit 0, .insert 1, .select 1, .commit 1]

/-- Both are counted. -/
theorem no_failure_lost_firstFailures :
    ∃ x, Transition.exec (abuseSessionStep .plain {} "192.0.2.7" (fun _ => "invalid_payload") (fun _ => 0))
        (.initial none 0) firstFailures = some x ∧
      (storedFailures x.row = storedFailures none + Fintype.card (Fin 2) ∨
        ∃ b, x.row = some b ∧ b.blockedUntil.isSome = true ∧
          (({} : Settings).webhookAbuseFailureLimit ≤ b.failureCount ∨
            ∃ b₀, (none : Option WebhookAbuseBucket) = some b₀ ∧ b₀.blockedUntil.isSome = true)) :=
  ⟨_, rfl, no_failure_lost .plain {} "192.0.2.7" (fun _ => "invalid_payload") (fun _ => 0) none 0 firstFailures _ rfl
    (by decide) (by decide) (by unfold AbuseSessions.Finished; decide)⟩

/-- A bucket with one failure. -/
def oneFailure : WebhookAbuseBucket := { newBucket .plain {} 0 "192.0.2.7" (.ip, none) 0 with failureCount := 1 }

/-- Two requests that both load the bucket in `check_block` before the failure of either is counted. -/
def crossingFailures : List (AbuseAct (Fin 2)) :=
  [.check 0, .check 1, .read 0, .read 1, .select 0, .commit 0, .select 1, .commit 1]

/-- One of their two failures is lost: the second session counts from the value it loaded before the first one
committed. -/
theorem failure_lost_crossingFailures :
    ∃ x, Transition.exec (abuseSessionStep .plain {} "192.0.2.7" (fun _ => "invalid_payload") (fun _ => 1))
        (.initial (some oneFailure) 0) crossingFailures = some x ∧
      Transition.Meets (abuseSessionStep .plain {} "192.0.2.7" (fun _ => "invalid_payload") (fun _ => 1)) (InWindow {})
        (.initial (some oneFailure) 0) crossingFailures ∧
      x.Finished ∧ storedFailures (some oneFailure) = 1 ∧ storedFailures x.row = 2 ∧
      ∀ b ∈ x.row, b.blockedUntil = none :=
  ⟨_, rfl, by decide, by unfold AbuseSessions.Finished; decide, by decide, by decide, by decide⟩

end TeamsRehook
