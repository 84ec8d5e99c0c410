import TeamsRehook.Lemmas.Abuse
import TeamsRehook.LogRetention
import TeamsRehook.Lib.Except
import TeamsRehook.Lib.Window

namespace TeamsRehook

/-! ## The failure window -/

/-- A call of `record_failure` for a client. -/
structure FailureCall where
  now : Int
  routeTokenHash : Option String
  reason : String
  deriving DecidableEq, Repr

/-- The store that a call leaves, unless it raises. -/
def FailureCall.record (P : Platform) (s : Settings) (clientHost : String) (st : AbuseStore) (c : FailureCall) :
    Except Exn AbuseStore :=
  (recordFailureInRange P s c.now clientHost c.routeTokenHash c.reason st).map (·.1)

/-- The store after the calls, one after the other, unless one of them raises. -/
def recordFailures (P : Platform) (s : Settings) (clientHost : String) (st : AbuseStore) (calls : List FailureCall) :
    Except Exn AbuseStore :=
  calls.foldlM (FailureCall.record P s clientHost) st

/-- The times of the calls, the newest first. -/
def failureTimes (calls : List FailureCall) : List Int := (calls.map (·.now)).reverse

/-- No failure is counted for the key: it has no bucket, or one with a count of zero. -/
def NoFailures (st : AbuseStore) (key : String) : Prop := ∀ b, findBucket st key = some b → b.failureCount = 0

/-- The start of the window the key's bucket is in, if it has a bucket. -/
def windowStart (st : AbuseStore) (key : String) : Option Int := (findBucket st key).map (·.windowStartedAt)

/-- The key has no block. -/
def NotBlocked (st : AbuseStore) (key : String) : Prop := ∀ b, findBucket st key = some b → b.blockedUntil = none

/-- The call returns, and the store it leaves has a block of the key that starts at its time, and counts it. -/
def FailureCall.SetsBlock (P : Platform) (s : Settings) (clientHost key : String) (st : AbuseStore) (c : FailureCall) :
    Prop :=
  ∃ st', c.record P s clientHost st = .ok st' ∧
    ∃ b', findBucket st' key = some b' ∧ blocksOf st key < b'.blockCount ∧
      b'.blockedUntil = some (c.now + blockDuration s b'.blockCount)

/-- Every date that the call computes is in Python's ranges: the length of the window, and the end of the block of each
bucket of the client that reaches the limit with it. -/
def FailureCall.DatesInRange (P : Platform) (s : Settings) (clientHost : String) (st : AbuseStore) (c : FailureCall) :
    Prop :=
  (Datetime.timedelta (minutes s.webhookAbuseWindowMinutes)).isSome = true ∧
    ∀ key ∈ bucketKeys P s clientHost c.routeTokenHash, s.webhookAbuseFailureLimit ≤ windowCount s c.now st key + 1 →
      ((Datetime.timedelta (blockDuration s (blocksOf st key + 1))).bind (Datetime.add c.now)).isSome = true

instance (P : Platform) (s : Settings) (clientHost : String) (st : AbuseStore) (c : FailureCall) :
    Decidable (c.DatesInRange P s clientHost st) :=
  inferInstanceAs (Decidable (_ ∧ _))

namespace RollingWindowAux

variable {P : Platform} {s : Settings}

/-- A call counts the failure once in each key that is one of its keys once. -/
theorem findBucket_recordFailure {t : Int} {h r : String} {route : Option String} {st : AbuseStore} (hw : st.Wf)
    (he : s.webhookAbuseBlockingEnabled = true) {key : String} (hk : (bucketKeys P s h route).count key = 1) :
    ∃ b, findBucket (recordFailure P s t h route r st).1 key = some (countFailure s t h r b) ∧
      (findBucket st key = some b ∨ findBucket st key = none ∧ ∃ scope id, b = newBucket P s t h scope id) := by
  rw [recordFailure_fst P t h r route st he]
  unfold bucketKeys at hk
  generalize bucketScopes route = scopes at hk
  have hother : ∀ (scopes : List (Scope × Option String)) (st : AbuseStore), st.Wf → key ∉ scopes.map (scopeKey P s h) →
      findBucket (scopes.foldl (fun st scope => (recordScopeFailure P s t h r st scope).1) st) key =
      findBucket st key := by
    intro scopes
    induction scopes with
    | nil => exact fun _ _ _ => rfl
    | cons scope scopes ih =>
      intro st hw hk
      simp only [List.map_cons, List.mem_cons, not_or] at hk
      rw [List.foldl_cons, ih _ (recordScopeFailure_spec P s t h r scope hw).1 hk.2,
        findBucket_recordScopeFailure P s t h r scope hw, if_neg hk.1]
  induction scopes generalizing st with
  | nil => simp at hk
  | cons scope scopes ih =>
    have hw' := (recordScopeFailure_spec P s t h r scope hw).1
    rw [List.map_cons, List.count_cons] at hk
    rw [List.foldl_cons]
    have hf := findBucket_recordScopeFailure P s t h r scope hw key
    by_cases hks : scopeKey P s h scope = key
    · simp only [hks, beq_self_eq_true, if_true, Nat.add_eq_right] at hk
      rw [hother scopes _ hw' (List.count_eq_zero.1 hk), hf, if_pos hks.symm]
      refine ⟨_, rfl, ?_⟩
      unfold getOrCreateBucket
      rw [hks]
      cases hb : findBucket st key with
      | some b => exact .inl rfl
      | none => exact .inr ⟨rfl, scope, _, rfl⟩
    · simp only [beq_iff_eq, hks, if_false, Nat.add_zero] at hk
      rw [if_neg (Ne.symm hks)] at hf
      rw [← hf]
      exact ih hw' hk

/-- Rolling the window of a bucket and counting a failure in it is what the counter of fixed windows does. -/
theorem tumble_rollWindow {t : Int} {b : WebhookAbuseBucket} {init : Option Int} {times : List Int} {n : Nat}
    (hb : Window.tumble (minutes s.webhookAbuseWindowMinutes) init times = (some b.windowStartedAt, n))
    (hn : b.failureCount = n) :
    (Window.tumble (minutes s.webhookAbuseWindowMinutes) init (t :: times)).1 = some (rollWindow s t b).windowStartedAt ∧
      (((Window.tumble (minutes s.webhookAbuseWindowMinutes) init (t :: times)).2 : Nat) : Int) =
        (rollWindow s t b).failureCount + 1 := by
  simp only [Window.tumble, hb, rollWindow]
  split
  · exact ⟨rfl, rfl⟩
  · exact ⟨rfl, by rw [hn]; rfl⟩

/-- What the bucket of a key holds after the failures at the times. -/
def Tallies (s : Settings) (key : String) (init : Option Int) (times : List Int) (st : AbuseStore) : Prop :=
  windowStart st key = (Window.tumble (minutes s.webhookAbuseWindowMinutes) init times).1 ∧
    ∀ b, findBucket st key = some b →
      b.failureCount = ((Window.tumble (minutes s.webhookAbuseWindowMinutes) init times).2 : Nat)

theorem tallies_nil {st : AbuseStore} {key : String} (h : NoFailures st key) :
    Tallies s key (windowStart st key) [] st :=
  ⟨rfl, h⟩

/-- One more failure: the bucket it is counted in, and its count, are those of the counter. -/
theorem tallies_cons {t : Int} {h r : String} {route : Option String} {st : AbuseStore} {init : Option Int}
    {times : List Int} (hw : st.Wf) (he : s.webhookAbuseBlockingEnabled = true) {key : String}
    (hk : (bucketKeys P s h route).count key = 1) (ht : Tallies s key init times st) :
    ∃ b, findBucket (recordFailure P s t h route r st).1 key = some (countFailure s t h r b) ∧
      b.blockCount = blocksOf st key ∧
      (Window.tumble (minutes s.webhookAbuseWindowMinutes) init (t :: times)).1 =
      some (rollWindow s t b).windowStartedAt ∧
      (((Window.tumble (minutes s.webhookAbuseWindowMinutes) init (t :: times)).2 : Nat) : Int) =
        (rollWindow s t b).failureCount + 1 := by
  obtain ⟨b, hf, hb⟩ := findBucket_recordFailure (t := t) (r := r) hw he hk
  refine ⟨b, hf, ?_⟩
  obtain ⟨hs, hn⟩ := ht
  rcases hb with hb | ⟨hb, scope, id, rfl⟩
  · simp only [windowStart, hb, Option.map_some] at hs
    refine ⟨by simp [blocksOf, hb], tumble_rollWindow (n := (Window.tumble _ init times).2) ?_ (hn b hb)⟩
    exact Prod.ext hs.symm rfl
  · simp only [windowStart, hb, Option.map_none] at hs
    have := Window.tumble_none hs.symm
    subst this
    have hi : init = none := hs.symm
    obtain ⟨hw0, hc0⟩ := rollWindow_newBucket s t h P scope id
    rw [hw0, hc0, hi]
    exact ⟨by simp [blocksOf, hb, newBucket], rfl, rfl⟩

/-- The store after the calls when none of them raises. -/
def counted (P : Platform) (s : Settings) (clientHost : String) (st : AbuseStore) (calls : List FailureCall) :
    AbuseStore :=
  calls.foldl (fun st c => (recordFailure P s c.now clientHost c.routeTokenHash c.reason st).1) st

/-- The bucket after all the calls holds what the counter does after all their times. -/
theorem tallies_counted {h : String} {key : String} (he : s.webhookAbuseBlockingEnabled = true)
    {calls : List FailureCall} {st : AbuseStore} (hw : st.Wf)
    (hk : ∀ c ∈ calls, (bucketKeys P s h c.routeTokenHash).count key = 1) (h0 : NoFailures st key) :
    (counted P s h st calls).Wf ∧ Tallies s key (windowStart st key) (failureTimes calls) (counted P s h st calls) := by
  induction calls using List.reverseRecOn with
  | nil => exact ⟨hw, tallies_nil h0⟩
  | append_singleton calls c ih =>
    obtain ⟨hw', ht⟩ := ih fun c hc => hk c (List.mem_append_left _ hc)
    have hkc := hk c (List.mem_append_right _ List.mem_cons_self)
    obtain ⟨b, hf, -, hs, hn⟩ := tallies_cons (t := c.now) (r := c.reason) hw' he hkc ht
    simp only [counted, failureTimes, List.foldl_append, List.foldl_cons, List.foldl_nil, List.map_append,
      List.map_cons, List.map_nil, List.reverse_append, List.reverse_cons, List.reverse_nil, List.nil_append,
      List.singleton_append] at hf hs hn ⊢
    refine ⟨(recordFailure_rel (R := fun _ _ => True) (fun _ => trivial) (fun _ _ _ _ _ => trivial)
      (fun _ _ _ _ => trivial) hw').1, ?_, ?_⟩
    · rw [windowStart, hf, hs, Option.map_some, countFailure_windowStartedAt]
    · intro b' hb'
      rw [hf] at hb'
      cases hb'
      rw [hn, countFailure_failureCount]

/-! ### Date arithmetic -/

/-- The loop over the scopes, when it returns, does what it does without the checks of its dates. -/
theorem foldlM_recordScopeInRange {t : Int} {h r : String} {scopes : List (Scope × Option String)}
    {acc out : AbuseStore × List WebhookAbuseBucket} (hrun : scopes.foldlM (recordScopeInRange P s t h r) acc = .ok out) :
    out.1 = scopes.foldl (fun st scope => (recordScopeFailure P s t h r st scope).1) acc.1 := by
  induction scopes generalizing acc with
  | nil =>
    cases hrun
    rfl
  | cons scope scopes ih =>
    rw [List.foldlM_cons, Except.bind_eq_ok_iff] at hrun
    obtain ⟨acc', hstep, hrun⟩ := hrun
    obtain ⟨_, -, hstep⟩ := Except.bind_eq_ok_iff.1 hstep
    cases hstep
    exact ih hrun

/-- A call that returns does what it does without the checks of its dates. -/
theorem record_eq {h : String} {c : FailureCall} {st st' : AbuseStore} (he : s.webhookAbuseBlockingEnabled = true)
    (hrecord : c.record P s h st = .ok st') : st' = (recordFailure P s c.now h c.routeTokenHash c.reason st).1 := by
  obtain ⟨out, hout, rfl⟩ := Except.map_eq_ok_iff.1 hrecord
  rw [recordFailure_fst P c.now h c.reason c.routeTokenHash st he]
  unfold recordFailureInRange at hout
  simp only [he, Bool.not_true, Bool.false_eq_true, if_false] at hout
  obtain ⟨_, -, hout⟩ := Except.bind_eq_ok_iff.1 hout
  exact foldlM_recordScopeInRange hout

theorem recordFailures_eq {h : String} {calls : List FailureCall} {st st' : AbuseStore}
    (he : s.webhookAbuseBlockingEnabled = true) (hrecord : recordFailures P s h st calls = .ok st') :
    st' = counted P s h st calls := by
  induction calls generalizing st with
  | nil =>
    cases hrecord
    rfl
  | cons c calls ih =>
    obtain ⟨st₁, hfirst, hrest⟩ := Except.bind_eq_ok_iff.1 hrecord
    rw [ih hrest, record_eq he hfirst]
    rfl

/-- The end of the block of the bucket that a failure is counted in, from the bucket the key has before. -/
theorem blockEnd_recordScopeFailure {t : Int} {h r : String} {scope : Scope × Option String} {st : AbuseStore} :
    blockEnd s t (recordScopeFailure P s t h r st scope).2 = .ok () ↔
      (s.webhookAbuseFailureLimit ≤ windowCount s t st (scopeKey P s h scope) + 1 →
        ((Datetime.timedelta (blockDuration s (blocksOf st (scopeKey P s h scope) + 1))).bind (Datetime.add t)).isSome =
          true) := by
  have hcount : ∀ b, (windowCount s t st (scopeKey P s h scope) = (rollWindow s t b).failureCount ∧
        blocksOf st (scopeKey P s h scope) = b.blockCount) →
      (blockEnd s t (countFailure s t h r b) = .ok () ↔
        (s.webhookAbuseFailureLimit ≤ windowCount s t st (scopeKey P s h scope) + 1 →
          ((Datetime.timedelta (blockDuration s (blocksOf st (scopeKey P s h scope) + 1))).bind
            (Datetime.add t)).isSome = true)) := by
    rintro b ⟨hwindow, hblocks⟩
    have hfailures := countFailure_failureCount (s := s) (t := t) (h := h) (r := r) (b := b)
    rw [hwindow, hblocks]
    unfold blockEnd
    rw [hfailures]
    obtain ⟨hl, hc, -⟩ | ⟨hl, -, -⟩ := countFailure_cases s t h r b
    · rw [if_pos hl, hc]
      unfold timeAfter inRange
      cases (Datetime.timedelta (blockDuration s (b.blockCount + 1))).bind (Datetime.add t) <;> simp [hl, Except.map]
    · rw [if_neg (by omega)]
      exact iff_of_true rfl fun h => absurd h (by omega)
  unfold recordScopeFailure getOrCreateBucket
  cases hf : findBucket st (scopeKey P s h scope) with
  | some b => exact hcount b ⟨by simp [windowCount, hf], by simp [blocksOf, hf]⟩
  | none =>
    refine hcount _ ⟨?_, by simp [blocksOf, hf, newBucket]⟩
    rw [(rollWindow_newBucket s t h P scope st.nextId).2]
    simp [windowCount, hf]

/-- The loop over scopes with different keys returns exactly when the blocks that its buckets reach end in range. -/
theorem foldlM_recordScopeInRange_ok_iff {t : Int} {h r : String} {scopes : List (Scope × Option String)}
    {acc : AbuseStore × List WebhookAbuseBucket} (hw : acc.1.Wf) (hnodup : (scopes.map (scopeKey P s h)).Nodup) :
    (∃ out, scopes.foldlM (recordScopeInRange P s t h r) acc = .ok out) ↔
      ∀ key ∈ scopes.map (scopeKey P s h), s.webhookAbuseFailureLimit ≤ windowCount s t acc.1 key + 1 →
        ((Datetime.timedelta (blockDuration s (blocksOf acc.1 key + 1))).bind (Datetime.add t)).isSome = true := by
  induction scopes generalizing acc with
  | nil => exact iff_of_true ⟨acc, rfl⟩ fun _ hkey => absurd hkey List.not_mem_nil
  | cons scope scopes ih =>
    rw [List.map_cons, List.nodup_cons] at hnodup
    rw [List.map_cons, List.forall_mem_cons, ← blockEnd_recordScopeFailure (r := r), List.foldlM_cons]
    have hw' := (recordScopeFailure_spec P s t h r scope hw).1
    -- the other keys have the bucket they had
    have hother : ∀ key ∈ scopes.map (scopeKey P s h),
        findBucket (recordScopeFailure P s t h r acc.1 scope).1 key = findBucket acc.1 key := by
      intro key hkey
      rw [findBucket_recordScopeFailure P s t h r scope hw, if_neg]
      rintro rfl
      exact hnodup.1 hkey
    cases hend : blockEnd s t (recordScopeFailure P s t h r acc.1 scope).2 with
    | error e =>
      refine iff_of_false ?_ fun hall => nomatch hall.1
      rintro ⟨out, hout⟩
      obtain ⟨acc', hstep, -⟩ := Except.bind_eq_ok_iff.1 hout
      obtain ⟨_, hok, -⟩ := Except.bind_eq_ok_iff.1 hstep
      rw [hend] at hok
      nomatch hok
    | ok =>
      have hstep : recordScopeInRange P s t h r acc scope = .ok ((recordScopeFailure P s t h r acc.1 scope).1,
          acc.2 ++ [(recordScopeFailure P s t h r acc.1 scope).2]) := by
        unfold recordScopeInRange
        simp only [hend]
        rfl
      rw [hstep, and_iff_right rfl]
      refine (@ih (_, _) hw' hnodup.2).trans (forall₂_congr fun key hkey => ?_)
      rw [windowCount, windowCount, blocksOf, blocksOf, hother key hkey]

/-- A call whose buckets have different keys returns exactly when its dates are in range. -/
theorem record_ok_iff {h : String} {c : FailureCall} {st : AbuseStore} (hw : st.Wf)
    (he : s.webhookAbuseBlockingEnabled = true) (hnodup : (bucketKeys P s h c.routeTokenHash).Nodup) :
    (∃ st', c.record P s h st = .ok st') ↔ c.DatesInRange P s h st := by
  have hrecord : (∃ st', c.record P s h st = .ok st') ↔
      ∃ out, recordFailureInRange P s c.now h c.routeTokenHash c.reason st = .ok out := by
    simp only [FailureCall.record, Except.map_eq_ok_iff]
    exact ⟨fun ⟨_, out, hout, _⟩ => ⟨out, hout⟩, fun ⟨out, hout⟩ => ⟨_, out, hout, rfl⟩⟩
  rw [hrecord]
  unfold recordFailureInRange FailureCall.DatesInRange
  simp only [he, Bool.not_true, Bool.false_eq_true, if_false]
  rw [bucketKeys, ← @foldlM_recordScopeInRange_ok_iff P s c.now h c.reason _ (st, []) hw hnodup]
  cases Datetime.timedelta (minutes s.webhookAbuseWindowMinutes) with
  | none => exact iff_of_false (fun ⟨_, hout⟩ => nomatch hout) fun hdates => nomatch hdates.1
  | some window => exact (and_iff_right rfl).symm

/-- A client has at most two buckets; when one key is that of just one of them, the keys differ. -/
theorem nodup_bucketKeys {h key : String} {route : Option String} (hk : (bucketKeys P s h route).count key = 1) :
    (bucketKeys P s h route).Nodup := by
  unfold bucketKeys at hk ⊢
  have hone : ∀ scope : Scope × Option String, ([scope].map (scopeKey P s h)).Nodup := fun _ => List.nodup_singleton _
  unfold bucketScopes at hk ⊢
  split
  · exact hone _
  · split
    · exact hone _
    · rename_i hroute hne
      simp only [hne, if_false, List.map_cons, List.map_nil, List.count_cons, List.count_nil, beq_iff_eq] at hk
      simp only [List.map_cons, List.map_nil, List.nodup_cons, List.mem_singleton, List.not_mem_nil, not_false_eq_true,
        List.nodup_nil, and_self, and_true]
      intro heq
      rw [heq] at hk
      split at hk <;> omega

/-- The last failure sets a block exactly when its dates are in range and the counter has reached the limit with it. -/
theorem setsBlock_iff {h : String} {key : String} (he : s.webhookAbuseBlockingEnabled = true) {earlier : List FailureCall}
    {last : FailureCall} {st st' : AbuseStore} (hw : st.Wf)
    (hk : ∀ c ∈ earlier ++ [last], (bucketKeys P s h c.routeTokenHash).count key = 1) (h0 : NoFailures st key)
    (hearlier : recordFailures P s h st earlier = .ok st') :
    last.SetsBlock P s h key st' ↔
      s.webhookAbuseFailureLimit.toNat ≤
          (Window.tumble (minutes s.webhookAbuseWindowMinutes) (windowStart st key)
            (failureTimes (earlier ++ [last]))).2 ∧
        last.DatesInRange P s h st' := by
  obtain ⟨hw', ht⟩ := tallies_counted he hw (fun c hc => hk c (List.mem_append_left _ hc)) h0
  rw [← recordFailures_eq he hearlier] at hw' ht
  have hkc := hk last (List.mem_append_right _ List.mem_cons_self)
  obtain ⟨b, hf, hbc, -, hn⟩ := tallies_cons (t := last.now) (r := last.reason) hw' he hkc ht
  have htimes : failureTimes (earlier ++ [last]) = last.now :: failureTimes earlier := by simp [failureTimes]
  rw [← record_ok_iff hw' he (nodup_bucketKeys hkc), htimes]
  constructor
  · rintro ⟨st'', hrecord, b', hb', hlt, -⟩
    refine ⟨?_, st'', hrecord⟩
    rw [record_eq he hrecord, hf] at hb'
    cases hb'
    obtain ⟨hl, -⟩ | ⟨-, hc, -⟩ := countFailure_cases s last.now h last.reason b <;> omega
  · rintro ⟨hle, st'', hrecord⟩
    refine ⟨st'', hrecord, _, by rw [record_eq he hrecord, hf], ?_⟩
    obtain ⟨-, hc, hu⟩ | ⟨hl, -, -⟩ := countFailure_cases s last.now h last.reason b
    · exact ⟨by omega, by rw [hu, hc]⟩
    · omega

end RollingWindowAux

open RollingWindowAux Window in
/-- Starting with no failure counted, and with failures of one client that are recorded and each count once in one
bucket: the last of them, when the bucket has no block yet and the failures within some interval of the length of the
window reach the limit with it, sets a block — if and only if, in that case, none of the last `limit - 1` failures, the
last one among them, came later than a window's length after the start of the window its bucket was in, which starts a
new window and forgets the failures before, and the dates that are computed for the last one are in Python's ranges. -/
theorem rolling_window_iff (P : Platform) (s : Settings) (clientHost key : String) (st st' : AbuseStore)
    (earlier : List FailureCall) (last : FailureCall) (he : s.webhookAbuseBlockingEnabled = true) (hw : st.Wf)
    (h0 : NoFailures st key)
    (hk : ∀ c ∈ earlier ++ [last], (bucketKeys P s clientHost c.routeTokenHash).count key = 1)
    (hearlier : recordFailures P s clientHost st earlier = .ok st') :
    (NotBlocked st' key →
        Burst (minutes s.webhookAbuseWindowMinutes) s.webhookAbuseFailureLimit.toNat (failureTimes (earlier ++ [last])) →
        last.SetsBlock P s clientHost key st') ↔
      (NotBlocked st' key →
        Burst (minutes s.webhookAbuseWindowMinutes) s.webhookAbuseFailureLimit.toNat (failureTimes (earlier ++ [last])) →
        (∀ i < s.webhookAbuseFailureLimit.toNat - 1,
          ¬Opens (minutes s.webhookAbuseWindowMinutes) (windowStart st key) ((failureTimes (earlier ++ [last])).drop i)) ∧
        last.DatesInRange P s clientHost st') := by
  refine forall_congr' fun _ => forall_congr' fun hb => ?_
  rw [setsBlock_iff he hw hk h0 hearlier, hb.le_count_iff]

/-- Failures of a client for an unknown route, at minutes. -/
def failuresAt (times : List Int) : List FailureCall := times.map fun n => ⟨minutes n, none, "unknown_route"⟩

/-- Three failures in the first two minutes reach a limit of three, and the third one blocks. -/
theorem rolling_window_iff_three :
    ∃ st', recordFailures .plain { webhookAbuseFailureLimit := 3 } "192.0.2.7" .empty (failuresAt [0, 1]) = .ok st' ∧
      FailureCall.SetsBlock .plain { webhookAbuseFailureLimit := 3 } "192.0.2.7" "ip:192.0.2.7:" st'
        ⟨minutes 2, none, "unknown_route"⟩ := by
  refine ⟨_, rfl, (rolling_window_iff .plain { webhookAbuseFailureLimit := 3 } "192.0.2.7" "ip:192.0.2.7:" .empty _
    (failuresAt [0, 1])
    ⟨minutes 2, none, "unknown_route"⟩ rfl AbuseStore.wf_empty nofun (by decide) rfl).2 (fun _ _ =>
      ⟨by decide, by decide⟩) ?_
    ⟨0, by decide, minutes 2, by decide⟩⟩
  intro b hb
  cases hb
  rfl

/-- Three failures at 9, 11 and 12 minutes, within the ten minutes of the window, do not block with a limit of three:
the window that the failure at 0 minutes started ends between the first two of them. -/
theorem rolling_window_straddled :
    ∃ st', recordFailures .plain { webhookAbuseFailureLimit := 3 } "192.0.2.7" .empty (failuresAt [0, 9, 11]) = .ok st' ∧
      NotBlocked st' "ip:192.0.2.7:" ∧
      Window.Burst (minutes 10) 3 (failureTimes (failuresAt [0, 9, 11, 12])) ∧
      ¬FailureCall.SetsBlock .plain { webhookAbuseFailureLimit := 3 } "192.0.2.7" "ip:192.0.2.7:" st'
        ⟨minutes 12, none, "unknown_route"⟩ := by
  refine ⟨_, rfl, ?_, ⟨minutes 9, by decide, minutes 12, by decide⟩, ?_⟩
  · intro b hb
    cases hb
    rfl
  · rintro ⟨st'', hrecord, b', hb', -, hu⟩
    cases hrecord
    cases hb'
    cases hu

end TeamsRehook
