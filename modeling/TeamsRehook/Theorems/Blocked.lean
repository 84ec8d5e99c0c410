import TeamsRehook.Lemmas.Abuse

namespace TeamsRehook

/-! ## A blocked client stays blocked -/

/-- Every bucket whose count has reached the limit is blocked. -/
def LimitBlocks (s : Settings) (st : AbuseStore) : Prop :=
  ∀ b ∈ st.rows, s.webhookAbuseFailureLimit ≤ b.failureCount → b.blockedUntil.isSome = true

namespace BlockedAux

variable {P : Platform} {s : Settings}

/-- The bucket `b`, or what has become of it, blocks until `u`. -/
def BlockedUntil (b : WebhookAbuseBucket) (u : Int) (st : AbuseStore) : Prop :=
  ∃ b' ∈ st.rows, b'.id = b.id ∧ b'.bucketKey = b.bucketKey ∧ b'.blockedUntil = some u

/-- Every bucket of the first store that is still in the second one has not lost a block from its block count; no id of
the first store's past is used again. -/
def KeepsBlockCounts (st st' : AbuseStore) : Prop :=
  st.nextId ≤ st'.nextId ∧ ∀ b' ∈ st'.rows, b'.id < st.nextId → ∃ b ∈ st.rows, b.id = b'.id ∧ b.blockCount ≤ b'.blockCount

theorem keepsBlockCounts_refl (st : AbuseStore) : KeepsBlockCounts st st :=
  ⟨le_refl _, fun b' hb' _ => ⟨b', hb', rfl, le_refl _⟩⟩

theorem keepsBlockCounts_trans {a b c : AbuseStore} (h : KeepsBlockCounts a b) (h' : KeepsBlockCounts b c) :
    KeepsBlockCounts a c := by
  refine ⟨le_trans h.1 h'.1, fun x hx hlt => ?_⟩
  obtain ⟨y, hy, hid, hle⟩ := h'.2 x hx (by have := h.1; omega)
  obtain ⟨z, hz, hid', hle'⟩ := h.2 y hy (by omega)
  exact ⟨z, hz, hid'.trans hid, le_trans hle' hle⟩

/-- A rewrite of rows that keeps ids and lowers no block count. -/
theorem keepsBlockCounts_update (st : AbuseStore) (p : WebhookAbuseBucket → Bool)
    {f : WebhookAbuseBucket → WebhookAbuseBucket} (hid : ∀ b, (f b).id = b.id)
    (hc : ∀ b, b.blockCount ≤ (f b).blockCount) : KeepsBlockCounts st (st.update p f) := by
  refine ⟨le_refl _, fun b' hb' _ => ?_⟩
  obtain ⟨b, hb, rfl⟩ := Table.mem_update.1 hb'
  split
  · exact ⟨b, hb, (hid b).symm, hc b⟩
  · exact ⟨b, hb, rfl, le_refl _⟩

/-- Counting in one scope. -/
theorem recordScopeFailure_keepsBlockCounts (t : Int) (h r : String) (scope : Scope × Option String) {st : AbuseStore}
    (hw : st.Wf) : KeepsBlockCounts st (recordScopeFailure P s t h r st scope).1 := by
  obtain ⟨-, -, hfrom, hle⟩ := recordScopeFailure_spec P s t h r scope hw
  refine ⟨hle, fun b' hb' hlt => ?_⟩
  obtain ⟨-, hb⟩ | ⟨b, -, rfl, hb⟩ := hfrom b' hb'
  · exact ⟨b', hb, rfl, le_refl _⟩
  rcases hb with hb | rfl
  · exact ⟨b, hb, (countFailure_id t h r b).symm, blockCount_le_countFailure t h r b⟩
  · rw [countFailure_id] at hlt
    exact absurd hlt (lt_irrefl _)

/-- Counting in one scope blocks what it brings to the limit. -/
theorem recordScopeFailure_limitBlocks (t : Int) (h r : String)
    (scope : Scope × Option String) {st : AbuseStore} (hw : st.Wf) (hg : LimitBlocks s st) :
    LimitBlocks s (recordScopeFailure P s t h r st scope).1 := by
  obtain ⟨-, -, hfrom, -⟩ := recordScopeFailure_spec P s t h r scope hw
  intro b' hb' hlim
  obtain ⟨-, hb⟩ | ⟨b, -, rfl, -⟩ := hfrom b' hb'
  · exact hg b' hb hlim
  · rw [countFailure_blocks s t h r b hlim]
    rfl

/-! ### What a request keeps -/

/-- A request keeps every property of stores that `check_block`, the count of one scope and `record_success` keep. -/
theorem handleAbuse_invariant {I : AbuseStore → Prop} {r : AbuseRequest} {st : AbuseStore}
    (hcheck : I st → I (checkBlock P s r.checkedAt r.clientHost r.routeTokenHash st).1)
    (hfail : ∀ reason st scope, st.Wf → I st → I (recordScopeFailure P s r.endedAt r.clientHost reason st scope).1)
    (hsucc : ∀ st, I st → I (recordSuccess P s r.endedAt r.clientHost r.routeTokenHash st)) (hw : st.Wf) (hI : I st) :
    I (handleAbuse P s r st) := by
  unfold handleAbuse
  simp only
  split
  · exact hcheck hI
  split
  · exact (recordFailure_rel (R := fun a b => I a → I b) (fun _ h => h) (fun _ _ _ h h' => h' ∘ h)
      (fun st hw scope _ hI => hfail _ st scope hw hI) (checkBlock_wf _ _ _ _ _ hw)).2 (hcheck hI)
  · exact hsucc _ (hcheck hI)
  · exact hI

theorem recordSuccess_eq (t : Int) (h : String) (route : Option String) (st : AbuseStore) :
    recordSuccess P s t h route st = st ∨
      ∃ b ∈ st.rows, b.bucketKey ∈ bucketKeys P s h route ∧
        recordSuccess P s t h route st = st.update (·.id == b.id) (clearFailures t h) := by
  unfold recordSuccess
  cases route with
  | none => exact .inl rfl
  | some r =>
    simp only
    split
    · exact .inl rfl
    rename_i hr
    cases hf : findBucket st (scopeKey P s h (.ipRoute, some r)) with
    | none => exact .inl rfl
    | some b =>
      obtain ⟨hb, hk⟩ := findBucket_eq_some hf
      refine .inr ⟨b, hb, ?_, rfl⟩
      have hne : r ≠ "" := by
        intro h
        simp [h] at hr
      rw [hk, bucketKeys, bucketScopes]
      simp [hne]

theorem recordSuccess_wf (t : Int) (h : String) (route : Option String) {st : AbuseStore} (hw : st.Wf) :
    (recordSuccess P s t h route st).Wf := by
  obtain he | ⟨b, -, -, he⟩ := recordSuccess_eq (P := P) (s := s) t h route st
  · rwa [he]
  · rw [he]
    exact hw.update _ (by simp) (by simp)

theorem handleAbuse_wf (r : AbuseRequest) {st : AbuseStore} (hw : st.Wf) : (handleAbuse P s r st).Wf :=
  handleAbuse_invariant (checkBlock_wf _ _ _ _ _) (fun reason _ scope _ hw =>
    (recordScopeFailure_spec P s _ _ reason scope hw).1)
    (fun _ => recordSuccess_wf _ _ _) hw hw

theorem handleAbuse_limitBlocks (hl : 1 ≤ s.webhookAbuseFailureLimit) (r : AbuseRequest) {st : AbuseStore} (hw : st.Wf)
    (hg : LimitBlocks s st) : LimitBlocks s (handleAbuse P s r st) := by
  refine handleAbuse_invariant (fun hg b' hb' hlim => ?_)
    (fun reason st scope hw hg => recordScopeFailure_limitBlocks _ _ reason scope hw hg) (fun st hg => ?_) hw hg
  · obtain ⟨b, hb, rfl | rfl⟩ := mem_checkBlock hb'
    · exact hg b' hb hlim
    obtain ⟨ho, -⟩ | ⟨ho, -⟩ := observe_cases r.checkedAt r.clientHost b
    · rw [ho, touch_failureCount] at hlim
      rw [ho, touch_blockedUntil]
      exact hg b hb hlim
    · rw [ho, expire_failureCount] at hlim
      omega
  · obtain he | ⟨b, -, -, he⟩ := recordSuccess_eq (P := P) (s := s) r.endedAt r.clientHost r.routeTokenHash st
    · rwa [he]
    · rw [he]
      refine Table.forall_mem_update hg fun b _ _ hlim => ?_
      rw [clearFailures_failureCount] at hlim
      omega

theorem handleAbuse_keepsBlockCounts (r : AbuseRequest) {st : AbuseStore} (hw : st.Wf) :
    KeepsBlockCounts st (handleAbuse P s r st) := by
  refine handleAbuse_invariant (I := KeepsBlockCounts st) (fun h => keepsBlockCounts_trans h ?_)
    (fun reason st scope hw h => keepsBlockCounts_trans h (recordScopeFailure_keepsBlockCounts _ _ reason scope hw))
    (fun st h => keepsBlockCounts_trans h ?_) hw (keepsBlockCounts_refl st)
  · unfold checkBlock
    split
    · exact keepsBlockCounts_refl st
    · exact keepsBlockCounts_update _ _ (by simp) (by simp)
  · obtain he | ⟨b, -, -, he⟩ := recordSuccess_eq (P := P) (s := s) r.endedAt r.clientHost r.routeTokenHash st
    · rw [he]
      exact keepsBlockCounts_refl st
    · rw [he]
      exact keepsBlockCounts_update _ _ (by simp) (by simp)

/-- A request leaves the buckets alone when tracking is off. -/
theorem handleAbuse_disabled (r : AbuseRequest) (st : AbuseStore) (he : s.webhookAbuseBlockingEnabled = false) :
    handleAbuse P s r st = st := by
  have hc : checkBlock P s r.checkedAt r.clientHost r.routeTokenHash st = (st, none) := by simp [checkBlock, he]
  unfold handleAbuse
  rw [hc]
  simp only
  split
  · simp [recordFailure, he]
  · unfold recordSuccess
    split
    · rfl
    · simp [he]
  · rfl

/-- A request that ends before a block does leaves the block: it does not pass `check_block` when the bucket is one of
its own, and leaves the bucket alone when it is not. -/
theorem handleAbuse_blockedUntil {b : WebhookAbuseBucket} {u : Int} {r : AbuseRequest} {st : AbuseStore} (hw : st.Wf)
    (hle : r.checkedAt ≤ r.endedAt) (hu : r.endedAt < u) (hb : BlockedUntil b u st) :
    BlockedUntil b u (handleAbuse P s r st) := by
  obtain ⟨b₀, hmem, hid, hkey, hbu⟩ := hb
  obtain ⟨b₁, hmem₁, hid₁, hkey₁, hbu₁⟩ :=
    checkBlock_keeps_block P s r.clientHost r.routeTokenHash hmem hbu (by omega : r.checkedAt < u)
  have hchecked : BlockedUntil b u (checkBlock P s r.checkedAt r.clientHost r.routeTokenHash st).1 :=
    ⟨b₁, hmem₁, hid₁.trans hid, hkey₁.trans hkey, hbu₁⟩
  have hw₁ := checkBlock_wf P s r.checkedAt r.clientHost r.routeTokenHash hw
  cases he : s.webhookAbuseBlockingEnabled with
  | false =>
    rw [handleAbuse_disabled r st he]
    exact ⟨b₀, hmem, hid, hkey, hbu⟩
  | true =>
    unfold handleAbuse
    simp only
    split
    · exact hchecked
    rename_i hnone
    have hk : b₁.bucketKey ∉ bucketKeys P s r.clientHost r.routeTokenHash := by
      intro hk
      have := (checkBlock_eq_none_iff he).1 hnone b₀ hmem (hkey₁ ▸ hk)
      simp only [WebhookAbuseBucket.blockedAt, hbu, decide_eq_false_iff_not] at this
      omega
    split
    · rename_i routeKnown reason _
      refine ⟨b₁, recordFailure_mem_of_key hw₁ hmem₁ fun hk' => hk ?_, hid₁.trans hid, hkey₁.trans hkey, hbu₁⟩
      unfold AbuseRequest.recordedRoute at hk'
      split at hk'
      · exact hk'
      · exact bucketKeys_none_subset P s r.clientHost r.routeTokenHash hk'
    · obtain h | ⟨c, hc, hck, h⟩ := recordSuccess_eq (P := P) (s := s) r.endedAt r.clientHost r.routeTokenHash
        (checkBlock P s r.checkedAt r.clientHost r.routeTokenHash st).1
      · rw [h]
        exact hchecked
      · rw [h]
        refine ⟨b₁, hw₁.mem_update_of_key_ne hc hmem₁ ?_, hid₁.trans hid, hkey₁.trans hkey, hbu₁⟩
        exact fun heq => hk (heq ▸ hck)
    · exact ⟨b₀, hmem, hid, hkey, hbu⟩

/-! ### What a run keeps -/

/-- What holds in every state of a run. -/
structure Good (s : Settings) (x : AbuseState) : Prop where
  wf : x.store.Wf
  limitBlocks : LimitBlocks s x.store
  disabled : s.webhookAbuseBlockingEnabled = false → x.store.rows = []

theorem good_initial (clock : Int) : Good s (.initial clock) :=
  ⟨AbuseStore.wf_empty, nofun, fun _ => rfl⟩

/-- Each operation keeps it. -/
theorem good_step (hl : 1 ≤ s.webhookAbuseFailureLimit) (x : AbuseState) (op : AbuseOp) (x' : AbuseState) (hg : Good s x)
    (h : abuseStep P s x op = some x') : Good s x' := by
  obtain ⟨hw, hlim, hd⟩ := hg
  cases op with
  | request r =>
    simp only [abuseStep, Option.ite_none_right_eq_some, Option.some.injEq] at h
    obtain ⟨-, rfl⟩ := h
    exact ⟨handleAbuse_wf r hw, handleAbuse_limitBlocks hl r hw hlim,
      fun he => (congrArg AbuseStore.rows (handleAbuse_disabled r x.store he)).trans (hd he)⟩
  | unblock now i =>
    simp only [abuseStep, Option.ite_none_right_eq_some, Option.some.injEq] at h
    obtain ⟨-, rfl⟩ := h
    refine ⟨hw.update _ (by simp) (by simp), Table.forall_mem_update hlim fun b _ _ hb => ?_, fun he => ?_⟩
    · rw [unblock_failureCount] at hb
      omega
    · simp [unblockBucket, AbuseStore.update, Table.update, hd he]
  | cleanup now =>
    simp only [abuseStep, Option.ite_none_right_eq_some, Option.some.injEq] at h
    obtain ⟨-, rfl⟩ := h
    refine ⟨hw.delete _, fun b hb => hlim b (Table.mem_delete.1 hb).1, fun he => ?_⟩
    simp [cleanupBuckets, Table.delete, hd he]

/-- Each operation lets block counts grow. -/
theorem keepsBlockCounts_step (x : AbuseState) (op : AbuseOp) (x' : AbuseState) (hw : x.store.Wf)
    (h : abuseStep P s x op = some x') : KeepsBlockCounts x.store x'.store := by
  cases op with
  | request r =>
    simp only [abuseStep, Option.ite_none_right_eq_some, Option.some.injEq] at h
    obtain ⟨-, rfl⟩ := h
    exact handleAbuse_keepsBlockCounts r hw
  | unblock now i =>
    simp only [abuseStep, Option.ite_none_right_eq_some, Option.some.injEq] at h
    obtain ⟨-, rfl⟩ := h
    exact keepsBlockCounts_update _ _ (by simp) (by simp)
  | cleanup now =>
    simp only [abuseStep, Option.ite_none_right_eq_some, Option.some.injEq] at h
    obtain ⟨-, rfl⟩ := h
    exact ⟨le_refl _, fun b hb _ => ⟨b, (Table.mem_delete.1 hb).1, rfl, le_refl _⟩⟩

/-- Each operation except unblocking the bucket leaves a block until its time has come. -/
theorem blockedUntil_step {b : WebhookAbuseBucket} {u : Int} (x : AbuseState) (op : AbuseOp) (x' : AbuseState)
    (hw : x.store.Wf) (hb : x.clock < u → BlockedUntil b u x.store) (hop : ∀ now, op ≠ .unblock now b.id)
    (h : abuseStep P s x op = some x') : x'.clock < u → BlockedUntil b u x'.store := by
  cases op with
  | request r =>
    simp only [abuseStep, Option.ite_none_right_eq_some, Option.some.injEq] at h
    obtain ⟨⟨h1, h2⟩, rfl⟩ := h
    intro hu
    exact handleAbuse_blockedUntil hw h2 hu (hb (by simp only at hu; omega))
  | unblock now i =>
    simp only [abuseStep, Option.ite_none_right_eq_some, Option.some.injEq] at h
    obtain ⟨h1, rfl⟩ := h
    intro hu
    obtain ⟨b₀, hmem, hid, hkey, hbu⟩ := hb (by simp only at hu; omega)
    refine ⟨b₀, Table.mem_update_of_not hmem ?_, hid, hkey, hbu⟩
    have : b.id ≠ i := fun hi => hop now (by rw [hi])
    simpa [hid] using this
  | cleanup now =>
    simp only [abuseStep, Option.ite_none_right_eq_some, Option.some.injEq] at h
    obtain ⟨h1, rfl⟩ := h
    intro hu
    obtain ⟨b₀, hmem, hid, hkey, hbu⟩ := hb (by simp only at hu; omega)
    exact ⟨b₀, Table.mem_delete.2 ⟨hmem, by simp [hbu]⟩, hid, hkey, hbu⟩

end BlockedAux

open BlockedAux Transition in
/-- In every state of every run of requests, unblockings and cleanups from the empty table, with a clock that does not
go back and a limit of at least one: a bucket whose count has reached the limit is blocked; a failure that brings the
count of a key in its current window to the limit sets a block and counts it; no request that concerns a blocked bucket
passes `check_block` before the block ends, unless that bucket is unblocked; and the block count of a bucket does not
decrease. -/
theorem blocked_until_unblocked (P : Platform) (s : Settings) (hl : 1 ≤ s.webhookAbuseFailureLimit) (clock : Int)
    (ops : List AbuseOp) (x : AbuseState) (hx : exec (abuseStep P s) (.initial clock) ops = some x) :
    LimitBlocks s x.store ∧
      (∀ (r : AbuseRequest) (routeKnown : Bool) (reason : String) (x' : AbuseState),
        s.webhookAbuseBlockingEnabled = true → r.ending = .failure routeKnown reason →
        abuseStep P s x (.request r) = some x' →
        (checkBlock P s r.checkedAt r.clientHost r.routeTokenHash x.store).2 = none →
        ∀ key ∈ bucketKeys P s r.clientHost (r.recordedRoute routeKnown),
          s.webhookAbuseFailureLimit ≤
            windowCount s r.endedAt (checkBlock P s r.checkedAt r.clientHost r.routeTokenHash x.store).1 key + 1 →
          ∃ b', findBucket x'.store key = some b' ∧
            blocksOf (checkBlock P s r.checkedAt r.clientHost r.routeTokenHash x.store).1 key < b'.blockCount ∧
            b'.blockedUntil = some (r.endedAt + blockDuration s b'.blockCount)) ∧
      (∀ b ∈ x.store.rows, ∀ u, b.blockedUntil = some u → ∀ (ops' : List AbuseOp) (x' : AbuseState),
        exec (abuseStep P s) x ops' = some x' → (∀ now, .unblock now b.id ∉ ops') →
        ∀ (now : Int) (clientHost : String) (routeTokenHash : Option String), x'.clock ≤ now → now < u →
          b.bucketKey ∈ bucketKeys P s clientHost routeTokenHash →
          (checkBlock P s now clientHost routeTokenHash x'.store).2 ≠ none) ∧
      (∀ (ops' : List AbuseOp) (x' : AbuseState), exec (abuseStep P s) x ops' = some x' →
        ∀ b ∈ x.store.rows, ∀ b' ∈ x'.store.rows, b'.id = b.id → b.blockCount ≤ b'.blockCount) := by
  have hg : Good s x := exec_invariant (good_step hl) (good_initial clock) hx
  refine ⟨hg.limitBlocks, ?_, ?_, ?_⟩
  · intro r routeKnown reason x' he hr h hnone key hk hlim
    simp only [abuseStep, Option.ite_none_right_eq_some, Option.some.injEq] at h
    obtain ⟨-, rfl⟩ := h
    simp only [handleAbuse, hnone, hr]
    exact recordFailure_blocks (checkBlock_wf _ _ _ _ _ hg.wf) he hk hlim
  · intro b hb u hu ops' x' h' hno now clientHost routeTokenHash hc hlt hk
    have he : s.webhookAbuseBlockingEnabled = true := by
      by_contra hd
      rw [hg.disabled (by simpa using hd)] at hb
      exact List.not_mem_nil hb
    have hmeets : Meets (abuseStep P s) (fun _ op => ∀ now, op ≠ .unblock now b.id) x ops' := by
      refine meets_of_forall ?_ x
      rintro _ hop _ now rfl
      exact hno now hop
    have hrun : Good s x' ∧ (x'.clock < u → BlockedUntil b u x'.store) := by
      refine exec_invariant_of_meets (I := fun x => Good s x ∧ (x.clock < u → BlockedUntil b u x.store)) ?_
        ⟨hg, fun _ => ⟨b, hb, rfl, rfl, hu⟩⟩ hmeets h'
      intro x op x' hI hop h
      exact ⟨good_step hl x op x' hI.1 h, blockedUntil_step x op x' hI.1.wf hI.2 hop h⟩
    obtain ⟨b', hb', -, hkey, hbu⟩ := hrun.2 (by omega)
    intro hnone
    have := (checkBlock_eq_none_iff he).1 hnone b' hb' (hkey ▸ hk)
    simp only [WebhookAbuseBucket.blockedAt, hbu, decide_eq_false_iff_not] at this
    omega
  · intro ops' x' h' b hb b' hb' hid
    have hrun : Good s x' ∧ KeepsBlockCounts x.store x'.store :=
      exec_invariant (I := fun y => Good s y ∧ KeepsBlockCounts x.store y.store)
        (fun y op y' hI h => ⟨good_step hl y op y' hI.1 h,
          keepsBlockCounts_trans hI.2 (keepsBlockCounts_step y op y' hI.1.wf h)⟩)
        ⟨hg, keepsBlockCounts_refl _⟩ h'
    obtain ⟨c, hc, hcid, hle⟩ := hrun.2.2 b' hb' (hid ▸ hg.wf.fresh b hb)
    have hcb : c = b := hg.wf.ids.eq_of_mem hc hb (hcid.trans hid)
    rwa [← hcb]

/-- Two invalid payloads from one address for one route. -/
def twoFailures : List AbuseOp :=
  [.request ⟨"192.0.2.7", some "r", 0, 1, .failure true "invalid_payload"⟩,
    .request ⟨"192.0.2.7", some "r", 5, 6, .failure true "invalid_payload"⟩]

/-- With a limit of two they block the address and the route. -/
theorem blocked_until_unblocked_twoFailures :
    ∃ x, Transition.exec (abuseStep .plain { webhookAbuseFailureLimit := 2 }) (.initial 0) twoFailures = some x ∧
      x.store.rows.map (·.blockedUntil) = [some 600000006, some 600000006] ∧
      LimitBlocks { webhookAbuseFailureLimit := 2 } x.store :=
  ⟨_, rfl, by decide, (blocked_until_unblocked .plain { webhookAbuseFailureLimit := 2 }
    (by decide) 0 twoFailures _ rfl).1⟩

end TeamsRehook
