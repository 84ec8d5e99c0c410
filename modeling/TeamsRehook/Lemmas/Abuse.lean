import TeamsRehook.Abuse

/-!
# What the functions of abuse tracking do to the buckets

One lemma a function: which columns it keeps, which rows it leaves alone, and which rows it adds. `AbuseStore.Wf` says
the ids and the keys of a store are unique and that the counter is above every id; every function keeps it.
-/

namespace TeamsRehook

variable {P : Platform} {s : Settings}

/-! ## Columns of a bucket -/

@[simp] theorem touch_id (t : Int) (h : String) (b : WebhookAbuseBucket) : (touch t h b).id = b.id := by simp only [touch]
@[simp] theorem touch_bucketKey (t : Int) (h : String) (b : WebhookAbuseBucket) :
    (touch t h b).bucketKey = b.bucketKey := by simp only [touch]
@[simp] theorem touch_blockedUntil (t : Int) (h : String) (b : WebhookAbuseBucket) :
    (touch t h b).blockedUntil = b.blockedUntil := by simp only [touch]
/-- A check does not change when a bucket is blocked. -/
@[simp] theorem touch_blockedAt (t : Int) (h : String) (b : WebhookAbuseBucket) (t' : Int) :
    (touch t h b).blockedAt t' = b.blockedAt t' := by
  unfold WebhookAbuseBucket.blockedAt
  rw [touch_blockedUntil]
@[simp] theorem touch_failureCount (t : Int) (h : String) (b : WebhookAbuseBucket) :
    (touch t h b).failureCount = b.failureCount := by simp only [touch]
@[simp] theorem touch_blockCount (t : Int) (h : String) (b : WebhookAbuseBucket) :
    (touch t h b).blockCount = b.blockCount := by simp only [touch]
@[simp] theorem touch_windowStartedAt (t : Int) (h : String) (b : WebhookAbuseBucket) :
    (touch t h b).windowStartedAt = b.windowStartedAt := by simp only [touch]

@[simp] theorem expire_failureCount (t : Int) (b : WebhookAbuseBucket) : (expire t b).failureCount = 0 := rfl
@[simp] theorem expire_blockedUntil (t : Int) (b : WebhookAbuseBucket) : (expire t b).blockedUntil = none := rfl

@[simp] theorem clearFailures_id (t : Int) (h : String) (b : WebhookAbuseBucket) : (clearFailures t h b).id = b.id := by
  simp only [clearFailures]
@[simp] theorem clearFailures_bucketKey (t : Int) (h : String) (b : WebhookAbuseBucket) :
    (clearFailures t h b).bucketKey = b.bucketKey := by simp only [clearFailures]
@[simp] theorem clearFailures_failureCount (t : Int) (h : String) (b : WebhookAbuseBucket) :
    (clearFailures t h b).failureCount = 0 := by simp only [clearFailures]
@[simp] theorem clearFailures_blockCount (t : Int) (h : String) (b : WebhookAbuseBucket) :
    (clearFailures t h b).blockCount = b.blockCount := by simp only [clearFailures]

@[simp] theorem unblock_id (t : Int) (b : WebhookAbuseBucket) : (unblock t b).id = b.id := rfl
@[simp] theorem unblock_bucketKey (t : Int) (b : WebhookAbuseBucket) : (unblock t b).bucketKey = b.bucketKey := rfl
@[simp] theorem unblock_failureCount (t : Int) (b : WebhookAbuseBucket) : (unblock t b).failureCount = 0 := rfl
@[simp] theorem unblock_blockCount (t : Int) (b : WebhookAbuseBucket) : (unblock t b).blockCount = b.blockCount := rfl

/-- A bucket is observed by touching it, or, once its block has expired, by clearing it. -/
theorem observe_cases (t : Int) (h : String) (b : WebhookAbuseBucket) :
    (observe t h b = touch t h b ∧ ∀ u, b.blockedUntil = some u → t < u) ∨
      (observe t h b = expire t (touch t h b) ∧ ∃ u, b.blockedUntil = some u ∧ u ≤ t) := by
  unfold observe WebhookAbuseBucket.blockedAt
  cases hb : b.blockedUntil with
  | none => exact .inl ⟨by simp, nofun⟩
  | some u =>
    by_cases hu : t < u
    · refine .inl ⟨by simp [hu], ?_⟩
      intro u' h'
      cases h'
      exact hu
    · exact .inr ⟨by simp [hu], u, rfl, by omega⟩

/-- Observing a bucket whose block has not expired touches it. -/
theorem observe_of_blocked {t : Int} {h : String} {b : WebhookAbuseBucket} (hb : ∀ u, b.blockedUntil = some u → t < u) :
    observe t h b = touch t h b := by
  obtain ⟨h', -⟩ | ⟨-, u, hu, hle⟩ := observe_cases t h b
  · exact h'
  · have := hb u hu
    omega

@[simp] theorem observe_id (t : Int) (h : String) (b : WebhookAbuseBucket) : (observe t h b).id = b.id := by
  obtain ⟨h', -⟩ | ⟨h', -⟩ := observe_cases t h b <;> simp only [h', touch, expire]
@[simp] theorem observe_bucketKey (t : Int) (h : String) (b : WebhookAbuseBucket) :
    (observe t h b).bucketKey = b.bucketKey := by
  obtain ⟨h', -⟩ | ⟨h', -⟩ := observe_cases t h b <;> simp only [h', touch, expire]
@[simp] theorem observe_blockCount (t : Int) (h : String) (b : WebhookAbuseBucket) :
    (observe t h b).blockCount = b.blockCount := by
  obtain ⟨h', -⟩ | ⟨h', -⟩ := observe_cases t h b <;> simp only [h', touch, expire]

@[simp] theorem rollWindow_id (t : Int) (b : WebhookAbuseBucket) : (rollWindow s t b).id = b.id := by
  unfold rollWindow
  split <;> rfl
@[simp] theorem rollWindow_bucketKey (t : Int) (b : WebhookAbuseBucket) :
    (rollWindow s t b).bucketKey = b.bucketKey := by
  unfold rollWindow
  split <;> rfl
@[simp] theorem rollWindow_blockCount (t : Int) (b : WebhookAbuseBucket) :
    (rollWindow s t b).blockCount = b.blockCount := by
  unfold rollWindow
  split <;> rfl
@[simp] theorem rollWindow_blockedUntil (t : Int) (b : WebhookAbuseBucket) :
    (rollWindow s t b).blockedUntil = b.blockedUntil := by
  unfold rollWindow
  split <;> rfl

/-- A new bucket starts its window at the time it is created, with no failure. -/
theorem rollWindow_newBucket (s : Settings) (t : Int) (h : String) (P : Platform)
    (scope : Scope × Option String) (id : Nat) :
    (rollWindow s t (newBucket P s t h scope id)).windowStartedAt = t ∧
      (rollWindow s t (newBucket P s t h scope id)).failureCount = 0 := by
  unfold rollWindow
  split <;> exact ⟨rfl, rfl⟩

/-- Counting a failure either reaches the limit and sets a block, or stays below the limit and leaves the block as it
was. -/
theorem countFailure_cases (s : Settings) (t : Int) (h r : String) (b : WebhookAbuseBucket) :
    (s.webhookAbuseFailureLimit ≤ (rollWindow s t b).failureCount + 1 ∧
        (countFailure s t h r b).blockCount = b.blockCount + 1 ∧
        (countFailure s t h r b).blockedUntil = some (t + blockDuration s (b.blockCount + 1))) ∨
      ((rollWindow s t b).failureCount + 1 < s.webhookAbuseFailureLimit ∧
        (countFailure s t h r b).blockCount = b.blockCount ∧
        (countFailure s t h r b).blockedUntil = b.blockedUntil) := by
  unfold countFailure
  by_cases hl : s.webhookAbuseFailureLimit ≤ (rollWindow s t b).failureCount + 1
  · exact .inl ⟨hl, by simp [hl], by simp [hl]⟩
  · exact .inr ⟨by omega, by simp [hl], by simp [hl]⟩

@[simp] theorem countFailure_id (t : Int) (h r : String) (b : WebhookAbuseBucket) :
    (countFailure s t h r b).id = b.id := by
  unfold countFailure
  simp only
  split <;> simp
@[simp] theorem countFailure_bucketKey (t : Int) (h r : String) (b : WebhookAbuseBucket) :
    (countFailure s t h r b).bucketKey = b.bucketKey := by
  unfold countFailure
  simp only
  split <;> simp
/-- A failure is counted in the window that is open then. -/
@[simp] theorem countFailure_failureCount (t : Int) (h r : String) (b : WebhookAbuseBucket) :
    (countFailure s t h r b).failureCount = (rollWindow s t b).failureCount + 1 := by
  unfold countFailure
  simp only
  split <;> rfl
/-- A failure leaves the window that is open then. -/
@[simp] theorem countFailure_windowStartedAt (t : Int) (h r : String) (b : WebhookAbuseBucket) :
    (countFailure s t h r b).windowStartedAt = (rollWindow s t b).windowStartedAt := by
  unfold countFailure
  simp only
  split <;> rfl

/-- A failure takes no block back. -/
theorem blockCount_le_countFailure (t : Int) (h r : String) (b : WebhookAbuseBucket) :
    b.blockCount ≤ (countFailure s t h r b).blockCount := by
  obtain ⟨-, h', -⟩ | ⟨-, h', -⟩ := countFailure_cases s t h r b <;> omega

/-- A failure that leaves the count at the limit leaves the block it set. -/
theorem countFailure_blocks (s : Settings) (t : Int) (h r : String) (b : WebhookAbuseBucket)
    (hl : s.webhookAbuseFailureLimit ≤ (countFailure s t h r b).failureCount) :
    (countFailure s t h r b).blockedUntil = some (t + blockDuration s (countFailure s t h r b).blockCount) := by
  rw [countFailure_failureCount] at hl
  obtain ⟨-, hc, hu⟩ | ⟨hlt, -⟩ := countFailure_cases s t h r b
  · rw [hu, hc]
  · omega

/-! ## The count of a key -/

/-- The failures a key has in its current window: those of its bucket, once the window is rolled, or none. -/
def windowCount (s : Settings) (now : Int) (st : AbuseStore) (key : String) : Int :=
  ((findBucket st key).map fun b => (rollWindow s now b).failureCount).getD 0

/-- The blocks a key has had. -/
def blocksOf (st : AbuseStore) (key : String) : Int := ((findBucket st key).map (·.blockCount)).getD 0

/-! ## Well-formed stores -/

/-- The unique columns of the table, and the counter above every id. -/
structure AbuseStore.Wf (st : AbuseStore) : Prop where
  ids : Table.UniqueOn (·.id) st.rows
  keys : Table.UniqueOn (·.bucketKey) st.rows
  fresh : ∀ b ∈ st.rows, b.id < st.nextId

/-- The empty table is well-formed. -/
theorem AbuseStore.wf_empty : AbuseStore.empty.Wf :=
  ⟨List.nodup_nil, List.nodup_nil, nofun⟩

/-- A rewrite that keeps the unique columns keeps a store well-formed. -/
theorem AbuseStore.Wf.update {st : AbuseStore} (h : st.Wf) (p : WebhookAbuseBucket → Bool)
    {f : WebhookAbuseBucket → WebhookAbuseBucket} (hid : ∀ b, (f b).id = b.id)
    (hkey : ∀ b, (f b).bucketKey = b.bucketKey) : (st.update p f).Wf where
  ids := Table.uniqueOn_update h.ids hid
  keys := Table.uniqueOn_update h.keys hkey
  fresh := Table.forall_mem_update h.fresh fun b hb _ => by
    rw [hid]
    exact h.fresh b hb

/-- A deletion keeps the table well-formed. -/
theorem AbuseStore.Wf.delete {st : AbuseStore} (h : st.Wf) (p : WebhookAbuseBucket → Bool) :
    ({ st with rows := Table.delete p st.rows } : AbuseStore).Wf where
  ids := Table.uniqueOn_delete h.ids
  keys := Table.uniqueOn_delete h.keys
  fresh := fun b hb => h.fresh b (Table.mem_delete.1 hb).1

/-- A row a rewrite by id leaves alone, when the row the id was taken from has another key. -/
theorem AbuseStore.Wf.mem_update_of_key_ne {st : AbuseStore} (h : st.Wf) {f : WebhookAbuseBucket → WebhookAbuseBucket}
    {a b : WebhookAbuseBucket} (ha : a ∈ st.rows) (hb : b ∈ st.rows) (hne : b.bucketKey ≠ a.bucketKey) :
    b ∈ (st.update (·.id == a.id) f).rows := by
  refine Table.mem_update_of_not hb ?_
  rw [beq_eq_false_iff_ne]
  intro hid
  exact hne (congrArg _ (h.ids.eq_of_mem hb ha hid))

/-! ## `_find_bucket` and `_get_or_create_bucket` -/

/-- A bucket that is found is in the table and has the key. -/
theorem findBucket_eq_some {st : AbuseStore} {key : String} {b : WebhookAbuseBucket} (h : findBucket st key = some b) :
    b ∈ st.rows ∧ b.bucketKey = key :=
  ⟨List.mem_of_find?_eq_some h, by simpa using List.find?_some h⟩

/-- When no bucket is found, none has the key. -/
theorem findBucket_eq_none {st : AbuseStore} {key : String} (h : findBucket st key = none) :
    ∀ b ∈ st.rows, b.bucketKey ≠ key := by
  intro b hb
  simpa using List.find?_eq_none.1 h b hb

/-- Getting or creating a bucket gives the bucket with the key, which is in the store it leaves. -/
theorem getOrCreateBucket_spec (P : Platform) (s : Settings) (t : Int) (h : String) (scope : Scope × Option String)
    {st : AbuseStore} (hw : st.Wf) :
    (getOrCreateBucket P s t h scope st).1.Wf ∧
      (getOrCreateBucket P s t h scope st).2 ∈ (getOrCreateBucket P s t h scope st).1.rows ∧
      (getOrCreateBucket P s t h scope st).2.bucketKey = scopeKey P s h scope ∧
      (∀ b ∈ st.rows, b ∈ (getOrCreateBucket P s t h scope st).1.rows) ∧
      (∀ b ∈ (getOrCreateBucket P s t h scope st).1.rows, b ∈ st.rows ∨ b = newBucket P s t h scope st.nextId) ∧
      st.nextId ≤ (getOrCreateBucket P s t h scope st).1.nextId := by
  unfold getOrCreateBucket
  cases hf : findBucket st (scopeKey P s h scope) with
  | some b =>
    obtain ⟨hb, hk⟩ := findBucket_eq_some hf
    exact ⟨hw, hb, hk, fun _ h => h, fun _ h => .inl h, le_refl _⟩
  | none =>
    have hk := findBucket_eq_none hf
    refine ⟨⟨?_, ?_, ?_⟩, by simp, rfl, fun b hb => by simp [hb], fun b hb => by simpa using hb, Nat.le_succ _⟩
    · exact Table.uniqueOn_append hw.ids fun b hb => Nat.ne_of_lt (hw.fresh b hb)
    · exact Table.uniqueOn_append hw.keys hk
    · intro b hb
      rcases List.mem_append.1 hb with hb | hb
      · exact Nat.lt_succ_of_lt (hw.fresh b hb)
      · rw [List.mem_singleton] at hb
        subst hb
        exact Nat.lt_succ_self _

/-! ## `record_failure` -/

/-- Counting a failure in one scope: the rows it leaves are rows it found, or new ones, each counted when it has the key
and left alone when it has another. -/
theorem recordScopeFailure_spec (P : Platform) (s : Settings) (t : Int) (h r : String) (scope : Scope × Option String)
    {st : AbuseStore} (hw : st.Wf) :
    (recordScopeFailure P s t h r st scope).1.Wf ∧
      (∀ b ∈ st.rows, b.bucketKey ≠ scopeKey P s h scope → b ∈ (recordScopeFailure P s t h r st scope).1.rows) ∧
      (∀ b' ∈ (recordScopeFailure P s t h r st scope).1.rows,
        (b'.bucketKey ≠ scopeKey P s h scope ∧ b' ∈ st.rows) ∨
          ∃ b, b.bucketKey = scopeKey P s h scope ∧ b' = countFailure s t h r b ∧
            (b ∈ st.rows ∨ b = newBucket P s t h scope st.nextId)) ∧
      st.nextId ≤ (recordScopeFailure P s t h r st scope).1.nextId := by
  obtain ⟨hw', hmem, hkey, hkeep, hfrom, hle⟩ := getOrCreateBucket_spec P s t h scope hw
  simp only [recordScopeFailure]
  generalize getOrCreateBucket P s t h scope st = g at *
  refine ⟨hw'.update _ (by simp) (by simp), ?_, ?_, hle⟩
  · intro b hb hne
    exact hw'.mem_update_of_key_ne hmem (hkeep b hb) (by rwa [hkey])
  · intro b' hb'
    obtain ⟨b, hb, rfl⟩ := Table.mem_update.1 hb'
    by_cases hid : b.id = g.2.id
    · have hbg : b = g.2 := hw'.ids.eq_of_mem hb hmem hid
      subst hbg
      exact .inr ⟨g.2, hkey, by simp, hfrom _ hb⟩
    · have hne : b.bucketKey ≠ scopeKey P s h scope := by
        rw [← hkey]
        exact fun hk => hid (congrArg _ (hw'.keys.eq_of_mem hb hmem hk))
      simp only [beq_iff_eq, hid, if_false]
      refine .inl ⟨hne, ?_⟩
      rcases hfrom b hb with hb' | rfl
      · exact hb'
      · exact absurd rfl hne

/-- After the count in one scope, a lookup finds the counted bucket under the key of the scope, and what it found before
under any other key. -/
theorem findBucket_recordScopeFailure (P : Platform) (s : Settings) (t : Int) (h r : String)
    (scope : Scope × Option String) {st : AbuseStore} (hw : st.Wf) (k : String) :
    findBucket (recordScopeFailure P s t h r st scope).1 k =
      if k = scopeKey P s h scope then some (recordScopeFailure P s t h r st scope).2 else findBucket st k := by
  obtain ⟨hw', hmem, hkey, -, -, -⟩ := getOrCreateBucket_spec P s t h scope hw
  have hother : k ≠ scopeKey P s h scope → findBucket (getOrCreateBucket P s t h scope st).1 k = findBucket st k := by
    intro hk
    unfold getOrCreateBucket
    cases hf : findBucket st (scopeKey P s h scope) with
    | some b => rfl
    | none =>
      simp only [findBucket, List.find?_append]
      rw [List.find?_singleton]
      simp [newBucket, Ne.symm hk]
  simp only [recordScopeFailure]
  generalize getOrCreateBucket P s t h scope st = g at *
  have hupd : findBucket (g.1.update (·.id == g.2.id) (countFailure s t h r)) k =
      (findBucket g.1 k).map fun b => if b.id == g.2.id then countFailure s t h r b else b :=
    Table.find?_update (by simp) g.1.rows
  rw [hupd]
  split
  · have hf : findBucket g.1 k = some g.2 := by
      have := hw'.keys.find?_eq_some hmem
      simp only [hkey, ← ‹k = _›] at this
      exact this
    simp [hf]
  · rw [hother ‹_›]
    cases hf : findBucket st k with
    | none => rfl
    | some b =>
      have hbk := (findBucket_eq_some hf).2
      have hbg := (findBucket_eq_some ((hother ‹_›).trans hf)).1
      have hid : b.id ≠ g.2.id := by
        intro hid
        have := hw'.ids.eq_of_mem hbg hmem hid
        subst this
        exact ‹k ≠ _› (hbk.symm.trans hkey)
      simp [hid]

/-- The store `record_failure` leaves: the scopes counted one after the other. -/
theorem recordFailure_fst (P : Platform) {s : Settings} (t : Int) (h r : String) (route : Option String) (st : AbuseStore)
    (he : s.webhookAbuseBlockingEnabled = true) :
    (recordFailure P s t h route r st).1 =
      (bucketScopes route).foldl (fun st scope => (recordScopeFailure P s t h r st scope).1) st := by
  unfold recordFailure
  simp only [he, Bool.not_true, Bool.false_eq_true, if_false]
  exact (List.foldl_hom Prod.fst fun _ _ => rfl).symm

/-- A relation between stores that is reflexive and transitive and holds across the count of one scope holds across
`record_failure`, whose scopes are those of `bucketScopes`. -/
theorem recordFailure_rel {P : Platform} {s : Settings} {t : Int} {h r : String} {route : Option String}
    {R : AbuseStore → AbuseStore → Prop} (hrefl : ∀ st, R st st) (htrans : ∀ a b c, R a b → R b c → R a c)
    (hstep : ∀ st, st.Wf → ∀ scope ∈ bucketScopes route, R st (recordScopeFailure P s t h r st scope).1)
    {st : AbuseStore} (hw : st.Wf) :
    (recordFailure P s t h route r st).1.Wf ∧ R st (recordFailure P s t h route r st).1 := by
  cases he : s.webhookAbuseBlockingEnabled with
  | false => simp only [recordFailure, he, Bool.not_false, if_true]; exact ⟨hw, hrefl st⟩
  | true =>
    rw [recordFailure_fst P t h r route st he]
    generalize bucketScopes route = scopes at hstep
    induction scopes generalizing st with
    | nil => exact ⟨hw, hrefl st⟩
    | cons scope scopes ih =>
      have h1 := hstep st hw scope List.mem_cons_self
      obtain ⟨hw2, h2⟩ := ih (recordScopeFailure_spec P s t h r scope hw).1
        (fun st hw x hx => hstep st hw x (List.mem_cons_of_mem _ hx))
      exact ⟨hw2, htrans _ _ _ h1 h2⟩

/-- The failure that brings the count of a key in its current window to the limit sets a block that runs from the
failure on, and counts it. -/
theorem recordFailure_blocks {P : Platform} {s : Settings} {t : Int} {h r : String} {route : Option String}
    {st : AbuseStore} (hw : st.Wf) (he : s.webhookAbuseBlockingEnabled = true) {key : String}
    (hk : key ∈ bucketKeys P s h route) (hl : s.webhookAbuseFailureLimit ≤ windowCount s t st key + 1) :
    ∃ b', findBucket (recordFailure P s t h route r st).1 key = some b' ∧ blocksOf st key < b'.blockCount ∧
      b'.blockedUntil = some (t + blockDuration s b'.blockCount) := by
  rw [recordFailure_fst P t h r route st he]
  unfold bucketKeys at hk
  generalize bucketScopes route = scopes at hk
  -- the scopes before the first one with the key leave its count as it was; the later ones keep the block
  have hkeep : ∀ (scopes : List (Scope × Option String)) (st' : AbuseStore), st'.Wf →
      (∃ b', findBucket st' key = some b' ∧ blocksOf st key < b'.blockCount ∧
        b'.blockedUntil = some (t + blockDuration s b'.blockCount)) →
      ∃ b', findBucket (scopes.foldl (fun st scope => (recordScopeFailure P s t h r st scope).1) st') key = some b' ∧
        blocksOf st key < b'.blockCount ∧ b'.blockedUntil = some (t + blockDuration s b'.blockCount) := by
    intro scopes
    induction scopes with
    | nil => exact fun _ _ h => h
    | cons scope scopes ih =>
      rintro st' hw' ⟨b', hf, hc, hu⟩
      refine ih _ (recordScopeFailure_spec P s t h r scope hw').1 ?_
      rw [findBucket_recordScopeFailure P s t h r scope hw']
      split
      · rename_i hks
        refine ⟨_, rfl, ?_⟩
        simp only [recordScopeFailure, getOrCreateBucket, ← hks, hf]
        obtain ⟨-, hc', hu'⟩ | ⟨-, hc', hu'⟩ := countFailure_cases s t h r b'
        · exact ⟨by omega, by rw [hu', hc']⟩
        · exact ⟨by omega, by rw [hu', hc', hu]⟩
      · exact ⟨b', hf, hc, hu⟩
  have hfold : ∀ (scopes : List (Scope × Option String)) (st' : AbuseStore), st'.Wf →
      findBucket st' key = findBucket st key → key ∈ scopes.map (scopeKey P s h) →
      ∃ b', findBucket (scopes.foldl (fun st scope => (recordScopeFailure P s t h r st scope).1) st') key = some b' ∧
        blocksOf st key < b'.blockCount ∧ b'.blockedUntil = some (t + blockDuration s b'.blockCount) := by
    intro scopes
    induction scopes with
    | nil => exact fun _ _ _ hk => absurd hk List.not_mem_nil
    | cons scope scopes ih =>
      intro st' hw' hf hk
      have hw2 := (recordScopeFailure_spec P s t h r scope hw').1
      have hfind := findBucket_recordScopeFailure P s t h r scope hw' key
      by_cases hks : key = scopeKey P s h scope
      · refine hkeep scopes _ hw2 ⟨_, by rw [hfind, if_pos hks], ?_⟩
        simp only [recordScopeFailure, getOrCreateBucket, ← hks, hf]
        unfold windowCount at hl
        unfold blocksOf
        cases hb : findBucket st key with
        | some b =>
          simp only [hb, Option.map_some, Option.getD_some] at hl ⊢
          obtain ⟨-, hc', hu'⟩ | ⟨hlt, -⟩ := countFailure_cases s t h r b
          · exact ⟨by omega, by rw [hu', hc']⟩
          · omega
        | none =>
          simp only [hb, Option.map_none, Option.getD_none] at hl ⊢
          have h0 := (rollWindow_newBucket s t h P scope st'.nextId).2
          obtain ⟨-, hc', hu'⟩ | ⟨hlt, -⟩ := countFailure_cases s t h r (newBucket P s t h scope st'.nextId)
          · refine ⟨?_, by rw [hu', hc']⟩
            rw [hc']
            exact Int.zero_lt_one
          · omega
      · refine ih _ hw2 (by rw [hfind, if_neg hks, hf]) ?_
        simpa [hks] using hk
  exact hfold scopes st hw rfl hk

/-- `record_failure` leaves alone every bucket whose key is not one of the request's. -/
theorem recordFailure_mem_of_key {P : Platform} {s : Settings} {t : Int} {h r : String} {route : Option String}
    {st : AbuseStore} (hw : st.Wf) {b : WebhookAbuseBucket} (hb : b ∈ st.rows)
    (hk : b.bucketKey ∉ bucketKeys P s h route) : b ∈ (recordFailure P s t h route r st).1.rows := by
  refine (recordFailure_rel (R := fun st st' => b ∈ st.rows → b ∈ st'.rows) (fun _ h => h)
    (fun _ _ _ h h' hb => h' (h hb))
    ?_ hw).2 hb
  intro st hw scope hs hb
  refine (recordScopeFailure_spec P s t h r scope hw).2.1 b hb ?_
  intro heq
  exact hk (heq ▸ List.mem_map_of_mem hs)

/-- The keys of a request whose route is unknown are among those of the request. -/
theorem bucketKeys_none_subset (P : Platform) (s : Settings) (h : String) (route : Option String) :
    bucketKeys P s h none ⊆ bucketKeys P s h route := by
  intro k hk
  unfold bucketKeys bucketScopes at *
  cases route with
  | none => exact hk
  | some r =>
    simp only [List.map_cons, List.map_nil, List.mem_singleton] at hk
    subst hk
    simp only
    split <;> simp

/-! ## `check_block` -/

/-- `check_block` blocks exactly when one of the request's buckets is blocked. -/
theorem checkBlock_eq_none_iff {P : Platform} {s : Settings} {t : Int} {h : String} {route : Option String}
    {st : AbuseStore} (he : s.webhookAbuseBlockingEnabled = true) :
    (checkBlock P s t h route st).2 = none ↔
      ∀ b ∈ st.rows, b.bucketKey ∈ bucketKeys P s h route → b.blockedAt t = false := by
  have hfold : ∀ (l : List WebhookAbuseBucket) (acc : Option WebhookAbuseBucket),
      l.foldl (laterBlocked t) acc = none ↔ acc = none ∧ ∀ b ∈ l, b.blockedAt t = false := by
    intro l
    induction l with
    | nil => simp
    | cons b l ih =>
      intro acc
      rw [List.foldl_cons, ih]
      have hb : laterBlocked t acc b = none ↔ acc = none ∧ b.blockedAt t = false := by
        unfold laterBlocked WebhookAbuseBucket.blockedAt
        cases b.blockedUntil with
        | none => simp
        | some u =>
          by_cases hu : t < u
          · cases acc <;> simp [hu]
            split <;> simp
          · simp [hu]
      rw [hb]
      simp [and_assoc]
  unfold checkBlock
  simp only [he, Bool.not_true, Bool.false_eq_true, if_false]
  rw [hfold]
  simp only [List.mem_map, List.mem_filter, decide_eq_true_eq, true_and]
  constructor
  · intro hall b hb hk
    have := hall _ ⟨b, ⟨hb, hk⟩, rfl⟩
    rwa [touch_blockedAt] at this
  · rintro hall _ ⟨b, ⟨hb, hk⟩, rfl⟩
    rw [touch_blockedAt]
    exact hall b hb hk

/-- A check keeps the table well-formed. -/
theorem checkBlock_wf (P : Platform) (s : Settings) (t : Int) (h : String) (route : Option String) {st : AbuseStore}
    (hw : st.Wf) : (checkBlock P s t h route st).1.Wf := by
  unfold checkBlock
  split
  · exact hw
  · exact hw.update _ (by simp) (by simp)

/-- The rows after `check_block` are the rows before it, each as it was or observed. -/
theorem mem_checkBlock {P : Platform} {s : Settings} {t : Int} {h : String} {route : Option String} {st : AbuseStore}
    {b' : WebhookAbuseBucket} (hb' : b' ∈ (checkBlock P s t h route st).1.rows) :
    ∃ b ∈ st.rows, b' = b ∨ b' = observe t h b := by
  unfold checkBlock at hb'
  split at hb'
  · exact ⟨b', hb', .inl rfl⟩
  · obtain ⟨b, hb, rfl⟩ := Table.mem_update.1 hb'
    refine ⟨b, hb, ?_⟩
    split
    · exact .inr rfl
    · exact .inl rfl

/-- A bucket that is not blocked any more, or is still blocked, is observed or left alone; its block, if it has not
expired, stays. -/
theorem checkBlock_keeps_block (P : Platform) (s : Settings) {t : Int} (h : String) (route : Option String)
    {st : AbuseStore} {b : WebhookAbuseBucket} (hb : b ∈ st.rows) {u : Int} (hu : b.blockedUntil = some u) (ht : t < u) :
    ∃ b' ∈ (checkBlock P s t h route st).1.rows, b'.id = b.id ∧ b'.bucketKey = b.bucketKey ∧
    b'.blockedUntil = some u := by
  unfold checkBlock
  split
  · exact ⟨b, hb, rfl, rfl, hu⟩
  · by_cases hk : b.bucketKey ∈ bucketKeys P s h route
    · refine ⟨observe t h b, Table.mem_update_of_pos hb (by simpa using hk), by simp, by simp, ?_⟩
      rw [observe_of_blocked (fun u' hu' => by rw [hu] at hu'; cases hu'; exact ht), touch_blockedUntil]
      exact hu
    · exact ⟨b, Table.mem_update_of_not hb (by simpa using hk), rfl, rfl, hu⟩

end TeamsRehook
