import TeamsRehook.InstanceSecrets

/-!
# What the replicas of an instance agree on

Any number of replicas start in any order, each with its own environment, and any of them is lost at any time.
-/

namespace TeamsRehook

open Processes Transition

variable {ι : Type*} [DecidableEq ι]

/-- The environment of the replica sets the secret. -/
def Replica.Sets (r : Replica) (secret : InstanceSecret) : Prop := Python.strip (r.environment secret) ≠ ""

instance (r : Replica) (secret : InstanceSecret) : Decidable (r.Sets secret) := inferInstanceAs (Decidable (_ ≠ _))

/-- The replica has got the secret. -/
def StartupPhase.has : StartupPhase → InstanceSecret → Bool
  | .ensuring .settingsEncKey, .sessionSecret | .inserting .settingsEncKey, .sessionSecret | .backfillingReferences, _
  | .backfillingTargets, _ | .seeding, _ | .started, _ => true
  | _, _ => false

/-- The replica has still to get the secret. -/
def StartupPhase.awaits : StartupPhase → InstanceSecret → Bool
  | .ensuring .sessionSecret, _ | .inserting .sessionSecret, _ | .ensuring .settingsEncKey, .settingsEncKey
  | .inserting .settingsEncKey, .settingsEncKey => true
  | _, _ => false

/-- The replica has started, or does not start. -/
def StartupPhase.ended : StartupPhase → Bool
  | .started | .failed _ => true
  | _ => false

namespace InstanceSecretsAux

/-- The replica has the secrets and goes on. -/
inductive Continues : StartupPhase → StartupPhase → Prop
  | references : Continues .backfillingReferences .backfillingTargets
  | targets : Continues .backfillingTargets .seeding
  | seeding : Continues .seeding .started

/-- The replica has got past the first commit. -/
def PastCommit : StartupPhase → Prop
  | .backfillingTargets | .seeding | .started | .failed .lost => True
  | _ => False

variable {P : Platform} {replicas : ι → Replica} {rows₀ : InstanceSecret → Option String}
    {w w' : World (InstanceDatabase ι) ι StartupPhase}
  {a : Act ι ι} {as : List (Act ι ι)} {x : InstanceDatabase ι} {i j : ι} {secret k : InstanceSecret} {value : String}

@[simp, grind =] theorem load_rows (settings : InstanceSecret → SecretSetting) :
    (x.load i settings).rows k = x.rows k := rfl

@[simp, grind =] theorem load_inserted (settings : InstanceSecret → SecretSetting) :
    (x.load i settings).inserted k = x.inserted k := rfl

@[simp, grind =] theorem load_lost (settings : InstanceSecret → SecretSetting) :
    (x.load i settings).lost j = x.lost j := rfl

/-- The settings of the other processes stay. -/
@[simp, grind =] theorem load_settings (settings : InstanceSecret → SecretSetting) :
    (x.load i settings).settings j k = if j = i then settings k else x.settings j k := by
  unfold InstanceDatabase.load
  by_cases hj : j = i <;> simp [hj]

omit [DecidableEq ι] in
@[simp, grind =] theorem insert_rows : (x.insert i secret value).rows k = x.rows k := rfl

omit [DecidableEq ι] in
@[simp, grind =] theorem insert_lost : (x.insert i secret value).lost j = x.lost j := rfl

omit [DecidableEq ι] in
@[simp, grind =] theorem insert_settings : (x.insert i secret value).settings j k = x.settings j k := rfl

omit [DecidableEq ι] in
/-- The rows of the other secrets stay as they are. -/
@[simp, grind =] theorem insert_inserted :
    (x.insert i secret value).inserted k = if k = secret then some (i, value) else x.inserted k :=
    Function.update_apply ..

@[simp, grind =] theorem use_rows (setting : SecretSetting) : (x.use i secret setting).rows k = x.rows k := rfl

@[simp, grind =] theorem use_inserted (setting : SecretSetting) : (x.use i secret setting).inserted k = x.inserted k :=
  rfl

@[simp, grind =] theorem use_lost (setting : SecretSetting) : (x.use i secret setting).lost j = x.lost j := rfl

/-- Only this secret of this process changes. -/
@[simp, grind =] theorem use_settings (setting : SecretSetting) :
    (x.use i secret setting).settings j k = if j = i ∧ k = secret then setting else x.settings j k := by
  unfold InstanceDatabase.use
  by_cases hj : j = i
  · subst hj
    by_cases hk : k = secret <;> simp [hk]
  · simp [hj]

@[simp, grind =] theorem rollback_rows : (x.rollback i).rows k = x.rows k := rfl

@[simp, grind =] theorem rollback_settings : (x.rollback i).settings j k = x.settings j k := rfl

@[simp, grind =] theorem rollback_lost : (x.rollback i).lost j = x.lost j := rfl

/-- The rows of other transactions stay inserted. -/
@[simp, grind =] theorem rollback_inserted : (x.rollback i).inserted k = some (j, value) ↔
    x.inserted k = some (j, value) ∧ j ≠ i := by
  rcases hrow : x.inserted k with _ | ⟨j', v⟩
  · simp [InstanceDatabase.rollback, InstanceDatabase.insertedBy, hrow]
  · by_cases hj : j' = i
    · simp [InstanceDatabase.rollback, InstanceDatabase.insertedBy, hrow, hj]
      exact fun h _ => h.symm
    · simp [InstanceDatabase.rollback, InstanceDatabase.insertedBy, hrow, hj]
      rintro rfl -
      exact hj

@[simp, grind =] theorem commit_settings : (x.commit i).settings j k = x.settings j k := rfl

@[simp, grind =] theorem commit_lost : (x.commit i).lost j = x.lost j := rfl

/-- A commit leaves the rows that other transactions have inserted. -/
@[simp, grind =] theorem commit_inserted : (x.commit i).inserted k = some (j, value) ↔
    x.inserted k = some (j, value) ∧ j ≠ i :=
  rollback_inserted

/-- A committed row is one that the transaction has inserted, or one that was there. -/
@[simp, grind =] theorem commit_rows :
    (x.commit i).rows k = some value ↔ x.inserted k = some (i, value) ∨ (∀ v, x.inserted k ≠ some (i, v)) ∧
    x.rows k = some value := by
  have hrows : (x.commit i).rows k = (x.insertedBy i k).or (x.rows k) := rfl
  rw [hrows]
  unfold InstanceDatabase.insertedBy
  cases x.inserted k with
  | none => simp
  | some r =>
    obtain ⟨j', v⟩ := r
    by_cases hj : j' = i <;> simp [hj]

/-- A row is missing after a commit when it was missing and the transaction has not inserted it. -/
@[simp, grind =] theorem commit_rows_none : (x.commit i).rows k = none ↔ (∀ v, x.inserted k ≠ some (i, v)) ∧
    x.rows k = none := by
  simp only [Option.eq_none_iff_forall_ne_some, ne_eq, commit_rows, not_or, not_and]
  constructor
  · exact fun h => ⟨fun v => (h v).1, fun v => (h v).2 fun v => (h v).1⟩
  · exact fun h v => ⟨h.1 v, fun _ => h.2 v⟩

/-- What a step can do. -/
inductive Moves (P : Platform) (replicas : ι → Replica) (w : World (InstanceDatabase ι) ι StartupPhase) :
    Act ι ι → World (InstanceDatabase ι) ι StartupPhase → Prop
  | created {i : ι} (hphase : w.phase i = .ready) :
      Moves P replicas w (.next i)
        ⟨w.shared.load i (replicas i).createApp, Function.update w.phase i (.ensuring .sessionSecret)⟩
  | configured {i : ι} {secret : InstanceSecret} (hphase : w.phase i = .ensuring secret)
      (hset : (w.shared.settings i secret).isConfigured = true)
      (hplaceholder : secret.isPlaceholder P (w.shared.settings i secret).value = false) :
      Moves P replicas w (.next i) ⟨w.shared, Function.update w.phase i secret.after⟩
  | read {i : ι} {secret : InstanceSecret} {value : String} (hphase : w.phase i = .ensuring secret)
      (hset : (w.shared.settings i secret).isConfigured = false) (hrow : w.shared.rows secret = some value) :
      Moves P replicas w (.next i)
        ⟨w.shared.use i secret (.useGenerated value), Function.update w.phase i secret.after⟩
  | absent {i : ι} {secret : InstanceSecret} (hphase : w.phase i = .ensuring secret)
      (hset : (w.shared.settings i secret).isConfigured = false) (hrow : w.shared.rows secret = none) :
      Moves P replicas w (.next i) ⟨w.shared, Function.update w.phase i (.inserting secret)⟩
  | inserted {i : ι} {secret : InstanceSecret} (hphase : w.phase i = .inserting secret)
      (hfree : w.shared.inserted secret = none) (hrow : w.shared.rows secret = none) :
      Moves P replicas w (.next i)
        ⟨(w.shared.insert i secret ((replicas i).drawn secret)).use i secret (.useGenerated ((replicas i).drawn secret)),
          Function.update w.phase i secret.after⟩
  | misconfigured {i : ι} {secret : InstanceSecret} (hphase : w.phase i = .ensuring secret)
      (hset : (w.shared.settings i secret).isConfigured = true)
      (hplaceholder : secret.isPlaceholder P (w.shared.settings i secret).value = true) :
      Moves P replicas w (.next i) ⟨w.shared.rollback i, Function.update w.phase i (.failed .runtimeError)⟩
  | conflict {i : ι} {secret : InstanceSecret} {value : String} (hphase : w.phase i = .inserting secret)
      (hrow : w.shared.rows secret = some value) :
      Moves P replicas w (.next i) ⟨w.shared.rollback i, Function.update w.phase i (.failed .integrityError)⟩
  | gone {i : ι} (hphase : (w.phase i).ended = false) (hlost : w.shared.lost i = true) :
      Moves P replicas w (.next i) ⟨w.shared.rollback i, Function.update w.phase i (.failed .lost)⟩
  | unchanged {i : ι} {p : StartupPhase} (hphase : Continues (w.phase i) p) (hgoes : p ≠ .started) :
      Moves P replicas w (.next i) ⟨w.shared, Function.update w.phase i p⟩
  | committed {i : ι} {p : StartupPhase} (hphase : Continues (w.phase i) p) :
      Moves P replicas w (.next i) ⟨w.shared.commit i, Function.update w.phase i p⟩
  | lost (i : ι) :
      Moves P replicas w (.env i) { w with shared := { w.shared with lost := Function.update w.shared.lost i true } }

/-- A step of a replica that is not lost. -/
theorem moves_of_startupNext {p : StartupPhase} (h : startupNext P (replicas i) i w.shared (w.phase i) = some (x, p)) :
    Moves P replicas w (.next i) ⟨x, Function.update w.phase i p⟩ := by
  cases hphase : w.phase i with
  | ready =>
    rw [hphase] at h
    cases h
    exact .created hphase
  | ensuring secret =>
    rw [hphase] at h
    simp only [startupNext] at h
    cases hset : (w.shared.settings i secret).isConfigured with
    | true =>
      rw [hset, if_pos rfl] at h
      cases hplaceholder : secret.isPlaceholder P (w.shared.settings i secret).value with
      | true =>
        rw [hplaceholder, if_pos rfl] at h
        cases h
        exact .misconfigured hphase hset hplaceholder
      | false =>
        rw [hplaceholder, if_neg (by decide)] at h
        cases h
        exact .configured hphase hset hplaceholder
    | false =>
      rw [hset, if_neg (by decide)] at h
      cases hrow : w.shared.rows secret with
      | none =>
        rw [hrow] at h
        cases h
        exact .absent hphase hset hrow
      | some value =>
        rw [hrow] at h
        cases h
        exact .read hphase hset hrow
  | inserting secret =>
    rw [hphase] at h
    simp only [startupNext] at h
    cases hfree : w.shared.inserted secret with
    | some r =>
      rw [hfree, if_pos (by simp)] at h
      cases h
    | none =>
      rw [hfree, if_neg (by simp)] at h
      cases hrow : w.shared.rows secret with
      | none =>
        rw [hrow, if_neg (by simp)] at h
        cases h
        exact .inserted hphase hfree hrow
      | some value =>
        rw [hrow, if_pos (by simp)] at h
        cases h
        exact .conflict hphase hrow
  | backfillingReferences =>
    rw [hphase] at h
    cases h
    split
    · exact .committed (hphase ▸ .references)
    · exact .unchanged (hphase ▸ .references) (by decide)
  | backfillingTargets =>
    rw [hphase] at h
    cases h
    split
    · exact .committed (hphase ▸ .targets)
    · exact .unchanged (hphase ▸ .targets) (by decide)
  | seeding =>
    rw [hphase] at h
    cases h
    exact .committed (hphase ▸ .seeding)
  | _ =>
    rw [hphase] at h
    cases h

/-- A replica that has not ended goes on, or fails when it is lost. -/
theorem replicaNext_eq (phase : StartupPhase) : replicaNext P replicas i x phase =
    if phase.ended then none
    else if x.lost i then some (x.rollback i, .failed .lost) else startupNext P (replicas i) i x phase := by
  cases phase <;> simp [replicaNext, StartupPhase.ended]

/-- Every step is one of those listed. -/
theorem moves_of_step (h : startupStep P replicas w a = some w') : Moves P replicas w a w' := by
  rcases World.step_cases h with ⟨i, x, p, rfl, hnext, rfl⟩ | ⟨i, x, rfl, henv, rfl⟩
  · rw [replicaNext_eq] at hnext
    cases hended : (w.phase i).ended with
    | true =>
      rw [hended, if_pos rfl] at hnext
      cases hnext
    | false =>
      rw [hended, if_neg (by decide)] at hnext
      cases hlost : w.shared.lost i with
      | true =>
        rw [hlost, if_pos rfl] at hnext
        cases hnext
        exact .gone hended hlost
      | false =>
        rw [hlost, if_neg (by decide)] at hnext
        exact moves_of_startupNext hnext
  · cases henv
    exact .lost i

/-! ### The invariant -/

/-- What holds of the replicas and the rows in every state that can be reached. -/
structure Inv (P : Platform) (replicas : ι → Replica) (rows₀ : InstanceSecret → Option String)
    (w : World (InstanceDatabase ι) ι StartupPhase) : Prop where
  kept : ∀ k v, rows₀ k = some v → w.shared.rows k = some v
  own : ∀ k j v, w.shared.inserted k = some (j, v) → w.shared.rows k = none ∧ v = (replicas j).drawn k ∧
    ¬(replicas j).Sets k ∧ (w.phase j).has k = true ∧ (w.phase j).ended = false
  asks : ∀ i k, (w.phase i).awaits k = true →
    ((replicas i).Sets k → w.shared.settings i k = ⟨(replicas i).environment k, false⟩) ∧
      (¬(replicas i).Sets k → (w.shared.settings i k).isConfigured = false)
  asked : ∀ i k, w.phase i = .inserting k → ¬(replicas i).Sets k ∧ rows₀ k = none
  configured : ∀ i k, (w.phase i).has k = true → (replicas i).Sets k →
    w.shared.settings i k = ⟨(replicas i).environment k, false⟩ ∧ k.isPlaceholder P ((replicas i).environment k) = false
  generated : ∀ i k, (w.phase i).has k = true → ¬(replicas i).Sets k → (w.shared.settings i k).generated = true ∧
    (w.shared.rows k = some (w.shared.settings i k).value ∨ w.shared.inserted k = some (i, (w.shared.settings i k).value))
  origin : ∀ k v, w.shared.rows k = some v → rows₀ k = some v ∨
    ∃ j, PastCommit (w.phase j) ∧ ¬(replicas j).Sets k ∧ (replicas j).drawn k = v
  runtimeError : ∀ i, w.phase i = .failed .runtimeError → ∃ k, (replicas i).Sets k ∧
    k.isPlaceholder P ((replicas i).environment k) = true
  integrityError : ∀ i, w.phase i = .failed .integrityError → ∃ k v, ¬(replicas i).Sets k ∧ rows₀ k = none ∧
    w.shared.rows k = some v
  lost : ∀ i, w.phase i = .failed .lost → w.shared.lost i = true

/-- A secret of the environment is configured, whatever `create_app` draws. -/
theorem createApp_asks (r : Replica) (k : InstanceSecret) : (r.Sets k → r.createApp k = ⟨r.environment k, false⟩) ∧
    (¬r.Sets k → (r.createApp k).isConfigured = false) := by
  unfold Replica.Sets
  cases k with
  | sessionSecret =>
    unfold Replica.createApp SecretSetting.ensure SecretSetting.isConfigured
    constructor
    · intro h
      rw [if_neg h]
    · intro h
      rw [if_pos (not_not.1 h)]
      simp
  | settingsEncKey =>
    unfold Replica.createApp SecretSetting.isConfigured
    exact ⟨fun _ => rfl, fun h => by simp [not_not.1 h]⟩

omit [DecidableEq ι] in
/-- The invariant holds before any replica has begun. -/
theorem inv_initial : Inv P replicas rows₀ (initialStartup rows₀ : World (InstanceDatabase ι) ι StartupPhase) := by
  constructor <;> simp +contextual [initialStartup, StartupPhase.awaits, StartupPhase.has]

/-- After a secret the replica has this one and those before it. -/
@[grind =] theorem has_after (secret k : InstanceSecret) :
    secret.after.has k = true ↔ k = secret ∨ (StartupPhase.inserting secret).has k = true := by
  cases secret <;> cases k <;> decide

/-- After a secret only the later ones are awaited. -/
@[grind =] theorem awaits_after (secret k : InstanceSecret) :
    secret.after.awaits k = true ↔ k ≠ secret ∧ (StartupPhase.inserting secret).awaits k = true := by
  cases secret <;> cases k <;> decide

@[grind =] theorem ended_after (secret : InstanceSecret) : secret.after.ended = false := by
  cases secret <;> decide

/-- Looking for the row of a secret changes nothing about the secrets that the replica has. -/
@[grind =] theorem has_ensuring (secret k : InstanceSecret) :
    (StartupPhase.ensuring secret).has k = (StartupPhase.inserting secret).has k := by
  cases secret <;> cases k <;> decide

/-- Looking for the row of a secret changes nothing about the secrets that the replica awaits. -/
@[grind =] theorem awaits_ensuring (secret k : InstanceSecret) :
    (StartupPhase.ensuring secret).awaits k = (StartupPhase.inserting secret).awaits k := by
  cases secret <;> cases k <;> decide

@[grind .] theorem awaits_self (secret : InstanceSecret) : (StartupPhase.inserting secret).awaits secret = true := by
  cases secret <;> decide

@[grind .] theorem not_has_self (secret : InstanceSecret) : (StartupPhase.inserting secret).has secret = false := by
  cases secret <;> decide

/-- After a secret the replica is not about to insert one. -/
theorem after_ne_inserting (secret k : InstanceSecret) : secret.after ≠ .inserting k := by
  cases secret <;> simp [InstanceSecret.after]

/-- After a secret the replica has not failed. -/
theorem after_ne_failed (e : StartupError) (secret : InstanceSecret) : secret.after ≠ .failed e := by
  cases secret <;> simp [InstanceSecret.after]

/-- A replica that goes on has its secrets, before and after. -/
@[grind →] theorem Continues.has {p p' : StartupPhase} (h : Continues p p') :
    (∀ k, p.has k = true) ∧ (∀ k, p'.has k = true) ∧ ∀ k, p'.awaits k = false := by
  cases h <;> exact ⟨fun _ => rfl, fun _ => rfl, fun _ => rfl⟩

/-- A replica that goes on has not ended, unless it has started. -/
@[grind →] theorem Continues.ended {p p' : StartupPhase} (h : Continues p p') :
    p.ended = false ∧ (p' ≠ .started → p'.ended = false) ∧ (∀ k, p' ≠ .inserting k) ∧ ∀ e, p' ≠ .failed e := by
  cases h <;> simp [StartupPhase.ended]

/-- A replica that goes on has got past the place of the first commit. -/
theorem Continues.pastCommit {p p' : StartupPhase} (h : Continues p p') : PastCommit p' := by
  cases h <;> exact trivial

/-- A replica that has ended after the first commit has started, or was lost. -/
theorem ended_of_pastCommit {p : StartupPhase} (hpast : PastCommit p) (hended : p.ended = true) :
    p = .started ∨ p = .failed .lost := by
  cases p with
  | started => exact .inl rfl
  | failed e =>
    cases e with
    | lost => exact .inr rfl
    | _ => exact hpast.elim
  | _ => cases hended

/-- A row that is committed stays. -/
theorem rows_moves (hI : Inv P replicas rows₀ w) (h : Moves P replicas w a w') {v : String}
    (hk : w.shared.rows k = some v) : w'.shared.rows k = some v := by
  have hown := hI.own k
  cases h <;> grind

/-- The rows that earlier replicas left stay. -/
theorem kept_moves (hI : Inv P replicas rows₀ w) (h : Moves P replicas w a w') (k : InstanceSecret) (v : String)
    (hk : rows₀ k = some v) : w'.shared.rows k = some v := rows_moves hI h (hI.kept k v hk)

/-- A row that is inserted and not committed is a drawn secret of a replica that has not ended. -/
theorem own_moves (hI : Inv P replicas rows₀ w) (h : Moves P replicas w a w') (k : InstanceSecret) (j : ι) (v : String)
    (hj : w'.shared.inserted k = some (j, v)) :
    w'.shared.rows k = none ∧ v = (replicas j).drawn k ∧ ¬(replicas j).Sets k ∧
      (w'.phase j).has k = true ∧ (w'.phase j).ended = false := by
  have hold := hI.own k
  have hasked := hI.asked
  cases h <;> grind [Function.update_apply, StartupPhase.has, StartupPhase.ended]

/-- A replica that has still to get a secret has that of its environment configured, or none. -/
theorem asks_moves (hI : Inv P replicas rows₀ w) (h : Moves P replicas w a w') (i : ι) (k : InstanceSecret)
    (hi : (w'.phase i).awaits k = true) :
    ((replicas i).Sets k → w'.shared.settings i k = ⟨(replicas i).environment k, false⟩) ∧
      (¬(replicas i).Sets k → (w'.shared.settings i k).isConfigured = false) := by
  have hold := hI.asks i k
  have hcreated := createApp_asks (replicas i) k
  cases h <;> grind [Function.update_apply, StartupPhase.awaits]

omit [DecidableEq ι] in
/-- A replica that has still to get a secret has it configured exactly when its environment sets it. -/
theorem isConfigured_iff (hI : Inv P replicas rows₀ w) (h : (w.phase i).awaits k = true) :
    (w.shared.settings i k).isConfigured = true ↔ (replicas i).Sets k := by
  obtain ⟨hset, hunset⟩ := hI.asks i k h
  by_cases hsets : (replicas i).Sets k
  · have hstrip : Python.strip ((replicas i).environment k) ≠ "" := hsets
    simp [hset hsets, SecretSetting.isConfigured, hstrip, hsets]
  · simp [hunset hsets, hsets]

/-- A replica inserts a secret only when neither its environment nor the table had one. -/
theorem asked_moves (hI : Inv P replicas rows₀ w) (h : Moves P replicas w a w') (i : ι) (k : InstanceSecret)
    (hi : w'.phase i = .inserting k) : ¬(replicas i).Sets k ∧ rows₀ k = none := by
  have hold := hI.asked i k
  have habsent : w.shared.rows k = none → rows₀ k = none := fun hrow =>
    Option.eq_none_iff_forall_ne_some.2 fun v hv => by simp [hI.kept k v hv] at hrow
  have hafter := after_ne_inserting
  have hconfigured := isConfigured_iff (i := i) (k := k) hI
  cases h <;> grind [Function.update_apply]

/-- A secret of the environment stays in use and is no placeholder. -/
theorem configured_moves (hI : Inv P replicas rows₀ w) (h : Moves P replicas w a w') (i : ι) (k : InstanceSecret)
    (hi : (w'.phase i).has k = true) (hsets : (replicas i).Sets k) :
    w'.shared.settings i k = ⟨(replicas i).environment k, false⟩ ∧
    k.isPlaceholder P ((replicas i).environment k) = false := by
  have hold := hI.configured i k
  have hasks := hI.asks i k
  have hasked := hI.asked i
  have hconfigured := isConfigured_iff (i := i) (k := k) hI
  cases h <;> grind [Function.update_apply, StartupPhase.has]

/-- A generated secret is the one in the committed row or in the row that the replica has inserted. -/
theorem generated_moves (hI : Inv P replicas rows₀ w) (h : Moves P replicas w a w') (i : ι) (k : InstanceSecret)
    (hi : (w'.phase i).has k = true) (hsets : ¬(replicas i).Sets k) : (w'.shared.settings i k).generated = true ∧
      (w'.shared.rows k = some (w'.shared.settings i k).value ∨
        w'.shared.inserted k = some (i, (w'.shared.settings i k).value)) := by
  have hold := hI.generated i k
  have hown := hI.own k
  have hconfigured := isConfigured_iff (i := i) (k := k) hI
  cases h <;> grind [Function.update_apply, StartupPhase.has, SecretSetting.useGenerated]

/-- A replica that has got past the first commit starts or is lost. -/
theorem pastCommit_moves (h : Moves P replicas w a w') (hj : PastCommit (w.phase j)) : PastCommit (w'.phase j) := by
  cases h with
  | unchanged hphase | committed hphase =>
    have hpast := hphase.pastCommit
    grind [Function.update_apply]
  | _ => grind [Function.update_apply, PastCommit]

/-- A committed row was there before or comes from a replica that has got past its first commit. -/
theorem origin_moves (hI : Inv P replicas rows₀ w) (h : Moves P replicas w a w') (k : InstanceSecret) (v : String)
    (hk : w'.shared.rows k = some v) : rows₀ k = some v ∨
      ∃ j, PastCommit (w'.phase j) ∧ ¬(replicas j).Sets k ∧ (replicas j).drawn k = v := by
  have hold : w.shared.rows k = some v → rows₀ k = some v ∨
      ∃ j, PastCommit (w'.phase j) ∧ ¬(replicas j).Sets k ∧ (replicas j).drawn k = v := fun hrow =>
    (hI.origin k v hrow).imp_right fun ⟨j, hj, hrest⟩ => ⟨j, pastCommit_moves h hj, hrest⟩
  cases h with
  | committed =>
    rename_i i p hphase
    rcases commit_rows.1 hk with hrow | ⟨-, hrow⟩
    · obtain ⟨-, hvalue, hsets, -, -⟩ := hI.own k i v hrow
      exact .inr ⟨i, by simpa using hphase.pastCommit, hsets, hvalue.symm⟩
    · exact hold hrow
  | _ => exact hold (by simpa using hk)

/-- A replica fails with a `RuntimeError` only for a placeholder in its environment. -/
theorem runtimeError_moves (hI : Inv P replicas rows₀ w) (h : Moves P replicas w a w') (i : ι)
    (hi : w'.phase i = .failed .runtimeError) :
    ∃ k, (replicas i).Sets k ∧ k.isPlaceholder P ((replicas i).environment k) = true := by
  have hold := hI.runtimeError i
  have hafter := after_ne_failed .runtimeError
  cases h with
  | misconfigured =>
    rename_i j secret hphase hset hplaceholder
    by_cases hij : i = j
    · subst hij
      have hawaits : (w.phase i).awaits secret = true := by
        rw [hphase, awaits_ensuring, awaits_self]
      have hsets := (isConfigured_iff hI hawaits).1 hset
      rw [(hI.asks i secret hawaits).1 hsets] at hplaceholder
      exact ⟨secret, hsets, hplaceholder⟩
    · simp only [Function.update_of_ne hij] at hi
      exact hold hi
  | _ => grind [Function.update_apply]

/-- A replica fails with an `IntegrityError` only when another one has committed the row. -/
theorem integrityError_moves (hI : Inv P replicas rows₀ w) (h : Moves P replicas w a w') (i : ι)
    (hi : w'.phase i = .failed .integrityError) :
    ∃ k v, ¬(replicas i).Sets k ∧ rows₀ k = none ∧ w'.shared.rows k = some v := by
  have hold := hI.integrityError i
  have hafter := after_ne_failed .integrityError
  have hasked := hI.asked i
  have hown := hI.own
  cases h <;> grind [Function.update_apply]

/-- A replica fails as lost only when it is. -/
theorem lost_moves (hI : Inv P replicas rows₀ w) (h : Moves P replicas w a w') (i : ι)
    (hi : w'.phase i = .failed .lost) : w'.shared.lost i = true := by
  have hold := hI.lost i
  have hafter := after_ne_failed .lost
  cases h <;> grind [Function.update_apply]

/-- Every step keeps the invariant. -/
theorem inv_moves (hI : Inv P replicas rows₀ w) (h : Moves P replicas w a w') : Inv P replicas rows₀ w' where
  kept := kept_moves hI h
  own := own_moves hI h
  asks := asks_moves hI h
  asked := asked_moves hI h
  configured := configured_moves hI h
  generated := generated_moves hI h
  origin := origin_moves hI h
  runtimeError := runtimeError_moves hI h
  integrityError := integrityError_moves hI h
  lost := lost_moves hI h

/-- The invariant holds in every state that can be reached. -/
theorem inv_of_run (hrun : exec (startupStep P replicas) (initialStartup rows₀) as = some w) : Inv P replicas rows₀ w :=
  exec_invariant (fun _ _ _ hI h => inv_moves hI (moves_of_step h)) inv_initial hrun

/-- A replica that cannot take its next step has ended, or waits for the transaction of another one that has inserted
the row. -/
theorem next_eq_none (h : startupStep P replicas w (.next i) = none) :
    (w.phase i).ended = true ∨ ∃ k j v, w.phase i = .inserting k ∧ w.shared.inserted k = some (j, v) := by
  have hnext : replicaNext P replicas i w.shared (w.phase i) = none := Option.map_eq_none_iff.1 h
  rw [replicaNext_eq] at hnext
  cases hended : (w.phase i).ended with
  | true => exact .inl rfl
  | false =>
    rw [hended, if_neg (by decide)] at hnext
    by_cases hlost : w.shared.lost i = true
    · rw [if_pos hlost] at hnext
      cases hnext
    · rw [if_neg hlost] at hnext
      cases hphase : w.phase i with
      | ready =>
        rw [hphase] at hnext
        cases hnext
      | ensuring secret =>
        simp only [hphase, startupNext] at hnext
        split at hnext
        · split at hnext <;> cases hnext
        · split at hnext <;> cases hnext
      | inserting secret =>
        simp only [hphase, startupNext] at hnext
        split at hnext
        · rename_i hinserted
          obtain ⟨⟨j, v⟩, hrow⟩ := Option.isSome_iff_exists.1 hinserted
          exact .inr ⟨secret, j, v, rfl, hrow⟩
        · split at hnext <;> cases hnext
      | backfillingReferences | backfillingTargets | seeding =>
        rw [hphase] at hnext
        cases hnext
      | _ =>
        rw [hphase] at hended
        cases hended

omit [DecidableEq ι] in
/-- The replicas insert the session secret first, so that one which has inserted the other secret waits for nobody. -/
theorem not_waiting (hI : Inv P replicas rows₀ w) {j j' : ι} {v v' : String}
    (hrow : w.shared.inserted .settingsEncKey = some (j, v)) :
    ¬(w.phase j = .inserting k ∧ w.shared.inserted k = some (j', v')) := by
  obtain ⟨-, -, -, hhas, -⟩ := hI.own _ _ _ hrow
  rintro ⟨hphase, -⟩
  rw [hphase] at hhas
  cases k <;> cases hhas

end InstanceSecretsAux

open InstanceSecretsAux in
/-- A replica that has started uses the secrets that its environment sets, none of them a placeholder, and for each
other one the secret that is committed in the database: it is the same for all replicas, and once a row is there it
stays as it is. -/
theorem instance_secrets_agree {P : Platform} {replicas : ι → Replica} {rows₀ : InstanceSecret → Option String}
    {before after : List (Act ι ι)} {w₁ w₂ : World (InstanceDatabase ι) ι StartupPhase}
    (hbefore : exec (startupStep P replicas) (initialStartup rows₀) before = some w₁)
    (hafter : exec (startupStep P replicas) w₁ after = some w₂) (k : InstanceSecret) :
    (∀ v, w₁.shared.rows k = some v → w₂.shared.rows k = some v) ∧
      (∀ i, w₂.phase i = .started → (replicas i).Sets k →
        (w₂.shared.settings i k).value = (replicas i).environment k ∧
          k.isPlaceholder P ((replicas i).environment k) = false) ∧
      ∀ i, w₂.phase i = .started → ¬(replicas i).Sets k → w₂.shared.rows k = some (w₂.shared.settings i k).value := by
  have hI₁ := inv_of_run hbefore
  obtain ⟨hI, hrows⟩ := exec_invariant
    (I := fun w => Inv P replicas rows₀ w ∧ ∀ v, w₁.shared.rows k = some v → w.shared.rows k = some v)
    (fun w a w' hw hstep => ⟨inv_moves hw.1 (moves_of_step hstep), fun v hv =>
      rows_moves hw.1 (moves_of_step hstep) (hw.2 v hv)⟩)
    ⟨hI₁, fun v hv => hv⟩ hafter
  refine ⟨hrows, fun i hi hsets => ?_, fun i hi hsets => ?_⟩
  · obtain ⟨hsettings, hplaceholder⟩ := hI.configured i k (by rw [hi]; rfl) hsets
    exact ⟨by rw [hsettings], hplaceholder⟩
  · rcases (hI.generated i k (by rw [hi]; rfl) hsets).2 with hrow | hinserted
    · exact hrow
    · have hended := (hI.own k i _ hinserted).2.2.2.2
      rw [hi] at hended
      cases hended

/-- Two replicas without secrets in their environments, that find references to change. -/
def bareReplicas (second : Bool) : Replica where
  environment _ := ""
  temporary := "temporary"
  drawn secret := (if second then "second" else "first") ++ secret.key
  changesReferences := true
  changesTargets := false

/-- The second replica starts after the first one. -/
theorem instance_secrets_agree_bare :
    ∃ w₁ w₂, exec (startupStep .plain bareReplicas) (initialStartup fun _ => none) (List.replicate 8 (.next false)) =
      some w₁ ∧ exec (startupStep .plain bareReplicas) w₁ (List.replicate 6 (.next true)) = some w₂ ∧
      w₂.phase true = .started ∧ (∀ v, w₁.shared.rows .sessionSecret = some v → w₂.shared.rows .sessionSecret = some v) ∧
      (∀ i, w₂.phase i = .started → (bareReplicas i).Sets .sessionSecret →
        (w₂.shared.settings i .sessionSecret).value = (bareReplicas i).environment .sessionSecret ∧
          InstanceSecret.sessionSecret.isPlaceholder .plain ((bareReplicas i).environment .sessionSecret) = false) ∧
      ∀ i, w₂.phase i = .started → ¬(bareReplicas i).Sets .sessionSecret →
        w₂.shared.rows .sessionSecret = some (w₂.shared.settings i .sessionSecret).value :=
  have hbefore : exec (startupStep .plain bareReplicas) (initialStartup fun _ => none)
    (List.replicate 8 (.next false)) = some _ := rfl
  have hafter : exec (startupStep .plain bareReplicas) _ (List.replicate 6 (.next true)) = some _ := rfl
  ⟨_, _, hbefore, hafter, rfl, instance_secrets_agree hbefore hafter .sessionSecret⟩

open InstanceSecretsAux in
/-- When no replica can take a step, each has started or failed: it was lost, its environment sets a placeholder, or
another replica drew and committed a secret which neither it nor the database had. That one has started, or was lost
after its first commit. -/
theorem startups_end {P : Platform} {replicas : ι → Replica} {rows₀ : InstanceSecret → Option String}
    {as : List (Act ι ι)} {w : World (InstanceDatabase ι) ι StartupPhase}
    (hrun : exec (startupStep P replicas) (initialStartup rows₀) as = some w)
    (hend : ∀ i, startupStep P replicas w (.next i) = none) (i : ι) :
    w.phase i = .started ∨ (w.phase i = .failed .lost ∧ w.shared.lost i = true) ∨
      (w.phase i = .failed .runtimeError ∧ ∃ k, (replicas i).Sets k ∧
        k.isPlaceholder P ((replicas i).environment k) = true) ∨
      w.phase i = .failed .integrityError ∧ ∃ k j, rows₀ k = none ∧ ¬(replicas i).Sets k ∧
        (w.phase j = .started ∨ w.phase j = .failed .lost) ∧ ¬(replicas j).Sets k ∧
        w.shared.rows k = some ((replicas j).drawn k) := by
  have hI := inv_of_run hrun
  -- Nobody waits: who has inserted the second secret does not, so who has inserted the first one does not either.
  have hlast : ∀ j v, w.shared.inserted .settingsEncKey ≠ some (j, v) := by
    intro j v hrow
    rcases next_eq_none (hend j) with hended | ⟨k, j', v', hphase, hinserted⟩
    · have hown := (hI.own _ _ _ hrow).2.2.2.2
      rw [hended] at hown
      cases hown
    · exact not_waiting hI hrow ⟨hphase, hinserted⟩
  have hfree : ∀ k j v, w.shared.inserted k ≠ some (j, v) := by
    intro k j v hrow
    rcases next_eq_none (hend j) with hended | ⟨k', j', v', hphase, hinserted⟩
    · have hown := (hI.own _ _ _ hrow).2.2.2.2
      rw [hended] at hown
      cases hown
    · have hhas := (hI.own _ _ _ hrow).2.2.2.1
      rw [hphase] at hhas
      cases k'
      · cases k <;> cases hhas
      · exact hlast j' v' hinserted
  rcases next_eq_none (hend i) with hended | ⟨k, j, v, -, hinserted⟩
  · cases hphase : w.phase i with
    | started => exact .inl rfl
    | failed e =>
      cases e with
      | lost => exact .inr (.inl ⟨rfl, hI.lost i hphase⟩)
      | runtimeError => exact .inr (.inr (.inl ⟨rfl, hI.runtimeError i hphase⟩))
      | integrityError =>
        obtain ⟨k, v, hsets, hnone, hrow⟩ := hI.integrityError i hphase
        rcases hI.origin k v hrow with hold | ⟨j, hj, hjsets, rfl⟩
        · rw [hnone] at hold
          cases hold
        · refine .inr (.inr (.inr ⟨rfl, k, j, hnone, hsets, ?_, hjsets, hrow⟩))
          rcases next_eq_none (hend j) with hjended | ⟨k', j', v', -, hinserted⟩
          · exact ended_of_pastCommit hj hjended
          · exact absurd hinserted (hfree k' j' v')
    | _ =>
      rw [hphase] at hended
      cases hended
  · exact absurd hinserted (hfree k j v)

/-- Both replicas find no row; the first one commits its own with its references, and is lost. -/
def bothStart : List (Act Bool Bool) :=
  List.replicate 2 (.next true) ++ List.replicate 6 (.next false) ++ [.env false, .next false, .next true]

/-- The second replica finds the secret of the first one committed, which was lost after that. -/
theorem startups_end_bare : ∃ w, exec (startupStep .plain bareReplicas)
    (initialStartup fun _ => none) bothStart = some w ∧
    (w.phase true = .started ∨ (w.phase true = .failed .lost ∧ w.shared.lost true = true) ∨
      (w.phase true = .failed .runtimeError ∧
        ∃ k, (bareReplicas true).Sets k ∧ InstanceSecret.isPlaceholder .plain k ((bareReplicas true).environment k) =
          true) ∨
      w.phase true = .failed .integrityError ∧ ∃ k j, (none : Option String) = none ∧ ¬(bareReplicas true).Sets k ∧
        (w.phase j = .started ∨ w.phase j = .failed .lost) ∧ ¬(bareReplicas j).Sets k ∧
          w.shared.rows k = some ((bareReplicas j).drawn k)) :=
  have hrun : exec (startupStep .plain bareReplicas) (initialStartup fun _ => none) bothStart = some _ := rfl
  ⟨_, hrun, startups_end hrun (by rintro (_ | _) <;> rfl) true⟩

end TeamsRehook
