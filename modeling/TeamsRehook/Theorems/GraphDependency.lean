import TeamsRehook.Lemmas.SettingValues
import TeamsRehook.Lemmas.Settings

namespace TeamsRehook

/-! ## Graph delivery always has Graph lookup -/

/-- Whether a feature is on for the committed rows, as it is by default. -/
def storedFeature (P : Platform) (rows : List AppSetting) (key : String) : Bool :=
  ((getSetting key rows).map fun row => coerceBool P row.value).getD true

/-- Graph delivery is not on while Graph lookup is off. -/
def DependencyHolds (P : Platform) (rows : List AppSetting) : Prop :=
  storedFeature P rows "graph_delivery_enabled" = true → storedFeature P rows "graph_lookup_enabled" = true

instance (P : Platform) (rows : List AppSetting) : Decidable (DependencyHolds P rows) :=
  inferInstanceAs (Decidable (_ → _))

/-- The setting is one of the two that depend on each other. -/
def GraphKey (key : String) : Prop := key = "graph_delivery_enabled" ∨ key = "graph_lookup_enabled"

instance (key : String) : Decidable (GraphKey key) := inferInstanceAs (Decidable (_ ∨ _))

/-- The change a request has checked and not finished. -/
def SettingPhase.change? : SettingPhase → Option CheckedChange
  | .checked c | .prepared c _ | .flushed c _ => some c
  | _ => none

/-- The request has not begun. -/
def SettingPhase.isIdle : SettingPhase → Bool
  | .idle => true
  | _ => false

/-- The request has checked a change of one of the two settings, and has not finished. -/
def InGraphChange (p : SettingPhase) : Prop := ∃ c ∈ p.change?, GraphKey c.key

instance : DecidablePred InGraphChange := fun p => inferInstanceAs (Decidable (∃ c ∈ p.change?, GraphKey c.key))

variable {ι κ : Type}

/-- The overrides of the process for the two settings are the committed ones. -/
def FreshCache (x : SharedSettings κ) (process : κ) : Prop :=
  x.caches process "graph_delivery_enabled" = (getSetting "graph_delivery_enabled" x.rows).map (·.value) ∧
    x.caches process "graph_lookup_enabled" = (getSetting "graph_lookup_enabled" x.rows).map (·.value)

instance (x : SharedSettings κ) (process : κ) : Decidable (FreshCache x process) := inferInstanceAs (Decidable (_ ∧ _))

/-- A request that is to check a change of one of the two settings checks it against the committed values. -/
def ChecksFresh (R : ι → κ × SettingRequest) (x : SettingsSessions ι κ) : Processes.Act ι κ → Prop
  | .next i => (x.phase i).isIdle = true → GraphKey (R i).2.change.key → FreshCache x.shared (R i).1
  | .env _ => True

instance (R : ι → κ × SettingRequest) (x : SettingsSessions ι κ) : DecidablePred (ChecksFresh R x)
  | .next i =>
    inferInstanceAs (Decidable ((x.phase i).isIdle = true → GraphKey (R i).2.change.key → FreshCache x.shared (R i).1))
  | .env _ => isTrue trivial

namespace GraphDependencyAux

open Processes SettingValuesAux

variable {P : Platform} {s : Settings} {rows rows' : List AppSetting} {c : CheckedChange} {writes : List SettingWrite}

/-- Whether a feature is on once a change is made. -/
def featureAfter (P : Platform) (rows : List AppSetting) (c : CheckedChange) (key : String) : Bool :=
  if key = c.key then (c.override.map fun value => coerceBool P value.2).getD true else storedFeature P rows key

/-- The dependency holds once the change is made. -/
def HoldsAfter (P : Platform) (rows : List AppSetting) (c : CheckedChange) : Prop :=
  featureAfter P rows c "graph_delivery_enabled" = true → featureAfter P rows c "graph_lookup_enabled" = true

/-- What is known of a request at its place. -/
def PhaseOk (P : Platform) (s : Settings) (r : SettingRequest) (rows : List AppSetting) : SettingPhase → Prop
  | .checked c => GraphKey c.key → HoldsAfter P rows c
  | .prepared c writes | .flushed c writes =>
    if GraphKey c.key then HoldsAfter P rows c ∧ changeWrites P s r.now r.updatedById rows c = .ok writes
    else ∀ w ∈ writes, ¬GraphKey w.key
  | .idle | .ended _ => True

theorem settingDefinition?_of_graphKey {key : String} (hkey : GraphKey key) :
    settingDefinition? key = some { key := key, type := .bool } := by
  rcases hkey with rfl | rfl <;> rfl

/-- The value of one of the two settings is stored as it is checked. -/
theorem serializeForStorage_of_graphKey {now : Int} {key value normalized stored : String}
    (hlower : P.lower "true" = "true" ∧ P.lower "false" = "false") (hkey : GraphKey key)
    (hvalue : validateAndNormalize P key value = .ok normalized)
    (hstored : serializeForStorage P s now key normalized = .ok stored) :
    stored = normalized := by
  have hdefinition := settingDefinition?_of_graphKey hkey
  simp only [validateAndNormalize, hdefinition] at hvalue
  simp only [serializeForStorage, validateAndNormalize, hdefinition, Option.any_some, Bool.false_eq_true,
    if_false] at hstored
  have htrue : Python.strip "true" = "true" := rfl
  have hfalse : Python.strip "false" = "false" := rfl
  rcases normalizeBool_ok hvalue with rfl | rfl
  · rw [htrue] at hstored
    simp only [normalizeBool, hlower.1] at hstored
    cases hstored
    rfl
  · rw [hfalse] at hstored
    simp only [normalizeBool, hlower.2] at hstored
    cases hstored
    rfl

/-- An accepted dependency, for the overrides with the change in them. -/
theorem holdsAfter_of_validate {process : κ} {x : SharedSettings κ} {override : Option String}
    (hfresh : FreshCache x process) (hoverride : override = c.override.map (·.2))
    (h : validateFeatureDependency P (Function.update (x.caches process) c.key override) = .ok ()) :
        HoldsAfter P x.rows c := by
  have hfeature : ∀ key, GraphKey key →
      effectiveBool P (Function.update (x.caches process) c.key override) key true = featureAfter P x.rows c key := by
    intro key hkey
    unfold effectiveBool featureAfter
    by_cases hself : key = c.key
    · subst hself
      rw [Function.update_self, if_pos rfl, hoverride, Option.map_map]
      rfl
    · have hcache : x.caches process key = (getSetting key x.rows).map (·.value) := by
        rcases hkey with rfl | rfl
        · exact hfresh.1
        · exact hfresh.2
      rw [Function.update_of_ne hself, if_neg hself, hcache, Option.map_map]
      rfl
  unfold validateFeatureDependency at h
  rw [hfeature _ (.inl rfl), hfeature _ (.inr rfl)] at h
  split at h
  · cases h
  · rename_i hnot
    intro hdelivery
    by_contra hlookup
    exact hnot ⟨hdelivery, Bool.eq_false_iff.2 hlookup⟩

/-- A change of one of the two settings that is checked against the committed values keeps the dependency. -/
theorem holdsAfter_of_check {now : Int} {process : κ} {x : SharedSettings κ} {change : SettingChange}
    (hlower : P.lower "true" = "true" ∧ P.lower "false" = "false") (hfresh : FreshCache x process)
    (hkey : GraphKey change.key) (h : checkChange P s now (x.caches process) change = .ok c) : HoldsAfter P x.rows c := by
  cases change with
  | set key value =>
    obtain ⟨_, -, h⟩ := Except.bind_eq_ok_iff.1 h
    obtain ⟨_, -, h⟩ := Except.bind_eq_ok_iff.1 h
    obtain ⟨normalized, hvalue, h⟩ := Except.bind_eq_ok_iff.1 h
    obtain ⟨stored, hstored, h⟩ := Except.bind_eq_ok_iff.1 h
    obtain ⟨_, hvalid, h⟩ := Except.bind_eq_ok_iff.1 h
    cases h
    have hsame := serializeForStorage_of_graphKey hlower hkey hvalue hstored
    exact holdsAfter_of_validate hfresh (congrArg some hsame.symm) hvalid
  | clear key =>
    obtain ⟨_, -, h⟩ := Except.bind_eq_ok_iff.1 h
    obtain ⟨_, hvalid, h⟩ := Except.bind_eq_ok_iff.1 h
    cases h
    exact holdsAfter_of_validate hfresh rfl hvalid

/-- The change that is checked is the one that is asked for. -/
theorem key_of_check {now : Int} {overrides : Overrides} {change : SettingChange}
    (h : checkChange P s now overrides change = .ok c) : c.key = change.key := by
  cases change with
  | set key value =>
    obtain ⟨_, -, h⟩ := Except.bind_eq_ok_iff.1 h
    obtain ⟨_, -, h⟩ := Except.bind_eq_ok_iff.1 h
    obtain ⟨_, -, h⟩ := Except.bind_eq_ok_iff.1 h
    obtain ⟨_, -, h⟩ := Except.bind_eq_ok_iff.1 h
    obtain ⟨_, -, h⟩ := Except.bind_eq_ok_iff.1 h
    cases h
    rfl
  | clear key =>
    obtain ⟨_, -, h⟩ := Except.bind_eq_ok_iff.1 h
    obtain ⟨_, -, h⟩ := Except.bind_eq_ok_iff.1 h
    cases h
    rfl

/-! ### What a commit leaves -/

/-- The change of another setting writes none of the two. -/
theorem not_graphKey_of_changeWrites {now : Int} {updatedById : Option Nat} (hkey : ¬GraphKey c.key)
    (h : changeWrites P s now updatedById rows c = .ok writes) : ∀ w ∈ writes, ¬GraphKey w.key := by
  unfold changeWrites at h
  split at h
  · obtain ⟨cors, hcors, h⟩ := Except.bind_eq_ok_iff.1 h
    cases h
    refine List.forall_mem_cons.2 ⟨hkey, ?_⟩
    split at hcors
    · rcases corsWrites_current hcors with rfl | ⟨w, rfl, -, hcorsKey⟩
      · exact fun w hw => absurd hw List.not_mem_nil
      · intro w' hw'
        rw [List.mem_singleton.1 hw', hcorsKey]
        decide
    · cases hcors
      exact fun w hw => absurd hw List.not_mem_nil
  · cases h
    split
    · intro w hw
      rw [List.mem_singleton.1 hw]
      exact hkey
    · exact fun w hw => absurd hw List.not_mem_nil

/-- What the change of one of the two settings is to write: its own row, or the removal of it. -/
theorem changeWrites_of_graphKey {now : Int} {updatedById : Option Nat} (hkey : GraphKey c.key) :
    changeWrites P s now updatedById rows c =
      .ok (match c.override with
        | some (_, stored) =>
          [.put (getSetting c.key rows) { key := c.key, value := stored, updatedById := updatedById, updatedAt := now }]
        | none => if (getSetting c.key rows).isSome then [.delete c.key] else []) := by
  have hurl : c.key ≠ "frontend_base_url" := by
    rcases hkey with h | h <;> rw [h] <;> decide
  unfold changeWrites
  cases c.override with
  | some override =>
    simp only [if_neg hurl, settingDefinition?_of_graphKey hkey]
    rfl
  | none => rfl

/-- The change of one of the two settings writes no other row. -/
theorem key_of_changeWrites {now : Int} {updatedById : Option Nat} (hkey : GraphKey c.key)
    (hwrites : changeWrites P s now updatedById rows c = .ok writes) : ∀ w ∈ writes, w.key = c.key := by
  rw [changeWrites_of_graphKey hkey] at hwrites
  cases hwrites
  intro w hw
  split at hw
  · rw [List.mem_singleton.1 hw]
    rfl
  · split at hw
    · rw [List.mem_singleton.1 hw]
      rfl
    · cases hw

/-- The commit of the change of one of the two settings leaves what the change is to. -/
theorem storedFeature_of_commit {now : Int} {updatedById : Option Nat} (hkeys : Table.UniqueOn (·.key) rows)
    (hkey : GraphKey c.key) (hwrites : changeWrites P s now updatedById rows c = .ok writes)
    (hflush : flushWrites rows writes = .ok rows') (key : String) :
    storedFeature P rows' key = featureAfter P rows c key := by
  obtain ⟨hcurrent, hdistinct⟩ := changeWrites_current hwrites
  obtain ⟨rows₁, hflush₁, -, hwritten, hothers⟩ := flushWrites_current hkeys hcurrent hdistinct
  rw [hflush] at hflush₁
  cases hflush₁
  have hown := key_of_changeWrites hkey hwrites
  rw [changeWrites_of_graphKey hkey] at hwrites
  unfold storedFeature featureAfter
  by_cases hself : key = c.key
  · subst hself
    rw [if_pos rfl]
    cases hoverride : c.override with
    | some value =>
      rw [hoverride] at hwrites
      cases hwrites
      rw [show getSetting c.key rows' = _ from hwritten _ List.mem_cons_self]
      rfl
    | none =>
      rw [hoverride] at hwrites
      cases hrow : getSetting c.key rows with
      | some row =>
        simp only [hrow, Option.isSome_some, if_true] at hwrites
        cases hwrites
        rw [show getSetting c.key rows' = _ from hwritten _ List.mem_cons_self]
        rfl
      | none =>
        simp only [hrow, Option.isSome_none, Bool.false_eq_true, if_false] at hwrites
        cases hwrites
        rw [hothers c.key fun w hw => absurd hw List.not_mem_nil, hrow]
        rfl
  · rw [if_neg hself, hothers key fun w hw heq => hself (heq.symm.trans (hown w hw))]
    rfl

/-! ### The steps of a request -/

variable {process : κ} {r : SettingRequest} {p p' : SettingPhase} {x x' : SharedSettings κ} [DecidableEq κ]

/-- A step leaves the committed rows, or commits what has been flushed. -/
theorem settingNext_rows (h : settingNext P s process r x p = some (x', p')) :
    x'.rows = x.rows ∨ ∃ c writes, p = .flushed c writes ∧ flushWrites x.rows writes = .ok x'.rows := by
  cases p with
  | idle =>
    simp only [settingNext] at h
    split at h <;> cases h <;> exact .inl rfl
  | checked c =>
    simp only [settingNext] at h
    split at h <;> cases h <;> exact .inl rfl
  | prepared c writes =>
    simp only [settingNext] at h
    split at h
    · cases h
    · split at h <;> cases h <;> exact .inl rfl
  | flushed c writes =>
    simp only [settingNext] at h
    split at h
    · rename_i rows hrows
      cases h
      refine .inr ⟨c, writes, rfl, ?_⟩
      unfold faulty at hrows
      split at hrows
      · cases hrows
      · exact hrows
    · cases h
      exact .inl rfl
  | ended result => cases h

/-- A step of a request leads to a place that is right for it, where the rows are as they were. -/
theorem phaseOk_next (hlower : P.lower "true" = "true" ∧ P.lower "false" = "false")
    (hfresh : p.isIdle = true → GraphKey r.change.key → FreshCache x process) (hok : PhaseOk P s r x.rows p)
    (h : settingNext P s process r x p = some (x', p')) : PhaseOk P s r x'.rows p' := by
  cases p with
  | idle =>
    simp only [settingNext] at h
    split at h
    · rename_i c hcheck
      cases h
      intro hkey
      rw [key_of_check hcheck] at hkey
      exact holdsAfter_of_check hlower (hfresh rfl hkey) hkey hcheck
    · cases h
      trivial
  | checked c =>
    simp only [settingNext] at h
    split at h
    · rename_i writes hwrites
      cases h
      simp only [PhaseOk]
      split
      · exact ⟨hok ‹_›, hwrites⟩
      · exact not_graphKey_of_changeWrites ‹_› hwrites
    · cases h
      trivial
  | prepared c writes =>
    simp only [settingNext] at h
    split at h
    · cases h
    · split at h
      · cases h
        exact hok
      · cases h
        trivial
  | flushed c writes =>
    simp only [settingNext] at h
    split at h <;> cases h <;> trivial
  | ended result => cases h

/-- A commit keeps the dependency. -/
theorem dependencyHolds_next (hkeys : Table.UniqueOn (·.key) x.rows) (hholds : DependencyHolds P x.rows)
    (hok : PhaseOk P s r x.rows p) (h : settingNext P s process r x p = some (x', p')) : DependencyHolds P x'.rows := by
  rcases settingNext_rows h with hrows | ⟨c, writes, rfl, hflush⟩
  · rw [hrows]
    exact hholds
  · simp only [PhaseOk] at hok
    split at hok
    · rename_i hkey
      obtain ⟨hafter, hwrites⟩ := hok
      have hfeature := storedFeature_of_commit (P := P) hkeys hkey hwrites hflush
      unfold DependencyHolds
      rw [hfeature, hfeature]
      exact hafter
    · have hothers : ∀ key, GraphKey key → storedFeature P x'.rows key = storedFeature P x.rows key := by
        intro key hkey
        unfold storedFeature
        rw [(flushWrites_ok hflush).2 key fun w hw heq => hok w hw (heq ▸ hkey)]
      unfold DependencyHolds
      rw [hothers _ (.inl rfl), hothers _ (.inr rfl)]
      exact hholds

/-- What is known of a request does not depend on the rows of other settings. -/
theorem phaseOk_congr (hrows : ∀ key, GraphKey key → getSetting key rows' = getSetting key rows)
    (hok : PhaseOk P s r rows p) : PhaseOk P s r rows' p := by
  have hafter : ∀ c, HoldsAfter P rows c → HoldsAfter P rows' c := by
    intro c hc
    unfold HoldsAfter featureAfter storedFeature at hc ⊢
    rw [hrows _ (.inl rfl), hrows _ (.inr rfl)]
    exact hc
  have hwritten : ∀ c writes, GraphKey c.key → changeWrites P s r.now r.updatedById rows c = .ok writes →
      changeWrites P s r.now r.updatedById rows' c = .ok writes := by
    intro c writes hkey hwrites
    rw [changeWrites_of_graphKey hkey, hrows _ hkey, ← changeWrites_of_graphKey (s := s) hkey]
    exact hwrites
  cases p with
  | checked c => exact fun hkey => hafter c (hok hkey)
  | prepared c writes | flushed c writes =>
    simp only [PhaseOk] at hok ⊢
    split
    · rename_i hkey
      rw [if_pos hkey] at hok
      exact ⟨hafter c hok.1, hwritten c writes hkey hok.2⟩
    · rename_i hkey
      rw [if_neg hkey] at hok
      exact hok
  | idle | ended => trivial

/-- What is known of a request still holds after a step of another one, when not both change one of the two settings. -/
theorem phaseOk_others {r' : SettingRequest} {q : SettingPhase} (hok : PhaseOk P s r x.rows p)
    (h : settingNext P s process r x p = some (x', p')) (hone : InGraphChange q → ¬InGraphChange p)
    (hq : PhaseOk P s r' x.rows q) : PhaseOk P s r' x'.rows q := by
  rcases settingNext_rows h with hrows | ⟨c, writes, rfl, hflush⟩
  · rw [hrows]
    exact hq
  · by_cases hkey : GraphKey c.key
    · have hnot : ¬InGraphChange q := fun hin => hone hin ⟨c, rfl, hkey⟩
      cases q with
      | checked d => exact fun hd => absurd ⟨d, rfl, hd⟩ hnot
      | prepared d writes | flushed d writes =>
        have hd : ¬GraphKey d.key := fun hd => hnot ⟨d, rfl, hd⟩
        simp only [PhaseOk, if_neg hd] at hq ⊢
        exact hq
      | idle | ended => trivial
    · simp only [PhaseOk, if_neg hkey] at hok
      exact phaseOk_congr (fun key hgraph => (flushWrites_ok hflush).2 key fun w hw heq => hok w hw (heq ▸ hgraph)) hq

end GraphDependencyAux

open GraphDependencyAux Processes Transition in
/-- Any number of requests of any kind, in any number of processes with overrides of their own and in any order of their
steps: Graph delivery is never on in the committed rows while Graph lookup is off, as long as no two requests at once
have checked a change of one of the two settings and not finished, and each such check is made in a process whose
overrides for the two are the committed ones. -/
theorem graph_dependency_kept {ι κ : Type} [DecidableEq ι] [DecidableEq κ] (P : Platform) (s : Settings)
    (hlower : P.lower "true" = "true" ∧ P.lower "false" = "false") (R : ι → κ × SettingRequest) (rows : List AppSetting)
    (caches : κ → Overrides) (hkeys : Table.UniqueOn (·.key) rows) (hholds : DependencyHolds P rows)
    (acts : List (Act ι κ)) (x : SettingsSessions ι κ)
    (hmeets : Meets (settingStep P s R) (fun x a => AtMostOne InGraphChange x.phase ∧ ChecksFresh R x a)
      (.initial rows caches) acts)
    (hrun : exec (settingStep P s R) (.initial rows caches) acts = some x) : DependencyHolds P x.shared.rows := by
  have hinv := World.exec_invariant (I := fun x => Table.UniqueOn (·.key) x.rows ∧ DependencyHolds P x.rows)
    (Q := fun i x p => PhaseOk P s (R i).2 x.rows p) ?hown ?hothers ?henv ⟨hkeys, hholds⟩ ?hinitial hmeets hrun
  case hinitial => exact fun _ => trivial
  case hown =>
    rintro x i x' p' ⟨hkeys, hholds⟩ hQ ⟨-, hfresh⟩ hnext
    refine ⟨⟨?_, dependencyHolds_next hkeys hholds (hQ i) hnext⟩, phaseOk_next hlower hfresh (hQ i) hnext⟩
    rcases settingNext_rows hnext with hrows | ⟨c, writes, -, hflush⟩
    · rw [hrows]
      exact hkeys
    · exact (flushWrites_ok hflush).1 hkeys
  case hothers =>
    rintro x i x' p' j - hQ ⟨hone, -⟩ hnext hji
    exact phaseOk_others (hQ i) hnext (fun hj hi => hji (hone j i hj hi)) (hQ j)
  case henv =>
    rintro x process x' hI hQ hreload
    unfold reload at hreload
    split at hreload
    · cases hreload
      exact ⟨hI, hQ⟩
    · cases hreload
  exact hinv.1.2

/-- The row of Graph delivery, which is off. -/
def deliveryOff : List AppSetting := [{ key := "graph_delivery_enabled", value := "false" }]

/-- The overrides of one process, for that row. -/
def deliveryOffCache : Unit → Overrides :=
  fun _ => Function.update (fun _ => none) "graph_delivery_enabled" (some "false")

/-- One request switches Graph delivery on, and one Graph lookup off. -/
def crossingSwitches : Fin 2 → Unit × SettingRequest
  | 0 => ((), { change := .set "graph_delivery_enabled" "true" })
  | 1 => ((), { change := .set "graph_lookup_enabled" "false" })

/-- One request to its end, and then the other one, which is refused. -/
theorem graph_dependency_kept_oneByOne :
    ∃ x, Transition.exec (settingStep .plain {} crossingSwitches) (.initial deliveryOff deliveryOffCache)
        (List.replicate 4 (.next 0) ++ [.next 1]) = some x ∧
      DependencyHolds .plain x.shared.rows :=
  ⟨_, rfl, graph_dependency_kept .plain {} ⟨rfl, rfl⟩ crossingSwitches deliveryOff deliveryOffCache
    (by decide) (by decide)
    (List.replicate 4 (.next 0) ++ [.next 1]) _ (by decide) rfl⟩

/-- Two requests that check the dependency before either is flushed leave Graph delivery on and Graph lookup off. -/
theorem graph_dependency_broken :
    DependencyHolds .plain deliveryOff ∧
      ∃ x, Transition.exec (settingStep .plain {} crossingSwitches) (.initial deliveryOff deliveryOffCache)
          ([.next 0, .next 1] ++ List.replicate 3 (.next 0) ++ List.replicate 3 (.next 1)) = some x ∧
        ¬DependencyHolds .plain x.shared.rows :=
  ⟨by decide, _, rfl, by decide⟩

end TeamsRehook
