import TeamsRehook.Lemmas.Settings

namespace TeamsRehook

/-! ## Settings in force are the committed settings -/

/-- The overrides of the process are those of the committed rows. -/
def SettingsProcess.InForce (P : Platform) (s : Settings) (x : SettingsProcess) : Prop :=
  loadOverrides P s x.rows = .ok x.cache

/-- The override a write makes. -/
def SettingWrite.override (P : Platform) (s : Settings) (w : SettingWrite) : Except Exn (Option String) :=
  decodedRow P s none w.row

/-- The request is accepted, and writes an override that differs from the one in force. -/
def SettingRequest.AltersOverrides (P : Platform) (s : Settings) (r : SettingRequest) (x : SettingsProcess) : Prop :=
  ∃ c writes, checkChange P s r.now x.cache r.change = .ok c ∧
    changeWrites P s r.now r.updatedById x.rows c = .ok writes ∧ (∀ w ∈ writes, ∃ value, w.override P s = .ok value) ∧
      ∃ w ∈ writes, w.override P s ≠ .ok (x.cache w.key)

namespace SettingsInForceAux

variable {P : Platform} {s : Settings} {r : SettingRequest} {x : SettingsProcess} {rows' : List AppSetting}
    {writes : List SettingWrite}

/-- The rows that are flushed make overrides exactly when each write does. -/
theorem loadOverrides_flushed (hin : x.InForce P s) (hkeys : Table.UniqueOn (·.key) x.rows)
    (hkeys' : Table.UniqueOn (·.key) rows') (hwritten : ∀ w ∈ writes, getSetting w.key rows' = w.row)
    (hothers : ∀ key, (∀ w ∈ writes, w.key ≠ key) → getSetting key rows' = getSetting key x.rows) (c : Overrides) :
    loadOverrides P s rows' = .ok c ↔
      (∀ w ∈ writes, w.override P s = .ok (c w.key)) ∧ ∀ key, (∀ w ∈ writes, w.key ≠ key) → c key = x.cache key := by
  have hin' := (loadOverrides_eq_ok_iff hkeys).1 hin
  rw [loadOverrides_eq_ok_iff hkeys']
  constructor
  · intro h
    refine ⟨fun w hw => ?_, fun key hkey => ?_⟩
    · rw [SettingWrite.override, ← hwritten w hw]
      exact h w.key
    · have hkept := h key
      rw [hothers key hkey, hin' key] at hkept
      exact (Except.ok.inj hkept).symm
  · rintro ⟨hw, hkept⟩ key
    by_cases hkey : ∃ w ∈ writes, w.key = key
    · obtain ⟨w, hmem, rfl⟩ := hkey
      rw [hwritten w hmem]
      exact hw w hmem
    · have hne : ∀ w ∈ writes, w.key ≠ key := fun w hmem heq => hkey ⟨w, hmem, heq⟩
      rw [hothers key hne, hin' key, hkept key hne]

/-- An accepted request alters an override when the rows it has flushed make other overrides. -/
theorem altersOverrides_iff {change : CheckedChange} (hin : x.InForce P s) (hkeys : Table.UniqueOn (·.key) x.rows)
    (hkeys' : Table.UniqueOn (·.key) rows') (hcheck : checkChange P s r.now x.cache r.change = .ok change)
    (hwrites : changeWrites P s r.now r.updatedById x.rows change = .ok writes)
    (hwritten : ∀ w ∈ writes, getSetting w.key rows' = w.row)
    (hothers : ∀ key, (∀ w ∈ writes, w.key ≠ key) → getSetting key rows' = getSetting key x.rows) :
    r.AltersOverrides P s x ↔ ∃ c, loadOverrides P s rows' = .ok c ∧ c ≠ x.cache := by
  have hflushed := loadOverrides_flushed hin hkeys hkeys' hwritten hothers
  constructor
  · rintro ⟨change', writes', hcheck', hwrites', hall, w, hw, hne⟩
    rw [hcheck] at hcheck'
    cases hcheck'
    rw [hwrites] at hwrites'
    cases hwrites'
    have hvalues : ∀ key, ∃ value, decodedRow P s none (getSetting key rows') = .ok value := by
      intro key
      by_cases hkey : ∃ w ∈ writes, w.key = key
      · obtain ⟨w, hmem, rfl⟩ := hkey
        rw [hwritten w hmem]
        exact hall w hmem
      · rw [hothers key fun w hmem heq => hkey ⟨w, hmem, heq⟩]
        exact ⟨_, (loadOverrides_eq_ok_iff hkeys).1 hin key⟩
    choose c hc using hvalues
    have hload : loadOverrides P s rows' = .ok c := (loadOverrides_eq_ok_iff hkeys').2 hc
    refine ⟨c, hload, ?_⟩
    rintro rfl
    exact hne (((hflushed _).1 hload).1 w hw)
  · rintro ⟨c, hload, hne⟩
    obtain ⟨hw, hkept⟩ := (hflushed c).1 hload
    refine ⟨change, writes, hcheck, hwrites, fun w hmem => ⟨_, hw w hmem⟩, ?_⟩
    by_contra hall
    refine hne (funext fun key => ?_)
    by_cases hkey : ∃ w ∈ writes, w.key = key
    · obtain ⟨w, hmem, rfl⟩ := hkey
      have hsame : w.override P s = .ok (x.cache w.key) := by
        by_contra hdiffers
        exact hall ⟨w, hmem, hdiffers⟩
      exact Except.ok.inj ((hw w hmem).symm.trans hsame)
    · exact hkept key fun w hmem heq => hkey ⟨w, hmem, heq⟩

end SettingsInForceAux

open SettingsInForceAux in
/-- A request to change a setting, in a process whose overrides are those of the committed rows: they are so when the
request has ended exactly when it is not one that alters an override and fails in recording the audit event or in its
commit. -/
theorem settings_in_force_iff (P : Platform) (s : Settings) (r : SettingRequest) (x : SettingsProcess)
    (hkeys : Table.UniqueOn (·.key) x.rows) (hin : x.InForce P s) :
    (handleSetting P s r x).1.InForce P s ↔ ¬(r.FailsAfterLoad ∧ r.AltersOverrides P s x) := by
  cases hcheck : checkChange P s r.now x.cache r.change with
  | error e =>
    have hnot : ¬r.AltersOverrides P s x := by
      rintro ⟨change, -, hcheck', -⟩
      cases hcheck.symm.trans hcheck'
    simp [handleSetting, hcheck, bind, Except.bind, hin, hnot]
  | ok change =>
    cases hwrites : changeWrites P s r.now r.updatedById x.rows change with
    | error e =>
      have hnot : ¬r.AltersOverrides P s x := by
        rintro ⟨change', writes, hcheck', hwrites', -⟩
        rw [hcheck] at hcheck'
        cases hcheck'
        cases hwrites.symm.trans hwrites'
      simp [handleSetting, hcheck, hwrites, bind, Except.bind, hin, hnot]
    | ok writes =>
      obtain ⟨hcurrent, hdistinct⟩ := changeWrites_current hwrites
      obtain ⟨rows', hflush, hkeys', hwritten, hothers⟩ := flushWrites_current hkeys hcurrent hdistinct
      rw [altersOverrides_iff hin hkeys hkeys' hcheck hwrites hwritten hothers]
      simp only [handleSetting, hcheck, hwrites, hflush, bind, Except.bind]
      by_cases hfails : r.FailsAfterLoad
      · -- The fault is neither that of the flush nor that of the load: the process has loaded what is then rolled back.
        have hnoFlush : ¬r.fault = some SettingFault.flush := by rcases hfails with h | h <;> simp [h]
        have hnoLoad : ¬r.fault = some SettingFault.load := by rcases hfails with h | h <;> simp [h]
        simp only [faulty, if_neg hnoFlush, if_neg hnoLoad]
        cases hload : loadOverrides P s rows' with
        | error e => simpa using hin
        | ok cache =>
          have hrows : loadOverrides P s x.rows = .ok x.cache := hin
          simp only [pure, Except.pure, hfails, if_true, SettingsProcess.InForce, hrows, Except.ok.injEq, true_and]
          exact ⟨fun heq ⟨c, hc, hne⟩ => hne (hc.symm.trans heq.symm), fun h => by_contra fun hne =>
            h ⟨cache, rfl, Ne.symm hne⟩⟩
      · -- Every earlier fault leaves the process as it was, and a request that does not fail commits what it has loaded.
        refine iff_of_true ?_ fun h => hfails h.1
        by_cases hfault : r.fault = some SettingFault.flush
        · simpa [faulty, hfault] using hin
        by_cases hfault' : r.fault = some SettingFault.load
        · simpa [faulty, hfault, hfault'] using hin
        simp only [faulty, if_neg hfault, if_neg hfault']
        cases hload : loadOverrides P s rows' with
        | error e => exact hin
        | ok cache => simpa [SettingsProcess.InForce, pure, Except.pure, hfails] using hload

/-- Abuse blocking is switched off. -/
def disableBlocking (fault : Option SettingFault) : SettingRequest :=
  { change := .set "webhook_abuse_blocking_enabled" "false", fault := fault }

/-- A process that starts with no row. -/
def noOverrides : SettingsProcess := ⟨[], fun _ => none⟩

/-- A request that the database does not fail. -/
theorem settings_in_force_committed :
    (handleSetting .plain {} (disableBlocking none) noOverrides).1.InForce .plain {} ↔
      ¬((disableBlocking none).FailsAfterLoad ∧ (disableBlocking none).AltersOverrides .plain {} noOverrides) :=
  settings_in_force_iff .plain {} (disableBlocking none) noOverrides (by decide) rfl

/-- A request whose commit fails leaves abuse blocking switched off in the process, and no row that says so. -/
theorem settings_not_in_force_commitFailed :
    noOverrides.InForce .plain {} ∧
      (handleSetting .plain {} (disableBlocking (some .commit)) noOverrides).1.rows = [] ∧
      (handleSetting .plain {} (disableBlocking (some .commit)) noOverrides).1.cache "webhook_abuse_blocking_enabled" =
      some "false" ∧ ¬(handleSetting .plain {} (disableBlocking (some .commit)) noOverrides).1.InForce .plain {} := by
  refine ⟨rfl, rfl, rfl, fun h => ?_⟩
  have hcache := congrFun (Except.ok.inj h) "webhook_abuse_blocking_enabled"
  exact absurd hcache (by decide)

end TeamsRehook
