import TeamsRehook.Lemmas.SettingValues
import TeamsRehook.SettingsOverrides
import TeamsRehook.LogRetention
import TeamsRehook.Lib.Except

namespace TeamsRehook

/-! ## Accepted settings and the ranges of dates -/

/-- The start of the year 9001. -/
def year9001 : Int := 221876928000000000

/-- An override of an `int` setting in force was accepted. -/
def AcceptedOverride (P : Platform) (overrides : Overrides) (key : String) : Prop :=
  ∃ value normalized, validateAndNormalize P key value = .ok normalized ∧ overrides key = some normalized

namespace DateRangesAux

open SettingValuesAux

variable {P : Platform} {s base : Settings} {overrides : Overrides} {now : Int}

/-- The value in force of an accepted `int` setting has passed the lower bounds. -/
theorem effectiveInt_of_accepted {key : String} {value n : Int}
    (hint : ∀ text n, P.intOfText text = some n → P.intOfText (toString n) = some n)
    (hdefinition : settingDefinition? key = some { key := key, type := .int })
    (haccepted : AcceptedOverride P overrides key) (h : effectiveInt P overrides key value = .ok n) :
    (key = "log_retention_days" → 0 ≤ n) ∧
      (key = "log_cleanup_interval_minutes" ∨ key = "webhook_abuse_window_minutes" → 1 ≤ n) := by
  obtain ⟨text, normalized, hvalue, hoverride⟩ := haccepted
  simp only [validateAndNormalize, hdefinition] at hvalue
  obtain ⟨m, hm, rfl, hbounds⟩ := normalizeInt_ok hvalue
  simp only [effectiveInt, hoverride, coerceInt, hint _ _ hm] at h
  cases h
  exact hbounds

/-- The settings in force that the consumers read, when the overrides of the three were accepted. -/
theorem settings_of_accepted (hint : ∀ text n, P.intOfText text = some n → P.intOfText (toString n) = some n)
    (hretention : AcceptedOverride P overrides "log_retention_days")
    (hinterval : AcceptedOverride P overrides "log_cleanup_interval_minutes")
    (hwindow : AcceptedOverride P overrides "webhook_abuse_window_minutes")
    (h : getEffectiveSettings P base overrides = .ok s) :
    0 ≤ s.logRetentionDays ∧ 1 ≤ s.logCleanupIntervalMinutes ∧ 1 ≤ s.webhookAbuseWindowMinutes := by
  obtain ⟨_, -, h⟩ := Except.bind_eq_ok_iff.1 h
  obtain ⟨_, -, h⟩ := Except.bind_eq_ok_iff.1 h
  obtain ⟨window, hwindow', h⟩ := Except.bind_eq_ok_iff.1 h
  obtain ⟨retention, hretention', h⟩ := Except.bind_eq_ok_iff.1 h
  obtain ⟨interval, hinterval', h⟩ := Except.bind_eq_ok_iff.1 h
  obtain ⟨_, -, h⟩ := Except.bind_eq_ok_iff.1 h
  cases h
  exact ⟨(effectiveInt_of_accepted hint rfl hretention hretention').1 rfl,
    (effectiveInt_of_accepted hint rfl hinterval hinterval').2 (.inl rfl),
    (effectiveInt_of_accepted hint rfl hwindow hwindow').2 (.inr rfl)⟩

theorem inRange_ok_iff {α : Type} {value : Option α} : (∃ a, inRange value = .ok a) ↔ value.isSome := by
  cases value <;> simp [inRange]

/-- The cleanup stays in range when its cutoff does, and the time of the next one that it compares with. -/
theorem cleanup_ok_iff {force : Bool} {last : Option Int} {db : Database} (hdays : 0 ≤ s.logRetentionDays)
    (hinterval : 1 ≤ s.logCleanupIntervalMinutes) (hnow : now ≤ Datetime.maxTime)
    (hlast : ∀ t ∈ last, Datetime.minTime ≤ t) :
    (∃ r, cleanupLogEvents s now force last db = .ok r) ↔
      Datetime.minTime ≤ now - days s.logRetentionDays ∧
        (force = false → ∀ t ∈ last, t + minutes s.logCleanupIntervalMinutes ≤ Datetime.maxTime) := by
  have hcutoff : (∃ cutoff, timeBefore now (days (max 0 s.logRetentionDays)) = .ok cutoff) ↔
      Datetime.minTime ≤ now - days s.logRetentionDays := by
    rw [max_eq_right hdays, timeBefore, inRange_ok_iff, Datetime.sub_isSome_iff hnow (by unfold days; omega)]
  have hskip : (∃ skipped, skipsCleanup s now force last = .ok skipped) ↔
      (force = false → ∀ t ∈ last, t + minutes s.logCleanupIntervalMinutes ≤ Datetime.maxTime) := by
    cases force with
    | true => simp [skipsCleanup]
    | false =>
      cases last with
      | none => simp [skipsCleanup]
      | some t =>
        have hnext : (∃ next, timeAfter t (minutes (max 1 s.logCleanupIntervalMinutes)) = .ok next) ↔
            t + minutes s.logCleanupIntervalMinutes ≤ Datetime.maxTime := by
          rw [max_eq_right hinterval, timeAfter, inRange_ok_iff,
            Datetime.add_isSome_iff (hlast t rfl) (by unfold minutes; omega)]
        simp only [skipsCleanup, Except.bind_eq_ok_iff, pure, Except.pure, Except.ok.injEq, Option.mem_def,
          Option.some.injEq, forall_eq', forall_const]
        rw [← hnext]
        exact ⟨fun ⟨_, next, h, _⟩ => ⟨next, h⟩, fun ⟨next, h⟩ => ⟨_, next, h, rfl⟩⟩
  rw [← hcutoff, ← hskip]
  unfold cleanupLogEvents
  constructor
  · rintro ⟨r, h⟩
    obtain ⟨cutoff, hcutoff, h⟩ := Except.bind_eq_ok_iff.1 h
    obtain ⟨skipped, hskipped, -⟩ := Except.bind_eq_ok_iff.1 h
    exact ⟨⟨cutoff, hcutoff⟩, skipped, hskipped⟩
  · rintro ⟨⟨cutoff, hcutoff⟩, skipped, hskipped⟩
    simp only [hcutoff, hskipped, bind, Except.bind]
    cases skipped <;> exact ⟨_, rfl⟩

/-- A block that is not longer than the longest one ends in range. -/
theorem blockEnd_ok {b : WebhookAbuseBucket} (hinitial : 0 ≤ s.webhookAbuseInitialBlockMinutes)
    (hlongest : 0 ≤ s.webhookAbuseMaxBlockMinutes) (hnow : Datetime.minTime ≤ now)
    (hend : now + minutes s.webhookAbuseMaxBlockMinutes ≤ Datetime.maxTime) : blockEnd s now b = .ok () := by
  have hduration : 0 ≤ blockDuration s b.blockCount ∧
      blockDuration s b.blockCount ≤ minutes s.webhookAbuseMaxBlockMinutes := by
    have hpow : (0 : Int) ≤ 60 * 2 ^ (b.blockCount - 2).toNat := Int.mul_nonneg (by decide) (pow_nonneg (by decide) _)
    simp only [blockDuration, minutes]
    constructor
    · refine Int.mul_nonneg (le_min ?_ hlongest) (by decide)
      split
      · exact hinitial
      · split
        · decide
        · exact le_min hlongest hpow
    · exact Int.mul_le_mul_of_nonneg_right (min_le_right _ _) (by decide)
  unfold blockEnd
  split
  · have hok : ∃ t, timeAfter now (blockDuration s b.blockCount) = .ok t := by
      rw [timeAfter, inRange_ok_iff, Datetime.add_isSome_iff hnow hduration.1]
      omega
    obtain ⟨t, ht⟩ := hok
    rw [ht]
    rfl
  · rfl

/-- Recording a failure stays in range when the window does, and does what `record_failure` does. -/
theorem recordFailureInRange_eq {P : Platform} {clientHost reason : String} {routeTokenHash : Option String}
    {st : AbuseStore} (hblock : ∀ b, blockEnd s now b = .ok ())
    (hwindow : (Datetime.timedelta (minutes s.webhookAbuseWindowMinutes)).isSome) :
    recordFailureInRange P s now clientHost routeTokenHash reason st =
      .ok (recordFailure P s now clientHost routeTokenHash reason st) := by
  obtain ⟨window, hwindow⟩ := Option.isSome_iff_exists.1 hwindow
  have hloop : ∀ (scopes : List (Scope × Option String)) (acc : AbuseStore × List WebhookAbuseBucket),
      scopes.foldlM (recordScopeInRange P s now clientHost reason) acc =
        .ok (scopes.foldl (fun acc scope =>
          let r := recordScopeFailure P s now clientHost reason acc.1 scope
          (r.1, acc.2 ++ [r.2])) acc) := by
    intro scopes
    induction scopes with
    | nil => exact fun _ => rfl
    | cons scope scopes ih =>
      intro acc
      have hscope : recordScopeInRange P s now clientHost reason acc scope =
          .ok ((recordScopeFailure P s now clientHost reason acc.1 scope).1,
            acc.2 ++ [(recordScopeFailure P s now clientHost reason acc.1 scope).2]) := by
        unfold recordScopeInRange
        simp only [hblock]
        rfl
      rw [List.foldlM_cons, List.foldl_cons, hscope]
      exact ih _
  unfold recordFailureInRange recordFailure
  split
  · rfl
  · rw [hwindow]
    exact hloop _ _

theorem list_ok_iff {limit : Nat} {st : AbuseStore} (hwindow : 1 ≤ s.webhookAbuseWindowMinutes)
    (hnow : now ≤ Datetime.maxTime) :
    (∃ r, listWebhookAbuseBuckets s now limit st = .ok r) ↔
    Datetime.minTime ≤ now - minutes s.webhookAbuseWindowMinutes := by
  have hcutoff : (∃ cutoff, timeBefore now (minutes s.webhookAbuseWindowMinutes) = .ok cutoff) ↔
      Datetime.minTime ≤ now - minutes s.webhookAbuseWindowMinutes := by
    rw [timeBefore, inRange_ok_iff, Datetime.sub_isSome_iff hnow (by unfold minutes; omega)]
  rw [← hcutoff]
  unfold listWebhookAbuseBuckets
  constructor
  · rintro ⟨r, h⟩
    obtain ⟨cutoff, hcutoff, -⟩ := Except.bind_eq_ok_iff.1 h
    exact ⟨cutoff, hcutoff⟩
  · rintro ⟨cutoff, hcutoff⟩
    simp only [hcutoff, bind, Except.bind]
    exact ⟨_, rfl⟩

end DateRangesAux

open DateRangesAux in
/-- For accepted values of the three settings, every time from 1970 to 9000 and every time of the last cleanup before
it, and blocks that end in range: the cleanup of the logs, the recording of a failure and the list of the buckets stay
in Python's ranges exactly when the retention and the abuse window do not reach before the year 1, and the next cleanup
that a cleanup waits for is not after the year 9999. -/
theorem consumers_in_range_iff (P : Platform) (base s : Settings) (overrides : Overrides)
    (hint : ∀ text n, P.intOfText text = some n → P.intOfText (toString n) = some n)
    (hretention : AcceptedOverride P overrides "log_retention_days")
    (hinterval : AcceptedOverride P overrides "log_cleanup_interval_minutes")
    (hwindow : AcceptedOverride P overrides "webhook_abuse_window_minutes")
    (hs : getEffectiveSettings P base overrides = .ok s) (now : Int) (hnow : 0 ≤ now) (hnow' : now < year9001)
    (last : Option Int) (hlast : ∀ t ∈ last, 0 ≤ t ∧ t ≤ now) (hinitial : 0 ≤ s.webhookAbuseInitialBlockMinutes)
    (hlongest : 0 ≤ s.webhookAbuseMaxBlockMinutes) (hend : now + minutes s.webhookAbuseMaxBlockMinutes ≤ Datetime.maxTime)
    (force : Bool) (db : Database) (clientHost reason : String) (routeTokenHash : Option String) (st : AbuseStore)
    (limit : Nat) :
    ((∃ r, cleanupLogEvents s now force last db = .ok r) ∧
        (∃ r, recordFailureInRange P s now clientHost routeTokenHash reason st = .ok r) ∧
        ∃ r, listWebhookAbuseBuckets s now limit st = .ok r) ↔
      Datetime.minTime ≤ now - days s.logRetentionDays ∧
        (force = false → ∀ t ∈ last, t + minutes s.logCleanupIntervalMinutes ≤ Datetime.maxTime) ∧
        Datetime.minTime ≤ now - minutes s.webhookAbuseWindowMinutes := by
  obtain ⟨hdays, hminutes, hwindow⟩ := settings_of_accepted hint hretention hinterval hwindow hs
  have hmax : now ≤ Datetime.maxTime := by
    unfold year9001 at hnow'
    unfold Datetime.maxTime
    omega
  have hmin : ∀ t, 0 ≤ t → Datetime.minTime ≤ t := fun t ht => le_trans (by decide) ht
  rw [cleanup_ok_iff hdays hminutes hmax fun t ht => hmin t (hlast t ht).1, list_ok_iff hwindow hmax, and_assoc]
  refine and_congr_right fun _ => and_congr_right fun _ => ⟨And.right, fun hcutoff => ⟨?_, hcutoff⟩⟩
  have hduration : (Datetime.timedelta (minutes s.webhookAbuseWindowMinutes)).isSome := by
    rw [Datetime.timedelta_of_bounds (by unfold minutes; omega) (by omega)]
    rfl
  exact ⟨_, recordFailureInRange_eq (fun b => blockEnd_ok hinitial hlongest (hmin now hnow) hend) hduration⟩

/-- A platform that knows four integers. -/
def Platform.fourIntegers : Platform :=
  { Platform.plain with
    intOfText := fun text =>
      if text = "7" then some 7 else if text = "10" then some 10 else if text = "60" then some 60
      else if text = "1000000" then some 1000000 else none }

/-- The overrides of the three settings. -/
def dateOverrides (retention : String) : Overrides := fun key =>
  if key = "log_retention_days" then some retention
  else if key = "log_cleanup_interval_minutes" then some "60"
  else if key = "webhook_abuse_window_minutes" then some "10"
  else none

/-- The start of the year 2026. -/
def year2026 : Int := 1767225600000000

/-- A retention of seven days. -/
theorem consumers_in_range_sevenDays :
    ((∃ r, cleanupLogEvents {} year2026 false (some 0) {} = .ok r) ∧
        (∃ r, recordFailureInRange .fourIntegers {} year2026 "203.0.113.42" none "invalid" .empty = .ok r) ∧
        ∃ r, listWebhookAbuseBuckets {} year2026 100 .empty = .ok r) ↔
      Datetime.minTime ≤ year2026 - days 7 ∧
        (false = false → ∀ t ∈ some 0, t + minutes 60 ≤ Datetime.maxTime) ∧
        Datetime.minTime ≤ year2026 - minutes 10 := by
  refine consumers_in_range_iff .fourIntegers {} {} (dateOverrides "7") ?_ ⟨"7", "7", rfl, rfl⟩ ⟨"60", "60", rfl, rfl⟩
    ⟨"10", "10", rfl, rfl⟩ rfl year2026 (by decide) (by decide) (some 0) (by simp [year2026]) (by decide)
    (by decide) (by decide)
    false {} "203.0.113.42" "invalid" none .empty 100
  intro text n h
  simp only [Platform.fourIntegers] at h
  split at h
  · cases h
    rfl
  split at h
  · cases h
    rfl
  split at h
  · cases h
    rfl
  split at h
  · cases h
    rfl
  · cases h

/-- A retention of a million days is accepted, and then every cleanup of the logs raises. -/
theorem cleanup_overflow_millionDays :
    validateAndNormalize .fourIntegers "log_retention_days" "1000000" = .ok "1000000" ∧
      ∃ s, getEffectiveSettings .fourIntegers {} (dateOverrides "1000000") = .ok s ∧
        cleanupLogEvents s year2026 true none {} = .error .overflowError :=
  ⟨rfl, _, rfl, rfl⟩

end TeamsRehook
