import TeamsRehook.Abuse

/-!
# Bucket cleanup

The cleanup deletes the old buckets that have no block. A block that has expired is only cleared when its client comes
back, so a bucket whose client does not come back is never deleted.
-/

namespace TeamsRehook

open Transition

/-- What the cleanup at a time is to do: of the buckets last seen before the cutoff only those remain whose block is
still in force, and no bucket is removed that was seen since the cutoff or is still blocked. -/
def CleanupLaw (s : Settings) (now : Int) (before after : AbuseStore) : Prop :=
  (∀ b ∈ after.rows, b.lastSeenAt < now - days s.webhookAbuseCleanupDays → b.blockedAt now = true) ∧
    ∀ b ∈ before.rows, now - days s.webhookAbuseCleanupDays ≤ b.lastSeenAt ∨ b.blockedAt now = true → b ∈ after.rows

/-- The client of every bucket whose block has expired was seen since the cutoff. -/
def ExpiredBlocksSeen (s : Settings) (now : Int) (st : AbuseStore) : Prop :=
  ∀ b ∈ st.rows, ∀ blockedUntil, b.blockedUntil = some blockedUntil → blockedUntil ≤ now →
    now - days s.webhookAbuseCleanupDays ≤ b.lastSeenAt

namespace BucketCleanupAux

variable {s : Settings} {now : Int} {b : WebhookAbuseBucket} {st : AbuseStore}

/-- A bucket remains when it was seen since the cutoff or has a block, expired or not. -/
theorem mem_cleanupBuckets : b ∈ (cleanupBuckets s now st).rows ↔
    b ∈ st.rows ∧ (now - days s.webhookAbuseCleanupDays ≤ b.lastSeenAt ∨ ∃ blockedUntil, b.blockedUntil =
      some blockedUntil) := by
  rw [cleanupBuckets, Table.mem_delete]
  refine and_congr_right fun _ => ?_
  rw [Bool.and_eq_false_iff, decide_eq_false_iff_not, not_lt]
  cases b.blockedUntil <;> simp

/-- A bucket that is blocked has a block. -/
theorem blockedAt_iff : b.blockedAt now = true ↔ ∃ blockedUntil, b.blockedUntil = some blockedUntil ∧
    now < blockedUntil := by
  unfold WebhookAbuseBucket.blockedAt
  cases b.blockedUntil <;> simp

/-- The cleanup does what it is to do exactly when no expired block is that of a bucket last seen before the cutoff. -/
theorem cleanupLaw_iff : CleanupLaw s now st (cleanupBuckets s now st) ↔ ExpiredBlocksSeen s now st := by
  constructor
  · intro h b hb blockedUntil hblock hexpired
    by_contra hold
    have hmem : b ∈ (cleanupBuckets s now st).rows := mem_cleanupBuckets.2 ⟨hb, .inr ⟨blockedUntil, hblock⟩⟩
    obtain ⟨blockedUntil', hblock', hlater⟩ := blockedAt_iff.1 (h.1 b hmem (not_le.1 hold))
    cases hblock.symm.trans hblock'
    exact absurd hlater (not_lt.2 hexpired)
  · intro h
    constructor
    · intro b hb hold
      obtain ⟨hmem, hseen | ⟨blockedUntil, hblock⟩⟩ := mem_cleanupBuckets.1 hb
      · exact absurd hold (not_lt.2 hseen)
      · refine blockedAt_iff.2 ⟨blockedUntil, hblock, ?_⟩
        by_contra hexpired
        exact absurd hold (not_lt.2 (h b hmem blockedUntil hblock (not_lt.1 hexpired)))
    · rintro b hb (hseen | hblocked)
      · exact mem_cleanupBuckets.2 ⟨hb, .inl hseen⟩
      · obtain ⟨blockedUntil, hblock, -⟩ := blockedAt_iff.1 hblocked
        exact mem_cleanupBuckets.2 ⟨hb, .inr ⟨blockedUntil, hblock⟩⟩

end BucketCleanupAux

open BucketCleanupAux

/-- After every run of requests, unblocks and cleanups, a cleanup does what it is to do exactly when the client of every
bucket whose block has expired was seen since the cutoff. -/
theorem bucket_cleanup_complete_iff (P : Platform) (s : Settings) {clock now : Int} {ops : List AbuseOp} {x' : AbuseState}
    (hrun : exec (abuseStep P s) (AbuseState.initial clock) (ops ++ [.cleanup now]) = some x') :
    ∃ x, exec (abuseStep P s) (AbuseState.initial clock) ops = some x ∧
      (CleanupLaw s now x.store x'.store ↔ ExpiredBlocksSeen s now x.store) := by
  rw [exec_append, Option.bind_eq_some_iff] at hrun
  obtain ⟨x, hops, hcleanup⟩ := hrun
  obtain ⟨x₁, hstep, hend⟩ := exec_cons_eq_some.1 hcleanup
  cases hend
  obtain ⟨-, heq⟩ := Option.ite_none_right_eq_some.1 hstep
  cases heq
  exact ⟨x, hops, cleanupLaw_iff⟩

/-! ## Fixed inputs -/

/-- A client that asks for an unknown route and is blocked. -/
def blockedOnce : List AbuseOp := [.request ⟨"client", none, 0, 0, .failure false "unknown_route"⟩]

/-- The same client after 31 days: it is served, and its block is cleared. -/
def comesBack : AbuseOp := .request ⟨"client", some "route", days 31, days 31, .success⟩

/-- A first failure blocks. -/
def blockAtOnce : Settings := { webhookAbuseFailureLimit := 1 }

theorem bucket_cleanup_complete_comesBack :
    ∃ x x', exec (abuseStep Platform.plain blockAtOnce) (AbuseState.initial 0) (blockedOnce ++ [comesBack]) = some x ∧
      exec (abuseStep Platform.plain blockAtOnce) (AbuseState.initial 0) (blockedOnce ++ [comesBack] ++
        [.cleanup (days 62)]) = some x' ∧
      x'.store.rows = [] ∧ CleanupLaw blockAtOnce (days 62) x.store x'.store := by
  have hcleaned : (exec (abuseStep Platform.plain blockAtOnce) (AbuseState.initial 0)
      (blockedOnce ++ [comesBack] ++ [.cleanup (days 62)])).map (·.store.rows) = some [] := by decide +kernel
  have hcleared : (exec (abuseStep Platform.plain blockAtOnce) (AbuseState.initial 0) (blockedOnce ++ [comesBack])).map
      (fun x => x.store.rows.all fun b => b.blockedUntil.isNone) = some true := by decide +kernel
  obtain ⟨x', hrun, hrows⟩ := Option.map_eq_some_iff.1 hcleaned
  obtain ⟨x, hops, hlaw⟩ := bucket_cleanup_complete_iff Platform.plain blockAtOnce hrun
  rw [hops, Option.map_some, Option.some.injEq] at hcleared
  refine ⟨x, x', hops, hrun, hrows, hlaw.2 fun b hb blockedUntil hblock _ => ?_⟩
  exact nomatch (Option.isNone_iff_eq_none.1 (List.all_eq_true.1 hcleared b hb)).symm.trans hblock

/-- A client that is blocked and never comes back: a year later its block has long expired, and the cleanup does not
delete its bucket. -/
theorem bucket_cleanup_keeps_expired_block :
    ∃ x x', exec (abuseStep Platform.plain blockAtOnce) (AbuseState.initial 0) blockedOnce = some x ∧
      exec (abuseStep Platform.plain blockAtOnce) (AbuseState.initial 0) (blockedOnce ++ [.cleanup (days 365)]) =
      some x' ∧ (x'.store.rows.map fun b => (b.lastSeenAt, b.blockedUntil)) = [(0, some (minutes 10))] ∧
      ¬CleanupLaw blockAtOnce (days 365) x.store x'.store := by
  have hcleaned : (exec (abuseStep Platform.plain blockAtOnce) (AbuseState.initial 0)
    (blockedOnce ++ [.cleanup (days 365)])).map
      (fun x => x.store.rows.map fun b => (b.lastSeenAt, b.blockedUntil)) = some [(0, some (minutes 10))] :=
      by decide +kernel
  have hblocked : (exec (abuseStep Platform.plain blockAtOnce) (AbuseState.initial 0) blockedOnce).isSome = true :=
    by decide +kernel
  obtain ⟨x', hrun, hrows⟩ := Option.map_eq_some_iff.1 hcleaned
  obtain ⟨x, hops⟩ := Option.isSome_iff_exists.1 hblocked
  refine ⟨x, x', hops, hrun, hrows, fun hlaw => ?_⟩
  obtain ⟨b, hb, hvalues⟩ := List.mem_map.1 (hrows ▸ List.mem_singleton_self (0, some (minutes 10)))
  injection hvalues with hseen hblock
  obtain ⟨blockedUntil, hblock', hlater⟩ := blockedAt_iff.1 (hlaw.1 b hb (hseen ▸ by decide))
  cases hblock.symm.trans hblock'
  exact absurd hlater (by decide)

end TeamsRehook
