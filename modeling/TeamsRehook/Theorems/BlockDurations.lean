import TeamsRehook.Abuse
import TeamsRehook.Lib.Datetime

/-!
# Repeated blocks

From the second block on, a block lasts twice as long as the one before it, up to the maximum. The first one has a
length of its own, which may be more than the hour of the second one.
-/

namespace TeamsRehook

/-- `_block_duration`, nothing when `timedelta` raises `OverflowError`. -/
def blockTimedelta (s : Settings) (blockCount : Int) : Option Int := Datetime.timedelta (blockDuration s blockCount)

/-- The least number of minutes that a `timedelta` cannot hold. -/
def tooManyMinutes : Int := 1440 * 1000000000

/-- The duration of a block is at most that of the next one and at most the configured maximum. -/
def BlocksGrow (s : Settings) (blockCount : Int) : Prop :=
  ∃ duration next, blockTimedelta s blockCount = some duration ∧ blockTimedelta s (blockCount + 1) = some next ∧
    duration ≤ next ∧ duration ≤ minutes s.webhookAbuseMaxBlockMinutes

namespace BlockDurationsAux

variable {s : Settings} {blockCount : Int}

/-- The first block. -/
theorem blockDuration_one : blockDuration s 1 = minutes
    (min s.webhookAbuseInitialBlockMinutes s.webhookAbuseMaxBlockMinutes) := rfl

/-- Every later block. -/
theorem blockDuration_later (h : 2 ≤ blockCount) :
    blockDuration s blockCount = minutes (min (60 * 2 ^ (blockCount - 2).toNat) s.webhookAbuseMaxBlockMinutes) := by
  unfold blockDuration
  rw [if_neg (by omega)]
  by_cases htwo : blockCount = 2
  · rw [if_pos htwo, htwo]
    rfl
  · rw [if_neg htwo]
    dsimp only
    rw [min_comm s.webhookAbuseMaxBlockMinutes, min_assoc, min_self]

/-- A number of minutes that is not negative is a duration exactly when it is not too large. -/
theorem timedelta_minutes {n : Int} (h : 0 ≤ n) :
    Datetime.timedelta (minutes n) = if n < tooManyMinutes then some (minutes n) else none := by
  have hiff : (-999999999 ≤ minutes n / Datetime.day ∧ minutes n / Datetime.day ≤ 999999999) ↔ n < tooManyMinutes := by
    unfold minutes Datetime.day tooManyMinutes
    omega
  rw [Datetime.timedelta, if_congr hiff rfl rfl]

end BlockDurationsAux

open BlockDurationsAux

/-- The duration of a block is at most that of the next one and at most the maximum exactly when it is not a first block
that is to last longer than an hour, and the next one is not longer than a `timedelta` can be. -/
theorem repeated_blocks_grow_iff (s : Settings) (hinitial : 0 ≤ s.webhookAbuseInitialBlockMinutes)
    (hmax : 0 ≤ s.webhookAbuseMaxBlockMinutes) {blockCount : Int} (hcount : 1 ≤ blockCount) :
    BlocksGrow s blockCount ↔
      (blockCount = 1 → s.webhookAbuseInitialBlockMinutes ≤ 60 ∨ s.webhookAbuseMaxBlockMinutes ≤ 60) ∧
      (s.webhookAbuseMaxBlockMinutes < tooManyMinutes ∨ 60 * 2 ^ (blockCount - 1).toNat < tooManyMinutes) := by
  have hgrow : ∀ m m' : Int, 0 ≤ m → 0 ≤ m' → blockDuration s blockCount = minutes m →
      blockDuration s (blockCount + 1) = minutes m' →
      (BlocksGrow s blockCount ↔ m < tooManyMinutes ∧ m' < tooManyMinutes ∧ m ≤ m' ∧
        m ≤ s.webhookAbuseMaxBlockMinutes) := by
    intro m m' hm hm' hduration hnext
    unfold BlocksGrow blockTimedelta
    rw [hduration, hnext, timedelta_minutes hm, timedelta_minutes hm']
    unfold minutes
    constructor
    · rintro ⟨duration, next, h, h', hle, hle'⟩
      obtain ⟨hfits, heq⟩ := Option.ite_none_right_eq_some.1 h
      obtain ⟨hfits', heq'⟩ := Option.ite_none_right_eq_some.1 h'
      cases heq
      cases heq'
      omega
    · rintro ⟨hfits, hfits', hle, hle'⟩
      exact ⟨_, _, if_pos hfits, if_pos hfits', by omega, by omega⟩
  have hpos : ∀ k : Nat, (0 : Int) < 2 ^ k := fun k => pow_pos (by decide) k
  rcases eq_or_lt_of_le hcount with rfl | hlater
  · have hnext : blockDuration s (1 + 1) = minutes (min 60 s.webhookAbuseMaxBlockMinutes) :=
      blockDuration_later (by decide)
    rw [hgrow _ _ (le_min hinitial hmax) (le_min (by decide) hmax) blockDuration_one hnext]
    unfold tooManyMinutes
    have hpow : (60 : Int) * 2 ^ ((1 : Int) - 1).toNat = 60 := rfl
    rw [hpow]
    omega
  · have hduration := blockDuration_later (s := s) hlater
    have hnext := blockDuration_later (s := s) (show 2 ≤ blockCount + 1 by omega)
    have hdouble : (2 : Int) ^ (blockCount + 1 - 2).toNat = 2 * 2 ^ (blockCount - 2).toNat := by
      rw [show (blockCount + 1 - 2).toNat = (blockCount - 2).toNat + 1 by omega, pow_succ, mul_comm]
    have hexponent : (blockCount - 1).toNat = (blockCount + 1 - 2).toNat := by omega
    have := hpos (blockCount - 2).toNat
    rw [hgrow _ _ (le_min (by omega) hmax) (le_min (by omega) hmax) hduration hnext, hexponent, hdouble]
    unfold tooManyMinutes
    omega

/-! ## Fixed inputs -/

/-- The defaults of the settings. -/
theorem repeated_blocks_grow_default : BlocksGrow {} 1 ∧ blockTimedelta {} 1 = some (minutes 10) :=
  ⟨(repeated_blocks_grow_iff {} (by decide) (by decide) (by decide)).2 ⟨fun _ => .inl (by decide), .inl (by decide)⟩, rfl⟩

/-- A first block of 90 minutes is followed by one of 60. -/
theorem repeated_blocks_shrink :
    let s : Settings := { webhookAbuseInitialBlockMinutes := 90 }
    blockTimedelta s 1 = some (minutes 90) ∧ blockTimedelta s 2 = some (minutes 60) ∧ ¬BlocksGrow s 1 := by
  refine ⟨rfl, rfl, ?_⟩
  rintro ⟨duration, next, hduration, hnext, hle, -⟩
  cases hduration
  cases hnext
  exact absurd hle (by decide)

end TeamsRehook
