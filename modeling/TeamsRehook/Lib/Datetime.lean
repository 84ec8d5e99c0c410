import Mathlib.Algebra.Order.Ring.Int
import Mathlib.Tactic.Common

/-!
# Times and durations in Python's ranges

A `datetime` in UTC is the number of microseconds since the epoch, and a `timedelta` is a number of microseconds.
`timedelta` and `add` give nothing where Python raises `OverflowError`: a duration has a magnitude of at most 999999999
days, and a time is in the years 1 to 9999.
-/

namespace Datetime

/-- A day. -/
def day : Int := 86400000000

/-- The start of the year 1. -/
def minTime : Int := -62135596800000000

/-- The last microsecond of the year 9999. -/
def maxTime : Int := 253402300799999999

/-- `timedelta(microseconds=n)`. -/
def timedelta (n : Int) : Option Int := if -999999999 ≤ n / day ∧ n / day ≤ 999999999 then some n else none

/-- `time + duration`. -/
def add (time duration : Int) : Option Int :=
  if minTime ≤ time + duration ∧ time + duration ≤ maxTime then some (time + duration) else none

/-- `time - duration`. -/
def sub (time duration : Int) : Option Int := add time (-duration)

/-- A duration that is not longer than all the time there is can be expressed. -/
theorem timedelta_of_bounds {n : Int} (h : 0 ≤ n) (h' : n ≤ maxTime - minTime) : timedelta n = some n := by
  unfold timedelta
  rw [if_pos]
  unfold day maxTime minTime at *
  omega

/-- A time after another one that is in range is in range as long as it is not after the last one. -/
theorem add_isSome_iff {time n : Int} (htime : minTime ≤ time) (hn : 0 ≤ n) :
    ((timedelta n).bind (add time)).isSome ↔ time + n ≤ maxTime := by
  constructor
  · intro h
    obtain ⟨sum, hsum⟩ := Option.isSome_iff_exists.1 h
    obtain ⟨duration, hduration, hsum⟩ := Option.bind_eq_some_iff.1 hsum
    have hn' : duration = n := by
      unfold timedelta at hduration
      exact (Option.some.inj (Option.ite_none_right_eq_some.1 hduration).2).symm
    unfold add at hsum
    rw [hn'] at hsum
    exact (Option.ite_none_right_eq_some.1 hsum).1.2
  · intro h
    rw [timedelta_of_bounds hn (by omega), Option.bind_some, add, if_pos ⟨by omega, h⟩]
    rfl

/-- A time before another one that is in range is in range as long as it is not before the first one. -/
theorem sub_isSome_iff {time n : Int} (htime : time ≤ maxTime) (hn : 0 ≤ n) :
    ((timedelta n).bind (sub time)).isSome ↔ minTime ≤ time - n := by
  constructor
  · intro h
    obtain ⟨difference, hdifference⟩ := Option.isSome_iff_exists.1 h
    obtain ⟨duration, hduration, hdifference⟩ := Option.bind_eq_some_iff.1 hdifference
    have hn' : duration = n := by
      unfold timedelta at hduration
      exact (Option.some.inj (Option.ite_none_right_eq_some.1 hduration).2).symm
    unfold sub add at hdifference
    rw [hn'] at hdifference
    exact (Option.ite_none_right_eq_some.1 hdifference).1.1
  · intro h
    rw [timedelta_of_bounds hn (by omega), Option.bind_some, sub, add, if_pos ⟨by omega, by omega⟩]
    rfl

end Datetime
