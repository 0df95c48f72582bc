import Mathlib.Tactic.NormNum

/-!
# Spans of time

A span of whole seconds and the nanoseconds beyond them.
-/

namespace Ads.Client

/-- A span of time. -/
structure Duration where
  secs : UInt64
  nanos : UInt32
  deriving DecidableEq

namespace Duration

/-- The whole milliseconds of the span. -/
def asMillis (duration : Duration) : Nat :=
  duration.secs.toNat * 1000 + duration.nanos.toNat / 1000000

/-- The nanoseconds of the span. -/
def asNanos (duration : Duration) : Nat :=
  duration.secs.toNat * 1000000000 + duration.nanos.toNat

/-- The span of so many nanoseconds. -/
def fromNanos (nanos : UInt64) : Duration where
  secs := nanos / 1000000000
  nanos := (nanos % 1000000000).toUInt32

@[simp]
theorem asNanos_fromNanos (nanos : UInt64) : (fromNanos nanos).asNanos = nanos.toNat := by
  have rest : (nanos % 1000000000).toUInt32.toNat = nanos.toNat % 1000000000 := by
    rw [UInt64.toNat_toUInt32, UInt64.toNat_mod]
    exact Nat.mod_eq_of_lt (Nat.lt_trans (Nat.mod_lt _ (by decide)) (by decide))
  rw [asNanos, fromNanos]
  dsimp only
  rw [rest, UInt64.toNat_div]
  exact Nat.div_add_mod' nanos.toNat 1000000000

end Duration

end Ads.Client
