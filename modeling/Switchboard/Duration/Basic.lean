/-!
# Lengths of time

A length of time is a number of seconds that fits in 64 bits and a number of nanoseconds below a
second. Sums that do not fit give nothing.
-/

namespace Switchboard

/-- The nanoseconds of a second. -/
def nanosPerSecond : Nat := 1000000000

/-- A number, if it fits in 64 bits. -/
def fit64? (n : Nat) : Option Nat := if n < UInt64.size then some n else none

/-- A length of time. -/
structure Duration where
  /-- The whole seconds. -/
  seconds : Nat
  /-- The nanoseconds beyond those. -/
  nanos : Nat
  seconds_lt : seconds < UInt64.size := by decide
  nanos_lt : nanos < nanosPerSecond := by decide
  deriving DecidableEq

namespace Duration

/-- No time at all. -/
def zero : Duration := { seconds := 0, nanos := 0 }

/-- Half a minute. -/
def halfMinute : Duration := { seconds := 30, nanos := 0 }

instance : Inhabited Duration := ⟨zero⟩

/-- The length of some seconds and nanoseconds, of which there may be more than a second's worth,
if the seconds fit. -/
def make? (seconds nanos : Nat) : Option Duration :=
  if h : seconds + nanos / nanosPerSecond < UInt64.size then
    some ⟨seconds + nanos / nanosPerSecond, nanos % nanosPerSecond, h,
      Nat.mod_lt _ (by decide)⟩
  else none

/-- The length with some seconds and nanoseconds more, if everything fits. -/
def add? (d : Duration) (seconds nanos : Nat) : Option Duration := do
  let nanos ← fit64? (d.nanos + nanos)
  make? (d.seconds + seconds) nanos

/-- Lengths with the same seconds and nanoseconds are equal. -/
theorem ext {d e : Duration} (hs : d.seconds = e.seconds) (hn : d.nanos = e.nanos) : d = e := by
  cases d
  cases e
  subst hs hn
  rfl

end Duration

end Switchboard
