/-!
# Durations

A duration counts nanoseconds and ends below `2 ^ 64` seconds. Sums and
products are checked: they have no value once they pass that limit, so a time
budget is either exact or visibly absent.
-/

namespace DeviceLink

/-- Number of nanoseconds at which durations end. -/
def Duration.limit : Nat := UInt64.size * 1000000000

/-- A span of time in nanoseconds. -/
structure Duration where
  /-- The number of nanoseconds. -/
  nanos : Nat
  /-- The span is below the limit of durations. -/
  nanos_lt : nanos < Duration.limit
  deriving DecidableEq

namespace Duration

/-- The empty span. -/
def zero : Duration := ⟨0, by decide⟩

instance : Inhabited Duration := ⟨zero⟩

/-- A number of nanoseconds as a duration, if it is below the limit. -/
def ofNanos? (nanos : Nat) : Option Duration :=
  if within : nanos < limit then some ⟨nanos, within⟩ else none

/-- A count of milliseconds that fits 64 bits always has a duration. -/
def ofMillis (millis : UInt64) : Duration where
  nanos := millis.toNat * 1000000
  nanos_lt := by
    have := millis.toNat_lt
    simp only [limit, UInt64.size]
    omega

@[simp] theorem nanos_ofMillis (millis : UInt64) :
    (ofMillis millis).nanos = millis.toNat * 1000000 := rfl

/-- A count of seconds below `2 ^ 32` as a duration. -/
def ofSeconds (seconds : UInt32) : Duration where
  nanos := seconds.toNat * 1000000000
  nanos_lt := by
    have := seconds.toNat_lt
    simp only [limit, UInt64.size]
    omega

/-- The sum, absent past the limit. -/
def add? (first second : Duration) : Option Duration :=
  ofNanos? (first.nanos + second.nanos)

/-- The product with a count, absent past the limit. -/
def times? (span : Duration) (count : Nat) : Option Duration :=
  ofNanos? (span.nanos * count)

/-- A span is positive when a deadline that far away has not passed yet. -/
def positive (span : Duration) : Bool :=
  0 < span.nanos

/-- The longer of two spans. -/
def longer (first second : Duration) : Duration :=
  if first.nanos < second.nanos then second else first

theorem nanos_of_ofNanos?
    {nanos : Nat}
    {span : Duration}
    (made : ofNanos? nanos = some span) :
    span.nanos = nanos := by
  unfold ofNanos? at made
  split at made
  next => exact (congrArg Duration.nanos (Option.some.inj made)).symm
  next => cases made

theorem nanos_of_add?
    {first second sum : Duration}
    (made : first.add? second = some sum) :
    sum.nanos = first.nanos + second.nanos :=
  nanos_of_ofNanos? made

theorem nanos_of_times?
    {span product : Duration}
    {count : Nat}
    (made : span.times? count = some product) :
    product.nanos = span.nanos * count :=
  nanos_of_ofNanos? made

theorem nanos_longer (first second : Duration) :
    (first.longer second).nanos = max first.nanos second.nanos := by
  unfold longer
  split
  · omega
  · omega

/-- Whole milliseconds of the span. -/
def wholeMillis (span : Duration) : Nat :=
  span.nanos / 1000000

end Duration

end DeviceLink
