import DeviceLink.Time.Duration

/-!
# Duration text

The text of a duration names the largest of the units seconds, milliseconds,
microseconds and nanoseconds whose whole part is not zero. The rest follows as
a decimal fraction without trailing zeros.
-/

namespace DeviceLink.Duration

/-- Decimal digits of `value`, padded with zeros on the left to `width`. -/
def padded (width value : Nat) : List Char :=
  let digits := (toString value).toList
  List.replicate (width - digits.length) '0' ++ digits

/-- The digits without the zeros they end in. -/
def withoutTrailingZeros (digits : List Char) : List Char :=
  (digits.reverse.dropWhile (· == '0')).reverse

/-- The fraction `part / 10 ^ width` behind a point, or nothing when it is zero. -/
def fraction (width part : Nat) : List Char :=
  match withoutTrailingZeros (padded width part) with
  | [] => []
  | digits => '.' :: digits

/-- `nanos` counted in a unit of `10 ^ width` nanoseconds. -/
def inUnit (nanos width : Nat) (unit : String) : String :=
  toString (nanos / Nat.pow 10 width)
    ++ String.ofList (fraction width (nanos % Nat.pow 10 width)) ++ unit

/-- The text of a duration. -/
def text (span : Duration) : String :=
  if 1000000000 ≤ span.nanos then inUnit span.nanos 9 "s"
  else if 1000000 ≤ span.nanos then inUnit span.nanos 6 "ms"
  else if 1000 ≤ span.nanos then inUnit span.nanos 3 "µs"
  else inUnit span.nanos 0 "ns"

end DeviceLink.Duration
