import DeviceLink.Time.Duration

/-!
# Time and retry settings of a line

A reader gives up a reply after the read timeout, and gives up waiting for a
quiet line after the drain timeout. The longest time one write can take is the
sum of both, once for each attempt.
-/

namespace DeviceLink

/-- Bounds on the time that exchanges over a line take. -/
structure LineSettings where
  /-- How long to wait for an echo or for the bytes of a reply. -/
  readTimeout : Duration := .ofMillis 1000
  /-- How long to drop bytes after a failed comparison or in front of a pattern. -/
  drainTimeout : Duration := .ofMillis 5000
  /-- How often a command is written before it counts as not confirmed. -/
  maxRetries : UInt32 := 5
  /-- The pause between two questions whether a byte is there. -/
  pollInterval : Duration := .ofMillis 1
  deriving DecidableEq, Inhabited

namespace LineSettings

/-- Number of times a command is written before it is given up; never zero. -/
def attempts (settings : LineSettings) : Nat :=
  max settings.maxRetries.toNat 1

theorem attempts_pos (settings : LineSettings) : 0 < settings.attempts := by
  unfold attempts
  omega

/-- The longest time one verified write takes, absent past the limit of durations. -/
def worstCaseWrite? (settings : LineSettings) : Option Duration := do
  let once ← settings.readTimeout.add? settings.drainTimeout
  once.times? settings.attempts

/-- The longest time one verified write takes, in exact nanoseconds. -/
def worstCaseWriteNanos (settings : LineSettings) : Nat :=
  (settings.readTimeout.nanos + settings.drainTimeout.nanos) * settings.attempts

end LineSettings

end DeviceLink
