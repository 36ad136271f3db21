import DeviceLink.Line.Reading

/-!
# Verified writes and awaited patterns

Devices echo each command byte for byte before they reply. A verified write
compares the echo and writes again after draining the line, a bounded number
of times. Awaiting a pattern discards input up to the first byte of the
pattern and then compares the rest.
-/

namespace DeviceLink.Line

/-- Compare incoming bytes with the expected ones; stop at the first difference. -/
def matchBytes (budget : Duration) : List UInt8 → Exchange Line Bool
  | [] => pure true
  | expected :: rest => do
      match ← poll budget with
      | .byte value => if value = expected then matchBytes budget rest else pure false
      | .expired => pure false
      | .ended => pure false

/-- Write a command up to `attempts` times until its echo matches. -/
def writeUntilEchoed
    (settings : LineSettings)
    (command : List UInt8) : Nat → Exchange Line Bool
  | 0 => pure false
  | attempts + 1 => do
      write command
      if ← matchBytes settings.readTimeout command then pure true
      else
        let _ ← drain settings
        writeUntilEchoed settings command attempts

/-- Write a command and check its echo; false when no attempt was echoed. -/
def writeVerified (settings : LineSettings) (command : List UInt8) : Exchange Line Bool :=
  writeUntilEchoed settings command settings.attempts

/-- Discard up to `count` bytes in search of one byte. -/
def seekWithin (budget : Duration) (target : UInt8) : Nat → Exchange Line Bool
  | 0 => pure false
  | count + 1 => do
      match ← poll budget with
      | .byte value => if value = target then pure true else seekWithin budget target count
      | .expired => pure false
      | .ended => pure false

/-- Discard bytes up to and including the first `target`. -/
def seek (budget : Duration) (target : UInt8) : Exchange Line Bool := fun line =>
  seekWithin budget target (line.incoming.length + 1) line

/-- Wait for a byte pattern: its first byte, then at once the rest. -/
def awaitPattern (settings : LineSettings) : List UInt8 → Exchange Line Bool
  | [] => pure true
  | first :: rest => do
      if ← seek settings.drainTimeout first then
        matchBytes settings.readTimeout rest
      else pure false

end DeviceLink.Line
