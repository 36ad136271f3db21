import DeviceLink.Line.Verified

/-!
# Startup handshakes

After power-up a device announces itself with a startup pattern until the host
answers with a response pattern. The device echoes the response and then needs
some time to settle, in which it must be left alone.
-/

namespace DeviceLink

/-- The patterns and the settle delay of a handshake. -/
structure Handshake where
  /-- The bytes that the device announces itself with. -/
  startup : List UInt8
  /-- The bytes with which the device confirms the handshake. -/
  response : List UInt8
  /-- How long the device is left alone afterwards. -/
  settleDelay : Duration := .ofMillis 600
  /-- The timing of the line. -/
  settings : LineSettings := {}
  deriving DecidableEq, Inhabited

namespace Handshake

/-- The name of the exchange. -/
def label : String := "HandshakeStrategy"

/-- The longest time a handshake takes, absent past the limit of durations. -/
def timeBudget? (handshake : Handshake) : Option Duration := do
  let once ← handshake.settings.drainTimeout.add? handshake.settings.readTimeout
  let both ← once.times? 2
  both.add? handshake.settleDelay

/-- The longest time a handshake takes, in exact nanoseconds. -/
def timeBudgetNanos (handshake : Handshake) : Nat :=
  2 * (handshake.settings.drainTimeout.nanos + handshake.settings.readTimeout.nanos)
    + handshake.settleDelay.nanos

/-- Wait for the startup pattern, answer it, and wait for the answer to be echoed. -/
def execute (handshake : Handshake) : Exchange Line Response := do
  if ← Line.awaitPattern handshake.settings handshake.startup then
    Line.write handshake.response
    if ← Line.awaitPattern handshake.settings handshake.response then pure .success
    else pure (.readFailed [])
  else pure .writeFailed

/-- The time the device is left alone after a handshake that ended this way. -/
def settling (handshake : Handshake) (response : Response) : Duration :=
  if response.isSuccess then handshake.settleDelay else .zero

end Handshake

end DeviceLink
