import DeviceLink.Queue.Session

/-!
# Watching a connection

A pinger sends a cheap command at intervals and counts the failures in a row.
When the count reaches a threshold the connection is lost: the listener hears
of it once, and no more pings are sent.
-/

namespace DeviceLink

/-- Whether a device still answers. -/
inductive ConnectionState
  | connected
  | disconnected (reason : String)
  deriving DecidableEq, Inhabited

/-- The text of a connection state. -/
def ConnectionState.text : ConnectionState → String
  | .connected => "connected"
  | .disconnected reason => "disconnected (" ++ reason ++ ")"

/-- How often to ping, and how many failures in a row mean a loss. -/
structure PingSettings where
  /-- The time between two pings. -/
  interval : Duration := .ofSeconds 1
  /-- The number of failures in a row that mean a loss. -/
  failureThreshold : UInt32 := 1
  deriving DecidableEq, Inhabited

/-- The settings with another threshold; it is at least one. -/
def PingSettings.withThreshold (settings : PingSettings) (threshold : UInt32) : PingSettings :=
  { settings with failureThreshold := if threshold = 0 then 1 else threshold }

/-- The state of a pinger: the failures in a row, and what the listener heard. -/
structure Pinger where
  /-- The number of failures in a row that mean a loss. -/
  threshold : UInt32
  /-- The number of failures in a row so far. -/
  failures : Nat := 0
  /-- Whether the device still answers. -/
  state : ConnectionState := .connected
  /-- What the listener heard, oldest first. -/
  heard : List ConnectionState := []
  deriving DecidableEq, Inhabited

namespace Pinger

/-- Why a ping counts as failed; absent for a success. -/
def failure? : StrategyResult → Option String
  | .ok response => if response.isSuccess then none else some "ping failed"
  | .error cause => some cause.message

/-- The connection is lost, and the pinger has stopped. -/
def isLost (pinger : Pinger) : Bool :=
  pinger.state != .connected

/-- Take the result of a ping into account. -/
def observe (pinger : Pinger) (result : StrategyResult) : Pinger :=
  match failure? result with
  | none => { pinger with failures := 0 }
  | some reason =>
      let failures := pinger.failures + 1
      if pinger.threshold.toNat ≤ failures then
        let state := ConnectionState.disconnected reason
        { pinger with failures := failures, state := state, heard := pinger.heard ++ [state] }
      else { pinger with failures := failures }

/-- Take results into account until the connection is lost. -/
def observeAll (pinger : Pinger) : List StrategyResult → Pinger
  | [] => pinger
  | result :: results =>
      if pinger.isLost then pinger else (pinger.observe result).observeAll results

end Pinger

end DeviceLink
