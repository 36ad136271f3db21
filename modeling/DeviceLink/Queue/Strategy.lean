import DeviceLink.Reply.Handshake
import DeviceLink.Reply.Shape
import DeviceLink.Report.Request
import DeviceLink.Serial.Port

/-!
# Transports and strategies

A command queue works on any transport that has a name and can be closed. What
it executes are strategies: labelled exchanges over the transport that end
with a response. A strategy may be held back by a gate, and may leave the
transport alone for a while after it is done.
-/

namespace DeviceLink

/-- What a command queue needs of a transport. -/
class Transport (σ : Type) where
  /-- The name of a transport. -/
  name : σ → String
  /-- How closing a transport goes, and the transport afterwards. -/
  close : σ → Closing × σ

instance : Transport SerialPort where
  name := SerialPort.name
  close := SerialPort.close

instance : Transport ReportConnection where
  name := fun connection => connection.port.path
  close := fun connection =>
    (.finished (.ok ()), { connection with port := connection.port.close })

/-- What a caller learns of a strategy. -/
abbrev StrategyResult : Type := Except LinkError Response

/-- An exchange that a queue can execute. -/
structure Strategy (σ : Type) where
  /-- The name of the strategy in error texts. -/
  label : String
  /-- The exchange that the worker executes. -/
  execute : Exchange σ Response
  /-- How long the transport is left alone after a response. -/
  settling : Response → Duration := fun _ => .zero
  /-- The gate that holds the strategy back until it is opened, if there is one. -/
  gate : Option String := none
  /-- Asking for the label breaks down. -/
  labelCrashes : Bool := false

namespace Strategy

variable {σ : Type}

/-- The error a caller gets when a strategy breaks down. -/
def crashed (label : String) : LinkError :=
  .protocol (label ++ " panicked")

/-- Execute a strategy; a breakdown becomes an error. -/
def run (strategy : Strategy σ) (transport : σ) : StrategyResult × σ :=
  match strategy.execute transport with
  | (.ok response, later) => (.ok response, later)
  | (.error (.error cause), later) => (.error cause, later)
  | (.error .crash, later) => (.error (crashed strategy.label), later)

/-- How long the transport is left alone after this result. -/
def pauseAfter (strategy : Strategy σ) : StrategyResult → Duration
  | .ok response => strategy.settling response
  | .error _ => .zero

/-- Execute strategies one after another: the results in order, and the last state. -/
def runAll : List (Strategy σ) → σ → List StrategyResult × σ
  | [], transport => ([], transport)
  | strategy :: others, transport =>
      let (result, later) := strategy.run transport
      let (results, last) := runAll others later
      (result :: results, last)

/-- A serial command as a strategy. -/
def ofSerial (request : SerialCommand) : Strategy SerialPort where
  label := request.shape.label
  execute := SerialPort.onLine request.execute

/-- A handshake as a strategy. -/
def ofHandshake (handshake : Handshake) : Strategy SerialPort where
  label := Handshake.label
  execute := SerialPort.onLine handshake.execute
  settling := handshake.settling

/-- A report request as a strategy. -/
def ofRequest (request : ReportRequest) : Strategy ReportConnection where
  label := ReportRequest.label
  execute := request.execute

/-- Write bytes, if any, and end in a way that is known beforehand. -/
def rehearsed
    (label : String)
    (bytes : Option (List UInt8))
    (ending : Except Fault Response) : Strategy SerialPort where
  label := label
  execute := do
    match bytes with
    | none => pure ()
    | some bytes => SerialPort.onLine (Line.write bytes)
    fun port => (ending, port)

end Strategy

end DeviceLink
