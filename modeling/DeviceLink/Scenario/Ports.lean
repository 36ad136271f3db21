import DeviceLink.Scenario.Faults
import DeviceLink.Serial.Config

/-!
# Serial configurations in scenarios

A scenario names the settings of a serial port; those it leaves out have their
usual values.
-/

namespace DeviceLink

/-- The number of data bits of a name; eight unless it names fewer. -/
def DataBits.ofName : String → DataBits
  | "Five" => five
  | "Six" => six
  | "Seven" => seven
  | _ => eight

/-- The check bit of a name. -/
def Parity.ofName : String → Parity
  | "Odd" => odd
  | "Even" => even
  | _ => none

/-- The name of a check bit. -/
def Parity.name : Parity → String
  | none => "None"
  | odd => "Odd"
  | even => "Even"

/-- The flow control of a name. -/
def FlowControl.ofName : String → FlowControl
  | "Software" => software
  | "Hardware" => hardware
  | _ => none

/-- The name of a flow control. -/
def FlowControl.name : FlowControl → String
  | none => "None"
  | software => "Software"
  | hardware => "Hardware"

namespace SerialConfig

/-- The configuration that a scenario describes. -/
def ofScenario (value : Json) : SerialConfig :=
  let defaults : SerialConfig := {}
  { portName := value.str "port"
    baudRate :=
      if value.has "baud" || value.has "port" then UInt32.ofNat (value.nat "baud")
      else defaults.baudRate
    timeout := (value.millis? "timeout_ms").getD defaults.timeout
    dataBits := .ofName (value.str "data_bits")
    parity := .ofName (value.str "parity")
    stopBits := if value.str "stop_bits" == "Two" then .two else .one
    flowControl := .ofName (value.str "flow") }

/-- The record of a configuration. -/
def toJson (config : SerialConfig) : Json :=
  .record
    [ ("port", .string config.portName), ("baud", .natural config.baudRate.toNat),
      ("timeout", .ofDuration config.timeout), ("data_bits", .natural config.dataBits.count),
      ("parity", .string config.parity.name), ("stop_bits", .natural config.stopBits.count),
      ("flow", .string config.flowControl.name) ]

end SerialConfig

end DeviceLink
