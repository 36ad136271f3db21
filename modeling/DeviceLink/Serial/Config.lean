import DeviceLink.Serial.Port

/-!
# Configuration of serial ports

How a serial port is opened: its name, its speed, the form of its characters,
its flow control, and how long one read or write may block.
-/

namespace DeviceLink

/-- Number of data bits of a character. -/
inductive DataBits
  | five
  | six
  | seven
  | eight
  deriving DecidableEq, Inhabited

/-- Number of data bits as a number. -/
def DataBits.count : DataBits → Nat
  | five => 5
  | six => 6
  | seven => 7
  | eight => 8

/-- The check bit of a character. -/
inductive Parity
  | none
  | odd
  | even
  deriving DecidableEq, Inhabited

/-- Number of stop bits of a character. -/
inductive StopBits
  | one
  | two
  deriving DecidableEq, Inhabited

/-- Number of stop bits as a number. -/
def StopBits.count : StopBits → Nat
  | one => 1
  | two => 2

/-- How the receiver holds the sender back. -/
inductive FlowControl
  | none
  | software
  | hardware
  deriving DecidableEq, Inhabited

/-- How to open a serial port. -/
structure SerialConfig where
  /-- The name of the port to open. -/
  portName : String := ""
  /-- The speed in bauds. -/
  baudRate : UInt32 := 115200
  /-- How long a single read waits. -/
  timeout : Duration := .ofMillis 100
  /-- The number of data bits of a character. -/
  dataBits : DataBits := .eight
  /-- The parity bit of a character. -/
  parity : Parity := .none
  /-- The number of stop bits of a character. -/
  stopBits : StopBits := .one
  /-- How the flow of bytes is held back. -/
  flowControl : FlowControl := .none
  deriving DecidableEq, Inhabited

/-- A device behind a serial port of the machine. -/
structure AttachedLine where
  /-- The path of the port that the device is behind. -/
  path : String
  /-- The line to the device. -/
  line : Line

/-- Open a port. Only ports with a device behind them exist. -/
def SerialPort.openPort
    (attached : Option AttachedLine)
    (config : SerialConfig) : Except LinkError SerialPort :=
  match attached with
  | none => .error missingError
  | some device =>
      if device.path = config.portName then
        .ok { name := config.portName, line := device.line, baudRate := config.baudRate }
      else .error missingError

end DeviceLink
