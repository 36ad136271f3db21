import DeviceLink.Line.Basic

/-!
# Serial ports

A serial port is an open handle on a line. Once closed it refuses every
operation; when the other side goes away, reads find the end of the stream and
writes fail.
-/

namespace DeviceLink

/-- How closing a transport ends. -/
inductive Closing
  | finished (outcome : Except LinkError Unit)
  | crashed
  | stuck

instance : Inhabited Closing := ⟨.finished (.ok ())⟩

/-- A handle on a serial line. -/
structure SerialPort where
  /-- The name of the port. -/
  name : String
  /-- The line to the device. -/
  line : Line
  /-- The speed in bauds. -/
  baudRate : UInt32 := 115200
  /-- The port has not been closed. -/
  isOpen : Bool := true
  /-- The other side of the line has gone away. -/
  hungUp : Bool := false
  /-- How closing the port goes. -/
  onClose : Closing := .finished (.ok ())

namespace SerialPort

/-- The error of every operation on a closed port. -/
def closedError : LinkError := .serial "Port is closed"

/-- The error of an open that finds no such port. -/
def missingError : LinkError := .serial "No such file or directory"

/-- The error of a write to a port whose other side is gone. -/
def brokenPipe : LinkError := .system ⟨.brokenPipe, some "Broken pipe"⟩

/-- The error of a control request to a port whose other side is gone. -/
def controlError : LinkError := .serial "I/O error"

/-- An exchange over the line of a port. -/
def onLine {α : Type} (exchange : Exchange Line α) : Exchange SerialPort α := fun port =>
  let (outcome, line) := exchange port.line
  (outcome, { port with line := line })

/-- An operation on an open port, with what stands in for it after a hangup. -/
def whileOpen {α : Type}
    (afterHangup operation : Exchange SerialPort α) : Exchange SerialPort α := fun port =>
  if port.isOpen then
    if port.hungUp then afterHangup port else operation port
  else (.error (.error closedError), port)

/-- Read one byte. -/
def readByte : Exchange SerialPort UInt8 :=
  whileOpen (Exchange.fail .endOfStream) (onLine Line.readByte)

/-- Ask whether a byte can be read. -/
def available : Exchange SerialPort Bool :=
  whileOpen (Exchange.fail controlError) (onLine Line.available)

/-- Write bytes. -/
def write (bytes : List UInt8) : Exchange SerialPort Unit :=
  whileOpen (Exchange.fail brokenPipe) (onLine (Line.write bytes))

/-- Drop what was received and not read. -/
def clear : Exchange SerialPort Unit :=
  whileOpen (Exchange.fail controlError)
    (onLine fun line => (.ok (), { line with incoming := [] }))

/-- Close the port. Closing a closed port changes nothing. -/
def close (port : SerialPort) : Closing × SerialPort :=
  match port.onClose with
  | .stuck => (.stuck, port)
  | closing => (closing, { port with isOpen := false })

end SerialPort

end DeviceLink
