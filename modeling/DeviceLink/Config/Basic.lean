import DeviceLink.Device.Descriptor
import DeviceLink.Line.Settings
import DeviceLink.Queue.Basic

/-!
# Configuration of the tool

A configuration has sections for the serial port, the timing of lines, the
queue and the handshake. Every setting is optional. Laying one configuration
over another keeps the later value of each setting and joins the lists of
known devices.
-/

namespace DeviceLink

/-- The ids of a USB device that counts as known. -/
structure KnownDevice where
  /-- The vendor id. -/
  vendor : UInt16
  /-- The product id. -/
  product : UInt16
  deriving DecidableEq, Inhabited

/-- The device has these ids. -/
def KnownDevice.fits (device : KnownDevice) (vendor product : UInt16) : Bool :=
  device.vendor == vendor && device.product == product

/-- Settings of the serial port. -/
structure SerialSection where
  /-- The name of the port to use. -/
  port : Option String := none
  /-- The speed of the port in bauds. -/
  baud : Option UInt32 := none
  /-- The devices that count as known. -/
  devices : List KnownDevice := []
  deriving DecidableEq, Inhabited

/-- Timing of serial lines, in milliseconds. -/
structure LineSection where
  /-- How long to wait for the bytes of a reply. -/
  readTimeout : Option UInt64 := none
  /-- How long to drop bytes after a failed comparison or in front of a pattern. -/
  drainTimeout : Option UInt64 := none
  /-- How often a command is written before it counts as not confirmed. -/
  maxRetries : Option UInt32 := none
  deriving DecidableEq, Inhabited

/-- Timing of the command queue, in milliseconds. -/
structure QueueSection where
  /-- How long a caller waits for its result. -/
  taskTimeout : Option UInt64 := none
  deriving DecidableEq, Inhabited

/-- Timing of handshakes, in milliseconds. -/
structure HandshakeSection where
  /-- How long a device is left alone after its handshake. -/
  settleDelay : Option UInt64 := none
  deriving DecidableEq, Inhabited

/-- A configuration. -/
structure Config where
  /-- The settings of the serial port. -/
  serial : SerialSection := {}
  /-- The timing of serial lines. -/
  line : LineSection := {}
  /-- The timing of the command queue. -/
  queue : QueueSection := {}
  /-- The timing of handshakes. -/
  handshake : HandshakeSection := {}
  deriving DecidableEq, Inhabited

namespace Config

/-- Lay a configuration over another one. -/
def overlay (base upper : Config) : Config where
  serial :=
    { port := upper.serial.port <|> base.serial.port
      baud := upper.serial.baud <|> base.serial.baud
      devices := base.serial.devices ++ upper.serial.devices }
  line :=
    { readTimeout := upper.line.readTimeout <|> base.line.readTimeout
      drainTimeout := upper.line.drainTimeout <|> base.line.drainTimeout
      maxRetries := upper.line.maxRetries <|> base.line.maxRetries }
  queue := { taskTimeout := upper.queue.taskTimeout <|> base.queue.taskTimeout }
  handshake := { settleDelay := upper.handshake.settleDelay <|> base.handshake.settleDelay }

/-- The configuration with more known devices. -/
def withDevices (config : Config) (devices : List KnownDevice) : Config :=
  { config with
    serial := { config.serial with devices := config.serial.devices ++ devices } }

/-- The line settings, with the defaults where the configuration says nothing. -/
def lineSettings (config : Config) : LineSettings :=
  let defaults : LineSettings := {}
  { readTimeout := (config.line.readTimeout.map Duration.ofMillis).getD defaults.readTimeout
    drainTimeout := (config.line.drainTimeout.map Duration.ofMillis).getD defaults.drainTimeout
    maxRetries := config.line.maxRetries.getD defaults.maxRetries
    pollInterval := defaults.pollInterval }

/-- The queue settings, with the defaults where the configuration says nothing. -/
def queueSettings (config : Config) : QueueSettings :=
  let defaults : QueueSettings := {}
  { defaults with
    taskTimeout := (config.queue.taskTimeout.map Duration.ofMillis).getD defaults.taskTimeout }

/-- The settle delay of handshakes, if one is set. -/
def settleDelay (config : Config) : Option Duration :=
  config.handshake.settleDelay.map Duration.ofMillis

/-- The device has one of the known pairs of ids. -/
def lists (config : Config) (vendor product : UInt16) : Bool :=
  config.serial.devices.any fun device => device.fits vendor product

/-- The port belongs to a known kind, or the configuration lists its ids. -/
def knows (config : Config) (port : DeviceDescriptor) : Bool :=
  port.kind.isKnown ||
    match port.vendor, port.product with
    | some vendor, some product => config.lists vendor product
    | _, _ => false

end Config

end DeviceLink
