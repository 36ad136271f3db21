import DeviceLink.Queue.Connect
import DeviceLink.Tool.Machine
import DeviceLink.Tool.Options

/-!
# Commands over reports

The report devices of a machine are listed, or one of them is claimed, opened
and sent a command. The state in which the command leaves the devices stays on
the machine.
-/

namespace DeviceLink

namespace ReportSendOptions

/-- The device to look for. -/
def spec (options : ReportSendOptions) : ReportDeviceSpec where
  name := "HID " ++ Hex.word options.vendor ++ ":" ++ Hex.word options.product
  vendor := options.vendor
  product := options.product
  reports := ⟨options.inputLength, options.outputLength, false⟩

/-- The request to send. -/
def request (options : ReportSendOptions) : ReportRequest where
  command := ⟨options.command⟩
  size := options.responseSize
  readTimeout := .ofMillis options.timeoutMillis

/-- How long to wait for a response, absent past the limit of durations. -/
def timeout? (options : ReportSendOptions) (queue : QueueSettings) : Option Duration := do
  let twice ← (Duration.ofMillis options.timeoutMillis).times? 2
  pure (queue.taskTimeout.longer twice)

end ReportSendOptions

namespace Run

/-- Print a list of devices. -/
def listDevices (json : Bool) (what : String) (devices : List DeviceDescriptor) : Run Unit :=
  change fun machine =>
    let printed := DeviceDescriptor.printedList json what devices
    { machine with transcript := machine.transcript ++ printed }.note (.printed printed.results)

/-- List the serial ports. -/
def listPorts (json : Bool) : Run Unit := do
  let ports ← look fun machine => DeviceDescriptor.serialPorts machine.ports
  listDevices json "serial ports" ports

/-- List the report devices. -/
def listReportDevices (json : Bool) : Run Unit := do
  let bus ← look Machine.bus
  listDevices json "HID devices" bus.descriptors

/-- Claim and open the device that was asked for. -/
def connect
    (spec : ReportDeviceSpec)
    (settings : QueueSettings) : Run (QueueSession ReportConnection) := fun machine =>
  let (outcome, _, bus) := QueueSession.connectReports machine.bus spec .empty settings
  ofLink ["Failed to open " ++ spec.name] outcome { machine with bus := bus }

/-- Shut a session down and leave its device on the machine. -/
def disconnect (session : QueueSession ReportConnection) : Run Unit :=
  change fun machine => { machine with bus := session.shutdown.2.busAfter machine.bus }

/-- Send one command to a report device and print its reply. -/
def sendReport (options : Options) (config : Config) (wanted : ReportSendOptions) : Run Unit := do
  let session ← connect wanted.spec config.queueSettings
  if !options.quiet then
    remark ("🔌 Using " ++ wanted.spec.name ++ " at " ++ session.queue.name)
  match wanted.timeout? session.queue.settings with
  | none => do
      disconnect session
      crash
  | some timeout => do
      let (result, session) := session.executeWithin (.ofRequest wanted.request) timeout
      disconnect session
      let response ← ofLink [] result
      print (response.printed wanted.json)
      ofCause response.verdict

end Run

end DeviceLink
