import DeviceLink.Queue.Connect
import DeviceLink.Tool.Machine
import DeviceLink.Tool.Options
import DeviceLink.Watch.Session

/-!
# Commands over a serial port

Each of these commands selects a port, opens it, and runs the handshake if one
was asked for. What the device did stays on the machine, also when the command
fails.
-/

namespace DeviceLink

namespace SendOptions

/-- The shape of a reply of so many bytes. -/
def sizedShape (size : Nat) : ReplyShape :=
  if size = 0 then .nothing else .fixed size

/-- The shape of the reply that the options ask for. -/
def shape (options : SendOptions) : Except Fault ReplyShape :=
  match options.headerSize, options.lengthOffset with
  | some headerSize, some offset =>
      ReplyShape.withLengthField options.lengthField headerSize offset
  | _, _ => .ok (sizedShape (options.responseSize.getD 0))

/-- How long to wait for a response, absent past the limit of durations. -/
def timeout? (settings : LineSettings) (queue : QueueSettings) : Option Duration := do
  let write ← settings.worstCaseWrite?
  let read ← settings.readTimeout.times? 2
  let both ← write.add? read
  pure (queue.taskTimeout.longer both)

end SendOptions

namespace Run

/-- Ask whether to remember a port, unless it is known, was named, or prompts are unwanted. -/
def rememberPort (options : Options) (config : Config) (selected : SelectedPort) : Run Config :=
  fun machine =>
    if selected.known || options.nonInteractive || options.port.isSome then (.ok config, machine)
    else
      let (config, files, terminal) :=
        Selection.offerToRemember selected.port config machine.files machine.terminal
      (.ok config, { machine with files := files, terminal := terminal })

/-- Say how many ports there are to choose from, if somebody can choose. -/
def announceChoice (proposal : Selection.Proposal) : Run Unit := do
  let terminal ← look Machine.terminal
  match proposal, terminal with
  | .choose ports, some _ => remark ("ℹ Found " ++ toString ports.length ++ " serial ports")
  | _, _ => pure ()

/-- Carry a proposal out at the terminal of the machine. -/
def decide (config : Config) (proposal : Selection.Proposal) : Run SelectedPort := fun machine =>
  let (outcome, terminal) := Selection.decide config proposal machine.terminal
  ofCause outcome { machine with terminal := terminal }

/-- Select a port. -/
def selectPort (options : Options) (config : Config) : Run SelectedPort := do
  let wanted : SelectionOptions := ⟨options.port, options.listAllPorts, options.nonInteractive⟩
  let ports ← look fun machine => DeviceDescriptor.serialPorts machine.ports
  let proposal ← ofCause (Selection.propose wanted config ports)
  announceChoice proposal
  decide config proposal

/-- Open a port. -/
def openPort (context : String) (config : SerialConfig) : Run SerialPort := do
  let attached ← look Machine.attached
  let port ← ofLink [context] (SerialPort.openPort attached config)
  change (Machine.note (.opened port.name))
  pure port

/-- Leave the line of a port on the machine, and keep in the history whether the port was closed. -/
def keepLine (port : SerialPort) : Run Unit :=
  change fun machine =>
    let machine := { machine with
      attached := machine.attached.map fun device => { device with line := port.line } }
    if port.isOpen then machine else machine.note (.closed port.name)

/-- Run a handshake over a fresh session. -/
def shakeHands
    (context : String)
    (handshake : Handshake)
    (session : QueueSession SerialPort) : Run (QueueSession SerialPort) := do
  let (outcome, session) := session.finishHandshake handshake
  keepLine session.queue.transport
  ofFault [context] outcome
  pure session

/-- Open a port, and run the handshake if there is one. -/
def connectPort
    (serial : SerialConfig)
    (wanted : Option Handshake)
    (settings : QueueSettings) : Run (QueueSession SerialPort) :=
  match wanted with
  | none => do
      let port ← openPort ("Failed to open " ++ serial.portName) serial
      pure (QueueSession.overPort port settings)
  | some handshake => do
      let context := "Handshake on " ++ serial.portName ++ " failed"
      let port ← openPort context serial
      shakeHands context handshake (QueueSession.overPort port settings)

/-- Select a port, open it, and run the handshake if there is one. -/
def openSerial
    (options : Options)
    (config : Config)
    (wanted : HandshakeOptions) : Run (QueueSession SerialPort) := do
  let selected ← selectPort options config
  let config ← rememberPort options config selected
  let name := selected.port.path
  let baud := options.baudRate config
  if !options.quiet then
    remark ("🔌 Using " ++ name ++ " at " ++ toString baud.toNat ++ " baud")
  connectPort { portName := name, baudRate := baud } (wanted.handshake? config)
    config.queueSettings

/-- Close a session. A failure to close is none of the run. -/
def close (session : QueueSession SerialPort) : Run Unit :=
  keepLine session.shutdown.2.queue.transport

/-- Print a response and stop the run if it is not a success. -/
def report (json : Bool) (response : Response) : Run Unit := do
  print (response.printed json)
  ofCause response.verdict

/-- Send a command over a session, close it, and print the reply. -/
def sendOver
    (json : Bool)
    (request : SerialCommand)
    (timeout : Duration)
    (session : QueueSession SerialPort) : Run Unit := do
  let (result, session) := session.executeWithin (.ofSerial request) timeout
  close session
  let response ← ofLink [] result
  report json response

/-- Send one command and print its reply. When there is no duration for the wait the run breaks
down, and closes the port on the way. -/
def send (options : Options) (config : Config) (wanted : SendOptions) : Run Unit := do
  let settings := config.lineSettings
  let shape ← ofFault [] wanted.shape
  let session ← openSerial options config wanted.handshake
  match SendOptions.timeout? settings session.queue.settings with
  | none => do
      close session
      crash
  | some timeout => sendOver wanted.json ⟨⟨wanted.command⟩, shape, settings⟩ timeout session

/-- Run the handshake and nothing else. -/
def handshake (options : Options) (config : Config) (wanted : HandshakeOptions) : Run Unit := do
  let session ← openSerial options config wanted
  close session
  if !options.quiet then remark "✓ Handshake complete"

/-! ### Watching a device -/

/-- The bytes a device may still send. -/
def bytesLeft (line : Line) : Nat :=
  match line.device with
  | .turning unanswered turns =>
      turns.foldl (fun count turn => count + turn.awaited + turn.reply.length)
        (line.incoming.length + unanswered.length)
  | .replying _ _ => line.incoming.length

/-- Pings that suffice: each success uses up a byte, and failures in a row end at the threshold. -/
def pingRounds (threshold : UInt32) (line : Line) : Nat :=
  (bytesLeft line + 1) * max 1 threshold.toNat

/-- The device has got so many bytes that somebody interrupts the run. -/
def interrupted (after : Option Nat) (session : QueueSession SerialPort) : Bool :=
  match after with
  | none => false
  | some count => count ≤ session.queue.transport.line.received.length

/-- Ping a device until it is lost or somebody interrupts the run. -/
def watch (options : Options) (config : Config) (wanted : WatchOptions) : Run Unit := do
  let session ← openSerial options config wanted.handshake
  let name := session.queue.name
  let interval := Duration.ofMillis wanted.intervalMillis
  if !options.quiet then
    remark ("👀 Watching " ++ name ++ " every " ++ interval.text ++ " (Ctrl-C to stop)")
  let shape := SendOptions.sizedShape wanted.responseSize
  let ping := Strategy.ofSerial ⟨⟨wanted.ping⟩, shape, config.lineSettings⟩
  let settings := PingSettings.withThreshold {} wanted.failures
  let after ← look Machine.interruptAfter
  let rounds := pingRounds settings.failureThreshold session.queue.transport.line
  let (pinger, session) :=
    session.pingUntil ping (interrupted after) rounds { threshold := settings.failureThreshold }
  close session
  match pinger.state with
  | .connected => pure ()
  | .disconnected reason =>
      if interrupted after session then pure ()
      else fail (.of (.other ("Lost connection to " ++ name ++ ": " ++ reason)))

end Run

end DeviceLink
