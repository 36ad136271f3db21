import DeviceLink.Device.ReportBus
import DeviceLink.Queue.Session

/-!
# Connections that are ready for commands

A serial connection may start with a handshake, for which the caller waits at
least as long as the handshake may take; when it fails the queue is shut down
again. A report connection claims and opens a device, and its queue holds the
claim.
-/

namespace DeviceLink.QueueSession

/-- The device did not announce itself. -/
def noStartup (name : String) : LinkError :=
  .handshakeFailed (name ++ " never sent its startup pattern")

/-- The device did not echo the answer to its announcement. -/
def noEcho (name : String) : LinkError :=
  .handshakeFailed (name ++ " did not echo the handshake response")

/-- What a handshake response means for the connection. -/
def judgeHandshake (name : String) (response : Response) : Except LinkError Unit :=
  if response.isSuccess then .ok ()
  else if response.writeOk then .error (noEcho name)
  else .error (noStartup name)

/-- Run a handshake through the queue. It breaks down when its time budget has no value. -/
def performHandshake
    (handshake : Handshake)
    (session : QueueSession SerialPort) : Except Fault Unit × QueueSession SerialPort :=
  match handshake.timeBudget? with
  | none => (.error .crash, session)
  | some budget =>
      let timeout := session.queue.settings.taskTimeout.longer budget
      match session.executeWithin (.ofHandshake handshake) timeout with
      | (.error cause, session) => (.error (.error cause), session)
      | (.ok response, session) =>
          (Line.outcomeOf (judgeHandshake session.queue.name response), session)

/-- Run a handshake on a fresh queue, and shut the queue down when it fails. -/
def finishHandshake
    (handshake : Handshake)
    (session : QueueSession SerialPort) : Except Fault Unit × QueueSession SerialPort :=
  match session.performHandshake handshake with
  | (.ok (), session) => (.ok (), session)
  | (.error fault, session) => (.error fault, session.shutdown.2)

/-- A session over an open serial port. -/
def overPort (port : SerialPort) (settings : QueueSettings) : QueueSession SerialPort where
  queue := .start port settings

/-- Open the first free report device that fits, and start a queue on it. -/
def connectReports
    (bus : ReportBus)
    (spec : ReportDeviceSpec)
    (registry : ClaimRegistry)
    (settings : QueueSettings) :
    Except LinkError (QueueSession ReportConnection) × ClaimRegistry × ReportBus :=
  match bus.openDevice spec registry with
  | (.error cause, registry, bus) => (.error cause, registry, bus)
  | (.ok acquired, registry, bus) =>
      match ReportConnection.ofPort? acquired.handle acquired.descriptor with
      | .error cause =>
          (.error cause, registry.release acquired.guard.path, bus.putClosed acquired.handle)
      | .ok connection =>
          let queue := CommandQueue.start connection settings (some acquired.guard)
          (.ok { queue := queue, registry := registry }, registry, bus)

/-- The bus as a session over one of its devices leaves it. -/
def busAfter (session : QueueSession ReportConnection) (bus : ReportBus) : ReportBus :=
  let port := session.queue.transport.port
  match session.queue.custody with
  | .worker => bus.put port
  | .returned => bus.put port
  | .closed => bus.putClosed port
  | .lost => bus.putClosed port

end DeviceLink.QueueSession
