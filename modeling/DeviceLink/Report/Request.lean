import DeviceLink.Report.Connection

/-!
# Requests over reports

A request writes one report and reads until a report answers its command id.
Reports with another id answer earlier requests that were given up; they are
skipped. Within a positive read timeout every queued report is met.
-/

namespace DeviceLink

/-- A command over reports, with the number of reply bytes that count. -/
structure ReportRequest where
  /-- The command to write. -/
  command : Command
  /-- The number of reply bytes that count. -/
  size : Nat
  /-- How long to wait for the reply. -/
  readTimeout : Duration := .ofMillis 1000
  /-- How long a single read waits for a report. -/
  pollTimeout : Duration := .ofMillis 10
  deriving DecidableEq, Inhabited

namespace ReportRequest

/-- The name of the exchange. -/
def label : String := "HidCommandStrategy"

/-- The reply did not come. -/
def unanswered : Response := ⟨true, false, none⟩

/-- The wait of one read: the poll timeout, or all that is left if that is less. -/
def wait (request : ReportRequest) : Duration :=
  if request.readTimeout.nanos < request.pollTimeout.nanos then request.readTimeout
  else request.pollTimeout

/-- Read one report; a failed read without a disconnect ends the request unanswered. -/
def readReport (request : ReportRequest) :
    Exchange ReportConnection (Except Response (Option InputReport)) := fun connection =>
  match ReportConnection.read request.wait connection with
  | (.ok report, later) => (.ok (.ok report), later)
  | (.error (.error cause), later) =>
      if cause.isDisconnect then (.error (.error cause), later)
      else (.ok (.error unanswered), later)
  | (.error .crash, later) => (.error .crash, later)

/-- Read up to `reads` reports in search of the one with the command id. -/
def awaitReply (request : ReportRequest) (commandId : UInt8) :
    Nat → Exchange ReportConnection Response
  | 0 => pure unanswered
  | reads + 1 => do
      match ← request.readReport with
      | .error response => pure response
      | .ok none => awaitReply request commandId reads
      | .ok (some report) =>
          if report.commandId = commandId then
            pure ⟨true, true, some (report.payload.take request.size)⟩
          else awaitReply request commandId reads

/-- The reads a request has time for: none with an empty timeout, else one for each event and one
more. -/
def readsAllowed (request : ReportRequest) (connection : ReportConnection) : Nat :=
  if request.readTimeout.positive then connection.port.incoming.length + 1 else 0

/-- Write the command and wait for its reply. -/
def execute (request : ReportRequest) : Exchange ReportConnection Response := fun connection =>
  match ReportConnection.write request.command.bytes connection with
  | (.ok commandId, later) => request.awaitReply commandId (request.readsAllowed later) later
  | (.error (.error cause), later) =>
      if cause.isDisconnect then (.error (.error cause), later)
      else (.ok .writeFailed, later)
  | (.error .crash, later) => (.error .crash, later)

end ReportRequest

end DeviceLink
