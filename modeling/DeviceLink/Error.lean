import DeviceLink.Time.Text

/-!
# Errors of a device link

A link error states why an operation on a device, a claim or a command queue
failed. Three of them mean that the device is gone. The wording of each cause
stands in one place, and so does the chain of texts from the outermost cause
to the innermost one.
-/

namespace DeviceLink

/-- Kinds of failure an operating system reports. -/
inductive SystemErrorKind
  | notFound
  | permissionDenied
  | brokenPipe
  | timedOut
  | unexpectedEnd
  | invalidInput
  | interrupted
  | other
  deriving DecidableEq, Inhabited

/-- The standard description of a kind of system failure. -/
def SystemErrorKind.description : SystemErrorKind → String
  | .notFound => "entity not found"
  | .permissionDenied => "permission denied"
  | .brokenPipe => "broken pipe"
  | .timedOut => "timed out"
  | .unexpectedEnd => "unexpected end of file"
  | .invalidInput => "invalid input parameter"
  | .interrupted => "operation interrupted"
  | .other => "other error"

/-- A system failure, with a text of its own if there is one. -/
structure SystemError where
  /-- The kind of the failure. -/
  kind : SystemErrorKind
  /-- A text in place of the standard description of the kind. -/
  detail : Option String := none
  deriving DecidableEq, Inhabited

/-- The text a system failure is shown with. -/
def SystemError.text (failure : SystemError) : String :=
  failure.detail.getD failure.kind.description

/-- Why an operation on a link failed. -/
inductive LinkError
  | system (failure : SystemError)
  | serial (text : String)
  | hid (text : String)
  | endOfStream
  | timeout (what : String)
  | deviceNotConnected (text : String)
  | deviceFailure (text : String)
  | deviceNotFound
  | claimConflict (path : String)
  | queueTimeout (waited : Duration)
  | queueClosed
  | handshakeFailed (text : String)
  | protocol (text : String)
  | config (text : String)
  deriving DecidableEq, Inhabited

namespace LinkError

/-- The text of the failure below a link error, where another layer reported it. -/
def source? : LinkError → Option String
  | .system failure => some failure.text
  | .serial text => some text
  | .hid text => some text
  | _ => none

/-- The text of an error. -/
def message : LinkError → String
  | .system failure => "I/O error: " ++ failure.text
  | .serial text => "Serial port error: " ++ text
  | .hid text => "HID error: " ++ text
  | .endOfStream => "End of stream"
  | .timeout what => "Timeout: " ++ what
  | .deviceNotConnected text => "Device not connected: " ++ text
  | .deviceFailure text => "Device failure: " ++ text
  | .deviceNotFound => "Device not found"
  | .claimConflict path => "Device already claimed: " ++ path
  | .queueTimeout waited => "Command did not complete within " ++ waited.text
  | .queueClosed => "Command queue is closed"
  | .handshakeFailed text => "Handshake failed: " ++ text
  | .protocol text => "Protocol error: " ++ text
  | .config text => "Configuration error: " ++ text

/-- The error behind a text with which the report bus refuses an operation. -/
def refusedByBus (text : String) : LinkError :=
  .hid ("hidapi error: " ++ text)

/-- The texts of an error and of the failure below it, outermost first. -/
def causes (error : LinkError) : List String :=
  error.message :: error.source?.toList

/-- The device itself is gone. -/
def isDisconnect : LinkError → Bool
  | .deviceNotConnected _ => true
  | .deviceFailure _ => true
  | .endOfStream => true
  | _ => false

end LinkError

end DeviceLink
