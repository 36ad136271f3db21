import DeviceLink.Error
import DeviceLink.Exchange
import DeviceLink.Text.JsonFields

/-!
# Errors and durations in scenarios

A scenario names an error by its kind and its text, and the record of an error
tells its kind, its message and whether the device is gone.
-/

namespace DeviceLink

/-- The system failure of a kind; names that are not known stand for other failures. -/
def SystemErrorKind.ofName : String → SystemErrorKind
  | "NotFound" => .notFound
  | "PermissionDenied" => .permissionDenied
  | "BrokenPipe" => .brokenPipe
  | "TimedOut" => .timedOut
  | "UnexpectedEof" => .unexpectedEnd
  | "InvalidInput" => .invalidInput
  | "Interrupted" => .interrupted
  | _ => .other

/-- The system failure that a scenario describes. -/
def SystemError.ofJson (value : Json) : SystemError :=
  ⟨.ofName (value.str "io_kind"), value.text? "text"⟩

namespace LinkError

/-- The name of the kind of an error. -/
def kindName : LinkError → String
  | system _ => "Io"
  | serial _ => "Serial"
  | hid _ => "Hid"
  | endOfStream => "EndOfStream"
  | timeout _ => "Timeout"
  | deviceNotConnected _ => "DeviceNotConnected"
  | deviceFailure _ => "DeviceFailure"
  | deviceNotFound => "DeviceNotFound"
  | claimConflict _ => "ClaimConflict"
  | queueTimeout _ => "QueueTimeout"
  | queueClosed => "QueueClosed"
  | handshakeFailed _ => "HandshakeFailed"
  | protocol _ => "Protocol"
  | config _ => "Config"

/-- The error that a scenario describes. -/
def ofJson (value : Json) : LinkError :=
  let text := value.str "text"
  match value.str "kind" with
  | "Io" => system (.ofJson value)
  | "Serial" => serial text
  | "Hid" => refusedByBus text
  | "EndOfStream" => endOfStream
  | "Timeout" => timeout text
  | "DeviceNotConnected" => deviceNotConnected text
  | "DeviceFailure" => deviceFailure text
  | "DeviceNotFound" => deviceNotFound
  | "ClaimConflict" => claimConflict text
  | "QueueTimeout" =>
      let nanos := value.nat "secs" * 1000000000 + value.nat "nanos"
      queueTimeout ((Duration.ofNanos? nanos).getD .zero)
  | "QueueClosed" => queueClosed
  | "HandshakeFailed" => handshakeFailed text
  | "Config" => config text
  | _ => protocol text

/-- The record of an error. -/
def toJson (error : LinkError) : Json :=
  .record
    [ ("error", .string error.kindName), ("message", .string error.message),
      ("disconnect", .bool error.isDisconnect) ]

end LinkError

namespace Json

/-- The record of a result: that of its value or that of its error. -/
def ofResult {α : Type} (write : α → Json) : Except LinkError α → Json
  | .ok value => write value
  | .error cause => cause.toJson

/-- The value of an operation that only succeeds. -/
def done (_ : Unit) : Json := string "ok"

/-- The record of a duration: its nanoseconds and its text. -/
def ofDuration (span : Duration) : Json :=
  record [("ns", decimal span.nanos), ("text", string span.text)]

end Json

end DeviceLink
