import DeviceLink.Queue.Strategy
import DeviceLink.Queue.Basic
import DeviceLink.Scenario.Faults

/-!
# Serial devices and strategies in scenarios

A scenario describes what waits on a serial line, how its device replies, and
the strategies to execute on it.
-/

namespace DeviceLink

/-- The events that one item of a scenario stands for. -/
def LineEvent.ofScenario (value : Json) : List LineEvent :=
  let repeated := fun (name : String) (event : LineEvent) =>
    List.replicate (value.nat name) event
  match value with
  | .string digits => LineEvent.bytes (Json.bytesOf digits)
  | value =>
      if value.has "fill" then
        LineEvent.bytes (List.replicate (value.nat "times") (value.bytes "fill")).flatten
      else if value.has "err" then [.readFailure (.ofJson (value.get "err"))]
      else if value.has "avail_err" then [.pollFailure (.ofJson (value.get "avail_err"))]
      else repeated "gap" .gap ++ repeated "timeout" .silence ++ repeated "eof" .hangup

/-- The events in a field of a scenario. -/
def LineEvent.inField (value : Json) (name : String) : List LineEvent :=
  (value.all name).flatMap LineEvent.ofScenario

/-- The name an event is listed under. -/
def LineEvent.shown : LineEvent → String
  | .byte value => Hex.byte value
  | .gap => "gap"
  | .silence => "timeout"
  | .hangup => "eof"
  | .readFailure _ => "err"
  | .pollFailure _ => "avail_err"

/-- The reply to a write that a scenario describes. -/
def LineReply.ofScenario (value : Json) : LineReply :=
  if value.has "err" then .refuse (.ofJson (value.get "err"))
  else
    let echo : EchoShape := { flipped := value.nat? "flip", kept := value.nat? "cut" }
    .answer (LineEvent.inField value "pre") (if value.flag "echo" then some echo else none)
      (LineEvent.inField value "post")

/-- The line with a device that follows replies. -/
def Line.ofScenario (value : Json) : Line :=
  { incoming := LineEvent.inField value "rx"
    endsWhenDrained := value.flag "eof_when_empty"
    device := .replying ((value.all "replies").map .ofScenario)
      (.ofScenario (value.get "default_reply")) }

/-- The turn of a device that a scenario describes. -/
def LineTurn.ofScenario (value : Json) : LineTurn :=
  { awaited := value.nat "len"
    echo := value.flag "echo"
    reply := value.bytes "reply" }

/-- The line with a device that announces itself and then takes turns. -/
def Line.ofTurns (value : Json) : Line :=
  { incoming := LineEvent.bytes (value.bytes "startup")
    endsWhenDrained := false
    device := .turning [] ((value.all "exchanges").map .ofScenario) }

/-! ### Settings, commands and responses -/

/-- The line settings that a scenario describes, over the default ones. -/
def LineSettings.ofScenario (value : Json) : LineSettings :=
  let defaults : LineSettings := {}
  { readTimeout := (value.millis? "read_timeout_ms").getD defaults.readTimeout
    drainTimeout := (value.millis? "slurp_timeout_ms").getD defaults.drainTimeout
    maxRetries := ((value.nat? "max_retries").map UInt32.ofNat).getD defaults.maxRetries
    pollInterval := (value.millis? "poll_interval_ms").getD defaults.pollInterval }

/-- The record of line settings. -/
def LineSettings.toJson (settings : LineSettings) : Json :=
  .record
    [ ("read_timeout", .ofDuration settings.readTimeout),
      ("slurp_timeout", .ofDuration settings.drainTimeout),
      ("max_retries", .natural settings.maxRetries.toNat),
      ("poll_interval", .ofDuration settings.pollInterval) ]

/-- The queue settings that a scenario describes; each timeout is five seconds unless given. -/
def QueueSettings.ofScenario (value : Json) : QueueSettings :=
  let usual := Duration.ofMillis 5000
  { taskTimeout := (value.millis? "task_timeout_ms").getD usual
    drainTimeout := (value.millis? "drain_timeout_ms").getD usual
    closeTimeout := (value.millis? "close_timeout_ms").getD usual }

/-- The record of queue settings. -/
def QueueSettings.toJson (settings : QueueSettings) : Json :=
  .record
    [ ("task_timeout", .ofDuration settings.taskTimeout),
      ("drain_timeout", .ofDuration settings.drainTimeout),
      ("close_timeout", .ofDuration settings.closeTimeout) ]

/-- The response that a scenario describes. -/
def Response.ofScenario (value : Json) : Response :=
  match value.str "make" with
  | "success" => .success
  | "write_failed" => .writeFailed
  | "success_with_data" => .successWith (value.bytes "data")
  | "read_failed" => .readFailed (value.bytes "data")
  | _ => ⟨value.flag "write_ok", value.flag "read_ok", value.bytes? "data"⟩

/-- The fields of the record of a response. -/
def Response.fields (response : Response) : List (String × Json) :=
  [ ("success", .bool response.isSuccess), ("write_ok", .bool response.writeOk),
    ("read_ok", .bool response.readOk), ("data", .orNull .hex response.data) ]

/-- The record of a response. -/
def Response.toJson (response : Response) : Json :=
  .record response.fields

/-! ### Strategies -/

/-- The framed reply that a scenario describes. -/
def ReplyShape.framedOfScenario (value : Json) : Except Fault ReplyShape :=
  let headerSize := value.nat "header_size"
  let inHeader := fun (field : LengthField) => withLengthField field headerSize (value.nat "offset")
  let length := value.get "length"
  match length.string? with
  | some "u8" => inHeader .byte
  | some "u16be" => inHeader .wordBigEndian
  | some "u16le" => inHeader .wordLittleEndian
  | some _ => .ok (.framed headerSize fun header => some header.length)
  | none =>
      match (length.all "product").filterMap Json.natural? with
      | [first, second] =>
          .ok (.framed headerSize fun header => do
            let left ← header[first]?
            let right ← header[second]?
            pure (left.toNat * right.toNat))
      | _ => .ok (.framed headerSize fun _ => some (length.nat "const"))

/-- The handshake that a scenario describes. -/
def Handshake.ofScenario (settings : LineSettings) (value : Json) : Handshake :=
  { startup := value.bytes "startup"
    response := value.bytes "response"
    settleDelay := (value.millis? "settle_ms").getD (.ofMillis 600)
    settings := settings }

namespace Strategy

/-- How a rehearsed strategy ends. -/
def endingOfScenario (value response : Json) : Except Fault Response :=
  if value.flag "panic" then .error .crash
  else if value.has "err" then .error (.error (.ofJson (value.get "err")))
  else .ok (.ofScenario response)

/-- The rehearsed strategy that a scenario describes. -/
def rehearsedOfScenario (value : Json) : Strategy SerialPort :=
  { rehearsed "Scripted" (value.bytes? "write")
      (endingOfScenario value (value.get "response")) with
    gate := value.text? "gate"
    labelCrashes := value.flag "label_panic" }

/-- The strategy that a scenario describes, with settings of its own or those of the session. -/
def ofScenario (session : LineSettings) (value : Json) : Except Fault (Strategy SerialPort) :=
  let settings := if value.has "io" then .ofScenario (value.get "io") else session
  let request := fun (shape : ReplyShape) =>
    ofSerial { command := ⟨value.bytes "command"⟩, shape := shape, settings := settings }
  match value.str "kind" with
  | "no_return" => .ok (request .nothing)
  | "fixed" => .ok (request (.fixed (value.nat "size")))
  | "variable" => (ReplyShape.framedOfScenario value).map request
  | "handshake" => .ok (ofHandshake (.ofScenario settings value))
  | _ => .ok (rehearsedOfScenario value)

end Strategy

/-- The request over reports that a scenario describes. -/
def ReportRequest.ofScenario (value : Json) : ReportRequest :=
  let request : ReportRequest := { command := ⟨value.bytes "command"⟩, size := value.nat "size" }
  { request with
    readTimeout := (value.millis? "read_timeout_ms").getD request.readTimeout
    pollTimeout := (value.millis? "poll_timeout_ms").getD request.pollTimeout }

/-- The way a transport closes that a scenario describes. -/
def Closing.ofScenario : Json → Closing
  | .string "panic" => .crashed
  | .string "hang" => .stuck
  | .null => .finished (.ok ())
  | value => .finished (.error (.ofJson value))

/-- The open serial port that a scenario describes. -/
def SerialPort.ofScenario (value : Json) : SerialPort :=
  { name := (value.text? "name").getD "fake-serial"
    line := .ofScenario value
    onClose := .ofScenario (value.get "close") }

end DeviceLink
