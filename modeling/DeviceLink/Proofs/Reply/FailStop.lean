import DeviceLink.Reply.Handshake
import DeviceLink.Reply.Shape
import DeviceLink.Proofs.Line.Failures

/-!
# Serial exchanges stop at the first failure

Commands with any shape of reply and handshakes end with an error exactly when
an operation of the line failed. The error is the cause of that failure, the
failure is the last operation, and without one the exchange ends with a
response. The end of the stream and timeouts of reads only shape the response.
-/

namespace DeviceLink

open Line

/-- Every header of the right size has a body length. -/
def ReplyShape.IsTotal : ReplyShape → Prop
  | framed headerSize bodyLength? =>
      ∀ header, header.length = headerSize → ∃ length, bodyLength? header = some length
  | _ => True

/-- What is executed on a serial line: commands with each shape of reply, and handshakes. -/
inductive SerialExchange : Exchange Line Response → Prop
  | command (request : SerialCommand) (total : request.shape.IsTotal) :
      SerialExchange request.execute
  | handshake (handshake : Handshake) : SerialExchange handshake.execute

namespace Line

/-- A reading that is complete has as many bytes as were asked for. -/
theorem length_of_readMore
    {budget : Duration}
    {taken bytes : List UInt8}
    {count : Nat}
    {line later : Line}
    (ran : readMore budget taken count line = (.ok (.complete bytes), later)) :
    bytes.length = taken.length + count := by
  induction count generalizing taken line with
  | zero =>
      simp only [readMore, Exchange.pure_apply, Prod.mk.injEq, Except.ok.injEq,
        Reading.complete.injEq] at ran
      rw [← ran.1, List.length_reverse, Nat.add_zero]
  | succ count inductionHypothesis =>
      rw [readMore] at ran
      cases polled : poll budget line with
      | mk outcome next =>
          cases outcome with
          | error fault =>
              rw [Exchange.bind_of_error polled] at ran
              cases ran
          | ok met =>
              rw [Exchange.bind_of_ok polled] at ran
              cases met with
              | byte value =>
                  have length := inductionHypothesis ran
                  rw [List.length_cons] at length
                  omega
              | expired => cases ran
              | ended => cases ran

namespace FailStop

theorem ofOption
    {α : Type}
    {value? : Option α}
    (present : ∃ value, value? = some value) :
    FailStop (Exchange.ofOption value?) := by
  obtain ⟨value, rfl⟩ := present
  exact .pure value

/-- Receiving a reply is of this kind, since every header that arrives in full has a length. -/
theorem receive
    (settings : LineSettings)
    {shape : ReplyShape}
    (total : shape.IsTotal) :
    FailStop (shape.receive settings) := by
  cases shape with
  | nothing => exact .pure Response.success
  | fixed size => exact .bind (.read settings size) fun _ => .pure _
  | framed headerSize bodyLength? =>
      refine .bind_of_values (.read settings headerSize) fun line reading later ran => ?_
      cases reading with
      | complete header =>
          have size : header.length = headerSize := by
            have length := length_of_readMore ran
            rw [List.length_nil, Nat.zero_add] at length
            exact length
          refine .bind (ofOption (total header size)) fun length => ?_
          exact .bind (.read settings length) fun _ => .pure _
      | cut arrived => exact .pure (Response.readFailed arrived)
      | ended => exact .pure (Response.readFailed [])

end FailStop

end Line

/-- A command is written until it is echoed, and then its reply is received. -/
theorem SerialCommand.failStop_execute
    (request : SerialCommand)
    (total : request.shape.IsTotal) :
    FailStop request.execute := by
  refine .bind (.writeVerified request.settings request.command.bytes) fun echoed => ?_
  cases echoed with
  | true => exact .receive request.settings total
  | false => exact .pure Response.writeFailed

/-- A handshake awaits one pattern, writes, and awaits another one. -/
theorem Handshake.failStop_execute (handshake : Handshake) : FailStop handshake.execute := by
  refine .bind (.awaitPattern handshake.settings handshake.startup) fun announced => ?_
  cases announced with
  | false => exact .pure Response.writeFailed
  | true =>
      refine .bind (.write handshake.response) fun _ => ?_
      refine .bind (.awaitPattern handshake.settings handshake.response) fun echoed => ?_
      cases echoed with
      | true => exact .pure Response.success
      | false => exact .pure (Response.readFailed [])

namespace SerialExchange

theorem failStop
    {exchange : Exchange Line Response}
    (serial : SerialExchange exchange) :
    FailStop exchange := by
  cases serial with
  | command request total => exact request.failStop_execute total
  | handshake handshake => exact handshake.failStop_execute

end SerialExchange

end DeviceLink
