import DeviceLink.Proofs.Line.Delivery
import DeviceLink.Proofs.Reply.LengthField

/-!
# Framed replies

A framed reply is a header of fixed size and a body whose length the header
tells. Once the command is echoed, the response is a function of what the line
delivers next: the whole frame, or the start of it and then the end of the
read budget, or the start of it and then the end of the stream. Whatever the
response is, the exchange reads the bytes that arrived and none behind them.
-/

namespace DeviceLink

open Line

namespace ReplyShape

/-- A framed shape whose body length has a value on every header of its size. -/
def IsFramed (headerSize : Nat) (lengthOf : List UInt8 → Nat) : ReplyShape → Prop
  | framed size bodyLength? =>
      size = headerSize ∧
        ∀ header, header.length = headerSize → bodyLength? header = some (lengthOf header)
  | _ => False

end ReplyShape

/-- How many bytes a frame has, judged by the bytes that arrived of it. -/
def frameLength
    (headerSize : Nat)
    (lengthOf : List UInt8 → Nat)
    (arrived : List UInt8) : Nat :=
  headerSize + lengthOf (arrived.take headerSize)

/-- The response to a framed reply that stopped after the bytes that arrived. -/
def stoppedResponse (headerSize : Nat) (arrived : List UInt8) : Poll → Response
  | .ended =>
      ⟨true, false,
        if headerSize ≤ arrived.length ∧ 0 < headerSize then some (arrived.take headerSize)
        else none⟩
  | _ => ⟨true, false, if arrived.isEmpty then none else some arrived⟩

theorem stoppedResponse_ended_of_short
    {headerSize : Nat}
    {arrived : List UInt8}
    (short : arrived.length < headerSize) :
    stoppedResponse headerSize arrived .ended = .readFailed [] := by
  have incomplete : ¬ (headerSize ≤ arrived.length ∧ 0 < headerSize) := by omega
  rw [stoppedResponse, if_neg incomplete]
  rfl

theorem stoppedResponse_ended_of_header
    {headerSize : Nat}
    {arrived : List UInt8}
    (size : (arrived.take headerSize).length = headerSize) :
    stoppedResponse headerSize arrived .ended = .readFailed (arrived.take headerSize) := by
  have enough : headerSize ≤ arrived.length := by
    rw [List.length_take] at size
    omega
  unfold stoppedResponse Response.readFailed
  cases headerSize with
  | zero => simp
  | succ more =>
      have filled : (arrived.take (more + 1)).isEmpty = false := by
        cases taken : arrived.take (more + 1) with
        | nil =>
            rw [taken] at size
            cases size
        | cons first rest => rfl
      rw [if_pos ⟨enough, Nat.succ_pos more⟩, filled]
      rfl

/-- What a line delivers in place of a frame, with the response to it. The frame arrives, or
it stays short of its length until the read budget or the stream ends. -/
inductive FrameEnding
    (headerSize : Nat)
    (lengthOf : List UInt8 → Nat)
    (patient ends : Bool)
    (events : List LineEvent) : Response → List UInt8 → List LineEvent → Prop
  | complete
      {arrived : List UInt8}
      {unread : List LineEvent}
      (delivered : Delivers patient ends events arrived unread)
      (full : arrived.length = frameLength headerSize lengthOf arrived) :
      FrameEnding headerSize lengthOf patient ends events
        ⟨true, true, some arrived⟩ arrived unread
  | expired
      {arrived : List UInt8}
      {between unread : List LineEvent}
      (delivered : Delivers patient ends events arrived between)
      (short : arrived.length < frameLength headerSize lengthOf arrived)
      (met : meet patient ends between = (.ok .expired, unread)) :
      FrameEnding headerSize lengthOf patient ends events
        ⟨true, false, if arrived.isEmpty then none else some arrived⟩ arrived unread
  | ended
      {arrived : List UInt8}
      {between unread : List LineEvent}
      (delivered : Delivers patient ends events arrived between)
      (short : arrived.length < frameLength headerSize lengthOf arrived)
      (met : meet patient ends between = (.ok .ended, unread)) :
      FrameEnding headerSize lengthOf patient ends events
        ⟨true, false,
          if headerSize ≤ arrived.length ∧ 0 < headerSize then some (arrived.take headerSize)
          else none⟩
        arrived unread

/-- A line fails before all of a frame has arrived. -/
def FrameFailure
    (headerSize : Nat)
    (lengthOf : List UInt8 → Nat)
    (patient ends : Bool)
    (events : List LineEvent) : Prop :=
  ∃ arrived between unread cause,
    Delivers patient ends events arrived between ∧
    arrived.length < frameLength headerSize lengthOf arrived ∧
    meet patient ends between = (.error cause, unread)

section Endings

variable {headerSize : Nat} {lengthOf : List UInt8 → Nat} {patient ends : Bool}
  {events : List LineEvent}

/-- Bytes short of a frame behind which no byte comes are an ending or a failure. -/
theorem ending_or_failure_of_stop
    {arrived : List UInt8}
    {between : List LineEvent}
    (delivered : Delivers patient ends events arrived between)
    (short : arrived.length < frameLength headerSize lengthOf arrived)
    (noByte : arrival (meet patient ends between).1 = []) :
    (∃ response arrived unread,
      FrameEnding headerSize lengthOf patient ends events response arrived unread) ∨
    FrameFailure headerSize lengthOf patient ends events := by
  cases met : meet patient ends between with
  | mk outcome unread =>
      rw [met] at noByte
      cases outcome with
      | error cause => exact .inr ⟨arrived, between, unread, cause, delivered, short, met⟩
      | ok poll =>
          cases poll with
          | byte value => cases noByte
          | expired => exact .inl ⟨_, arrived, unread, .expired delivered short met⟩
          | ended => exact .inl ⟨_, arrived, unread, .ended delivered short met⟩

/-- Every line delivers something in place of a frame, unless it fails first. -/
theorem ending_or_failure
    (headerSize : Nat)
    (lengthOf : List UInt8 → Nat)
    (patient ends : Bool)
    (events : List LineEvent) :
    (∃ response arrived unread,
      FrameEnding headerSize lengthOf patient ends events response arrived unread) ∨
    FrameFailure headerSize lengthOf patient ends events := by
  obtain ⟨header, between, delivered, size | ⟨headerShort, noByte⟩⟩ :=
    Delivers.up_to patient ends headerSize events
  · obtain ⟨body, unread, behind, full | ⟨bodyShort, noByte⟩⟩ :=
      Delivers.up_to patient ends (lengthOf header) between
    · left
      refine ⟨_, header ++ body, unread, .complete (delivered.append behind) ?_⟩
      rw [frameLength, ← size, List.take_left, List.length_append, full]
    · refine ending_or_failure_of_stop (delivered.append behind) ?_ noByte
      rw [frameLength, ← size, List.take_left, List.length_append]
      omega
  · refine ending_or_failure_of_stop delivered ?_ noByte
    unfold frameLength
    omega

end Endings

namespace ReplyShape

section Receive

variable {settings : LineSettings} {shape : ReplyShape} {headerSize : Nat}
  {lengthOf : List UInt8 → Nat} {line : Line} {arrived : List UInt8}
  {between unread : List LineEvent}

/-- Behind a complete header, a framed reply is received by reading its body. -/
theorem receive_of_header
    {header : List UInt8}
    (framed : shape.IsFramed headerSize lengthOf)
    (size : header.length = headerSize)
    (delivered :
      Delivers settings.readTimeout.positive line.endsWhenDrained line.incoming header between) :
    ∃ later,
      shape.receive settings line =
        (Line.read settings (lengthOf header) >>= fun reading =>
          pure (framedResponse header reading)) later ∧
      line.Reads header between later := by
  cases shape with
  | nothing => exact framed.elim
  | fixed size => exact framed.elim
  | framed expected bodyLength? =>
      obtain ⟨rfl, total⟩ := framed
      subst size
      obtain ⟨later, read, reads⟩ := read_complete delivered
      refine ⟨later, ?_, reads⟩
      rw [receive, Exchange.bind_of_ok read]
      simp only [total header rfl]
      rfl

/-- A frame that arrives is received. -/
theorem receive_complete
    (framed : shape.IsFramed headerSize lengthOf)
    (delivered :
      Delivers settings.readTimeout.positive line.endsWhenDrained line.incoming arrived unread)
    (full : arrived.length = frameLength headerSize lengthOf arrived) :
    ∃ later,
      shape.receive settings line = (.ok ⟨true, true, some arrived⟩, later) ∧
      line.Reads arrived unread later := by
  have parts := List.take_append_drop headerSize arrived
  unfold frameLength at full
  have size : (arrived.take headerSize).length = headerSize := by
    rw [List.length_take]
    omega
  have rest : (arrived.drop headerSize).length = lengthOf (arrived.take headerSize) := by
    rw [List.length_drop]
    omega
  rw [← parts] at delivered
  obtain ⟨middle, header, body⟩ := delivered.split
  obtain ⟨next, goesOn, reads⟩ := receive_of_header framed size header
  rw [← reads.incoming_eq, ← reads.endsWhenDrained_eq] at body
  obtain ⟨later, read, readsOn⟩ := read_complete body
  refine ⟨later, ?_, ?_⟩
  · rw [goesOn, ← rest, Exchange.bind_of_ok read]
    simp only [framedResponse, parts]
    rfl
  · rw [← parts]
    exact reads.trans readsOn

/-- A header that stops early is received up to where it stops. -/
theorem receive_of_header_short
    {outcome : Except LinkError Poll}
    (framed : shape.IsFramed headerSize lengthOf)
    (delivered :
      Delivers settings.readTimeout.positive line.endsWhenDrained line.incoming arrived between)
    (short : arrived.length < headerSize)
    (met :
      meet settings.readTimeout.positive line.endsWhenDrained between = (outcome, unread))
    (noByte : arrival outcome = []) :
    ∃ later,
      shape.receive settings line =
        (outcomeOf (outcome.map (stoppedResponse headerSize arrived)), later) ∧
      line.Reads arrived unread later := by
  cases shape with
  | nothing => exact framed.elim
  | fixed size => exact framed.elim
  | framed expected bodyLength? =>
      obtain ⟨rfl, total⟩ := framed
      obtain ⟨later, read, reads⟩ := read_short delivered short met noByte
      refine ⟨later, ?_, reads⟩
      rw [receive]
      cases outcome with
      | error cause => exact Exchange.bind_of_error read _
      | ok poll =>
          rw [Exchange.bind_of_ok read]
          cases poll with
          | byte value => cases noByte
          | expired => rfl
          | ended =>
              change _ = (Except.ok (stoppedResponse expected arrived .ended), later)
              rw [stoppedResponse_ended_of_short short]
              rfl

/-- A frame that stops early, in its header or in its body, is received up to where it stops. -/
theorem receive_short
    {outcome : Except LinkError Poll}
    (framed : shape.IsFramed headerSize lengthOf)
    (delivered :
      Delivers settings.readTimeout.positive line.endsWhenDrained line.incoming arrived between)
    (short : arrived.length < frameLength headerSize lengthOf arrived)
    (met :
      meet settings.readTimeout.positive line.endsWhenDrained between = (outcome, unread))
    (noByte : arrival outcome = []) :
    ∃ later,
      shape.receive settings line =
        (outcomeOf (outcome.map (stoppedResponse headerSize arrived)), later) ∧
      line.Reads arrived unread later := by
  by_cases headerShort : arrived.length < headerSize
  · exact receive_of_header_short framed delivered headerShort met noByte
  · have parts := List.take_append_drop headerSize arrived
    unfold frameLength at short
    have size : (arrived.take headerSize).length = headerSize := by
      rw [List.length_take]
      omega
    have bodyShort : (arrived.drop headerSize).length < lengthOf (arrived.take headerSize) := by
      rw [List.length_drop]
      omega
    rw [← parts] at delivered
    obtain ⟨middle, header, body⟩ := delivered.split
    obtain ⟨next, goesOn, reads⟩ := receive_of_header framed size header
    rw [← reads.incoming_eq, ← reads.endsWhenDrained_eq] at body
    rw [← reads.endsWhenDrained_eq] at met
    obtain ⟨later, read, readsOn⟩ := read_short body bodyShort met noByte
    refine ⟨later, ?_, ?_⟩
    · rw [goesOn]
      cases outcome with
      | error cause => exact Exchange.bind_of_error read _
      | ok poll =>
          rw [Exchange.bind_of_ok read]
          cases poll with
          | byte value => cases noByte
          | expired =>
              simp only [framedResponse, shortReading, parts]
              rfl
          | ended =>
              change _ = (Except.ok (stoppedResponse headerSize arrived .ended), later)
              rw [stoppedResponse_ended_of_header size]
              rfl
    · rw [← parts]
      exact reads.trans readsOn

/-- Whatever a line delivers in place of a frame is received with the response to it. -/
theorem receive_of_ending
    {response : Response}
    (framed : shape.IsFramed headerSize lengthOf)
    (ending :
      FrameEnding headerSize lengthOf settings.readTimeout.positive line.endsWhenDrained
        line.incoming response arrived unread) :
    ∃ later,
      shape.receive settings line = (.ok response, later) ∧
      line.Reads arrived unread later := by
  cases ending with
  | complete delivered full => exact receive_complete framed delivered full
  | expired delivered short met => exact receive_short framed delivered short met rfl
  | ended delivered short met => exact receive_short framed delivered short met rfl

/-- A response to a framed reply is the response to what the line delivers in its place. -/
theorem ending_of_receive
    {response : Response}
    {later : Line}
    (framed : shape.IsFramed headerSize lengthOf)
    (received : shape.receive settings line = (.ok response, later)) :
    ∃ arrived unread,
      FrameEnding headerSize lengthOf settings.readTimeout.positive line.endsWhenDrained
        line.incoming response arrived unread ∧
      line.Reads arrived unread later := by
  obtain ⟨response, arrived, unread, ending⟩ |
      ⟨arrived, between, unread, cause, delivered, short, met⟩ :=
    ending_or_failure headerSize lengthOf settings.readTimeout.positive line.endsWhenDrained
      line.incoming
  · obtain ⟨_, same, reads⟩ := receive_of_ending framed ending
    rw [received] at same
    cases same
    exact ⟨arrived, unread, ending, reads⟩
  · obtain ⟨_, failed, -⟩ := receive_short framed delivered short met rfl
    rw [received] at failed
    cases failed

end Receive

/-- A shape made from a length field has the field inside its header, where every header of
its size has a number. -/
theorem isFramed_of_withLengthField
    {field : LengthField}
    {headerSize offset : Nat}
    {shape : ReplyShape}
    (made : withLengthField field headerSize offset = .ok shape) :
    offset + field.width ≤ headerSize ∧
      shape.IsFramed headerSize fun header => (field.lengthAt? offset header).getD 0 := by
  obtain ⟨-, crashed⟩ | ⟨-, -, refused⟩ | ⟨-, within, accepted⟩ :=
    withLengthField_cases field headerSize offset
  · cases crashed.symm.trans made
  · cases refused.symm.trans made
  · cases accepted.symm.trans made
    refine ⟨within, rfl, ?_⟩
    rintro header rfl
    change _ = some ((field.lengthAt? offset header).getD 0)
    rw [field.lengthAt?_eq_integer within]
    rfl

end ReplyShape

namespace SerialCommand

/-- The outcome of a framed command. Once its echo is verified, it ends with a response exactly
when no failure comes before the end of the frame, and that response is the one to what the
line delivers in place of the frame; the bytes that arrived are read and none behind them. If
its echo is not verified, the write failed and nothing is read. The length field of a shape
that was made from one lies inside the header, so every header has a body length. -/
theorem execute_framed
    (request : SerialCommand)
    (headerSize : Nat)
    (lengthOf : List UInt8 → Nat)
    (framed : request.shape.IsFramed headerSize lengthOf)
    (line : Line) :
    let written := writeVerified request.settings request.command.bytes line
    let ending := FrameEnding headerSize lengthOf request.settings.readTimeout.positive
      written.2.endsWhenDrained written.2.incoming
    (written.1 = .ok true →
      (∀ response arrived unread, ending response arrived unread →
        ∃ later, request.execute line = (.ok response, later) ∧
          later.incoming = unread ∧ bytesRead (written.2.since later) = arrived) ∧
      (∀ response later, request.execute line = (.ok response, later) →
        ending response (bytesRead (written.2.since later)) later.incoming)) ∧
    (written.1 = .ok false → request.execute line = (.ok .writeFailed, written.2)) ∧
    (∀ field size offset shape, ReplyShape.withLengthField field size offset = .ok shape →
      offset + field.width ≤ size ∧
        shape.IsFramed size fun header => (field.lengthAt? offset header).getD 0) := by
  intro written ending
  refine ⟨?_, ?_, ?_⟩
  · intro verified
    have received : request.execute line = request.shape.receive request.settings written.2 :=
      Exchange.bind_of_ok (Prod.ext verified rfl) _
    rw [received]
    refine ⟨?_, ?_⟩
    · intro response arrived unread ends
      obtain ⟨later, ran, reads⟩ := ReplyShape.receive_of_ending framed ends
      exact ⟨later, ran, reads.incoming_eq, reads.bytesRead_since⟩
    · intro response later ran
      obtain ⟨arrived, unread, ends, reads⟩ := ReplyShape.ending_of_receive framed ran
      rw [reads.incoming_eq, reads.bytesRead_since]
      exact ends
  · intro unverified
    exact Exchange.bind_of_ok (Prod.ext unverified rfl) _
  · intro field size offset shape made
    exact ReplyShape.isFramed_of_withLengthField made

/-- A frame of two header bytes and two body bytes, with a gap in between and one byte behind. -/
theorem execute_framed_past_gap :
    let request : SerialCommand :=
      { command := ⟨[0x4C]⟩, shape := .framed 2 (LengthField.byte.lengthAt? 1) }
    let reply := LineEvent.bytes [0xAA, 2, 7] ++ .gap :: LineEvent.bytes [8, 9]
    let line := Line.quiet [.answer [] (some {}) reply] .silent
    let written := writeVerified request.settings request.command.bytes line
    ReplyShape.withLengthField .byte 2 1 = .ok request.shape ∧
      request.shape.IsFramed 2 (fun header => (LengthField.byte.lengthAt? 1 header).getD 0) ∧
      written.1 = .ok true ∧
      ∃ later, request.execute line = (.ok (.successWith [0xAA, 2, 7, 8]), later) ∧
        later.incoming = [.byte 9] ∧ bytesRead (written.2.since later) = [0xAA, 2, 7, 8] := by
  intro request reply line written
  have made : ReplyShape.withLengthField .byte 2 1 = .ok request.shape := rfl
  have framed := (ReplyShape.isFramed_of_withLengthField made).2
  have delivered : Delivers true false written.2.incoming [0xAA, 2, 7, 8] [.byte 9] :=
    .byte rfl (.byte rfl (.byte rfl (.byte rfl (.nothing _))))
  refine ⟨made, framed, rfl, ?_⟩
  exact ((execute_framed request 2 _ framed line).1 rfl).1 _ _ _ (.complete delivered rfl)

end SerialCommand

end DeviceLink
