import DeviceLink.Proofs.Reply.Framed
import DeviceLink.Tool.SerialCommands

/-!
# Replies of the same size

A frame whose body length is a constant has as many bytes as a fixed reply of
that size. Reading it in two parts asks the line the same as reading it at
once, so both commands leave the same line behind. Their responses differ only
where the stream ends inside the body: the frame keeps its header, and the
fixed reply keeps nothing.
-/

namespace DeviceLink

open Line

/-- A reading that goes on behind bytes that were read before. -/
def Reading.behind (front : List UInt8) : Reading → Reading
  | .complete bytes => .complete (front ++ bytes)
  | .cut bytes => .cut (front ++ bytes)
  | .ended => .ended

/-- A poll meets the end of the stream behind these bytes. -/
def StreamEndsBehind
    (patient ends : Bool)
    (events : List LineEvent)
    (arrived : List UInt8) : Prop :=
  ∃ between unread,
    Delivers patient ends events arrived between ∧
    meet patient ends between = (.ok .ended, unread)

namespace Exchange

variable {σ α β γ : Type}

theorem bind_assoc
    (first : Exchange σ α)
    (second : α → Exchange σ β)
    (third : β → Exchange σ γ) :
    first >>= second >>= third = first >>= fun value => second value >>= third := by
  funext state
  rw [bind_apply, bind_apply, bind_apply]
  cases first state with
  | mk outcome later => cases outcome <;> rfl

/-- An exchange whose value is changed at the end leaves the state that it leaves without that. -/
theorem bind_pure_apply
    (exchange : Exchange σ α)
    (change : α → β)
    (state : σ) :
    (exchange >>= fun value => pure (change value)) state =
      ((exchange state).1.map change, (exchange state).2) := by
  rw [bind_apply]
  cases exchange state with
  | mk outcome later => cases outcome <;> rfl

end Exchange

namespace Line

/-! ## Reading in two parts -/

/-- Read more bytes behind a complete reading; one that stopped early stays as it is. -/
def readOn (settings : LineSettings) (count : Nat) : Reading → Exchange Line Reading
  | .complete front => do
      let reading ← read settings count
      pure (reading.behind front)
  | stopped => pure stopped

/-- Bytes that were taken before stand in front of those that are read, and change nothing else. -/
theorem readMore_append
    (budget : Duration)
    (taken earlier : List UInt8)
    (count : Nat) :
    readMore budget (taken ++ earlier) count =
      readMore budget taken count >>= fun reading => pure (reading.behind earlier.reverse) := by
  induction count generalizing taken with
  | zero =>
      change pure (Reading.complete (taken ++ earlier).reverse) = _
      rw [List.reverse_append]
      rfl
  | succ count inductionHypothesis =>
      rw [readMore, readMore, Exchange.bind_assoc]
      refine congrArg (poll budget >>= ·) (funext fun met => ?_)
      cases met with
      | byte value => exact inductionHypothesis (value :: taken)
      | expired =>
          change pure (Reading.cut (taken ++ earlier).reverse) = _
          rw [List.reverse_append]
          rfl
      | ended => rfl

/-- Reading is the same in two parts as at once. -/
theorem read_add
    (settings : LineSettings)
    (first second : Nat) :
    read settings (first + second) = read settings first >>= readOn settings second := by
  -- The bytes that were taken differ from poll to poll, so the induction has to hold for any.
  suffices parts : ∀ taken,
      readMore settings.readTimeout taken (first + second) =
        readMore settings.readTimeout taken first >>= readOn settings second from parts []
  intro taken
  induction first generalizing taken with
  | zero =>
      rw [Nat.zero_add]
      exact readMore_append settings.readTimeout [] taken second
  | succ first inductionHypothesis =>
      rw [Nat.succ_add, readMore, readMore, Exchange.bind_assoc]
      refine congrArg (poll settings.readTimeout >>= ·) (funext fun met => ?_)
      cases met with
      | byte value => exact inductionHypothesis (value :: taken)
      | expired => rfl
      | ended => rfl

section Parts

variable {settings : LineSettings} {line : Line} {first : Nat} {front : List UInt8}

/-- Behind a complete first part, reading at once goes on with the second part. -/
theorem read_add_of_complete
    (complete : (read settings first line).1 = .ok (.complete front))
    (second : Nat) :
    let next := (read settings first line).2
    read settings (first + second) line =
      ((read settings second next).1.map (Reading.behind front),
        (read settings second next).2) := by
  rw [read_add, Exchange.bind_of_ok (Prod.ext complete rfl)]
  exact Exchange.bind_pure_apply _ (Reading.behind front) _

/-- A first part that is not complete is all that is read at once. -/
theorem read_add_of_stopped
    (stopped : ¬ ∃ front, (read settings first line).1 = .ok (.complete front))
    (second : Nat) :
    read settings (first + second) line = read settings first line := by
  rw [read_add, Exchange.bind_apply]
  cases ran : read settings first line with
  | mk outcome next =>
      rw [ran] at stopped
      cases outcome with
      | error fault => rfl
      | ok reading =>
          cases reading with
          | complete front => exact absurd ⟨front, rfl⟩ stopped
          | cut arrived => rfl
          | ended => rfl

end Parts

/-! ## Readings that the end of the stream stops -/

section Ended

variable {settings : LineSettings} {line : Line} {arrived : List UInt8} {count : Nat}

/-- A reading that stopped at the end of the stream found it behind fewer bytes than it wanted. -/
theorem streamEndsBehind_of_read
    (stopped : (read settings count line).1 = .ok .ended) :
    ∃ arrived, arrived.length < count ∧
      StreamEndsBehind settings.readTimeout.positive line.endsWhenDrained line.incoming
        arrived := by
  obtain ⟨arrived, between, delivered, rfl | ⟨short, noByte⟩⟩ :=
    Delivers.up_to settings.readTimeout.positive line.endsWhenDrained count line.incoming
  · obtain ⟨later, complete, -⟩ := read_complete delivered
    rw [complete] at stopped
    cases stopped
  · refine ⟨arrived, short, ?_⟩
    cases met : meet settings.readTimeout.positive line.endsWhenDrained between with
    | mk outcome unread =>
        rw [met] at noByte
        obtain ⟨later, ran, -⟩ := read_short delivered short met noByte
        rw [ran] at stopped
        cases outcome with
        | error cause => cases stopped
        | ok poll =>
            cases poll with
            | byte value => cases noByte
            | expired => cases stopped
            | ended => exact ⟨between, unread, delivered, met⟩

/-- Reading more bytes than come before the end of the stream stops there. -/
theorem read_ended
    (ending :
      StreamEndsBehind settings.readTimeout.positive line.endsWhenDrained line.incoming arrived)
    (short : arrived.length < count) :
    (read settings count line).1 = .ok .ended := by
  obtain ⟨between, unread, delivered, met⟩ := ending
  obtain ⟨later, ran, -⟩ := read_short delivered short met rfl
  exact congrArg Prod.fst ran

end Ended

end Line

namespace ReplyShape

/-! ## Frames with bodies of constant length -/

section Receive

variable {settings : LineSettings} {headerSize bodySize : Nat} {line : Line}
  {header arrived : List UInt8}

theorem receive_fixed
    (settings : LineSettings)
    (size : Nat)
    (line : Line) :
    (fixed size).receive settings line =
      ((Line.read settings size line).1.map fixedResponse, (Line.read settings size line).2) :=
  Exchange.bind_pure_apply _ fixedResponse line

/-- Behind its header, a frame is received by reading its body. -/
theorem receive_framed_of_complete
    (complete : (Line.read settings headerSize line).1 = .ok (.complete header)) :
    let next := (Line.read settings headerSize line).2
    (framed headerSize fun _ => some bodySize).receive settings line =
      ((Line.read settings bodySize next).1.map (framedResponse header),
        (Line.read settings bodySize next).2) := by
  rw [receive, Exchange.bind_of_ok (Prod.ext complete rfl)]
  exact Exchange.bind_pure_apply _ (framedResponse header) _

/-- A frame whose header does not arrive is received like a fixed reply of its header's size. -/
theorem receive_framed_of_stopped
    (stopped : ¬ ∃ header, (Line.read settings headerSize line).1 = .ok (.complete header)) :
    (framed headerSize fun _ => some bodySize).receive settings line =
      (fixed headerSize).receive settings line := by
  rw [receive, receive, Exchange.bind_apply, Exchange.bind_apply]
  cases read : Line.read settings headerSize line with
  | mk outcome next =>
      rw [read] at stopped
      cases outcome with
      | error fault => rfl
      | ok reading =>
          cases reading with
          | complete header => exact absurd ⟨header, rfl⟩ stopped
          | cut arrived => rfl
          | ended => rfl

/-- A response to a body differs from the one to its frame only when the stream ended. -/
theorem framedResponse_of_not_ended
    {reading : Reading}
    (goesOn : reading ≠ .ended) :
    framedResponse header reading = fixedResponse (reading.behind header) := by
  cases reading with
  | complete body => rfl
  | cut body => rfl
  | ended => exact absurd rfl goesOn

/-- The header of a frame arrives, and the stream ends before all of its body does. -/
def EndsInBody
    (settings : LineSettings)
    (headerSize bodySize : Nat)
    (line : Line)
    (arrived : List UInt8) : Prop :=
  headerSize ≤ arrived.length ∧ arrived.length < headerSize + bodySize ∧
    StreamEndsBehind settings.readTimeout.positive line.endsWhenDrained line.incoming arrived

/-- A body that the end of the stream stops has that end behind its header. -/
theorem endsInBody_of_read
    (complete : (Line.read settings headerSize line).1 = .ok (.complete header))
    (stopped :
      (Line.read settings bodySize (Line.read settings headerSize line).2).1 = .ok .ended) :
    ∃ arrived, EndsInBody settings headerSize bodySize line arrived := by
  have ended : (Line.read settings (headerSize + bodySize) line).1 = .ok .ended := by
    rw [read_add_of_complete complete, stopped]
    rfl
  obtain ⟨arrived, short, ending⟩ := streamEndsBehind_of_read ended
  refine ⟨arrived, ?_, short, ending⟩
  apply Nat.le_of_not_lt
  intro headerShort
  have cut := read_ended ending headerShort
  rw [complete] at cut
  cases cut

/-- A frame with a body of constant length leaves the line that a fixed reply of its size does. -/
theorem line_of_receive_framed
    (settings : LineSettings)
    (headerSize bodySize : Nat)
    (line : Line) :
    ((framed headerSize fun _ => some bodySize).receive settings line).2 =
      ((fixed (headerSize + bodySize)).receive settings line).2 := by
  rw [receive_fixed]
  by_cases complete : ∃ header, (Line.read settings headerSize line).1 = .ok (.complete header)
  · obtain ⟨header, complete⟩ := complete
    rw [receive_framed_of_complete complete, read_add_of_complete complete]
  · rw [receive_framed_of_stopped complete, receive_fixed, read_add_of_stopped complete]

/-- Unless the stream ends in its body, a frame with a body of constant length is received like a
fixed reply of its size. Without a header the end of the stream makes no difference. -/
theorem receive_framed_alike
    (goesOn : 0 < headerSize → ∀ arrived, ¬ EndsInBody settings headerSize bodySize line arrived) :
    ((framed headerSize fun _ => some bodySize).receive settings line).1 =
      ((fixed (headerSize + bodySize)).receive settings line).1 := by
  rw [receive_fixed]
  by_cases complete : ∃ header, (Line.read settings headerSize line).1 = .ok (.complete header)
  · obtain ⟨header, complete⟩ := complete
    rw [receive_framed_of_complete complete, read_add_of_complete complete]
    cases body : (Line.read settings bodySize (Line.read settings headerSize line).2).1 with
    | error fault => rfl
    | ok reading =>
        by_cases stopped : reading = .ended
        · subst stopped
          cases headerSize with
          | zero =>
              -- The header that the frame keeps is empty, and so is what the fixed reply keeps.
              cases complete
              rfl
          | succ size =>
              obtain ⟨arrived, ending⟩ := endsInBody_of_read complete body
              exact absurd ending (goesOn (Nat.succ_pos size) arrived)
        · exact congrArg Except.ok (framedResponse_of_not_ended stopped)
  · rw [receive_framed_of_stopped complete, receive_fixed, read_add_of_stopped complete]

/-- Where the stream ends in the body, a frame keeps its header and a fixed reply keeps nothing. -/
theorem receive_of_endsInBody
    (hasHeader : 0 < headerSize)
    (ending : EndsInBody settings headerSize bodySize line arrived) :
    ((framed headerSize fun _ => some bodySize).receive settings line).1 =
        .ok ⟨true, false, some (arrived.take headerSize)⟩ ∧
      ((fixed (headerSize + bodySize)).receive settings line).1 = .ok ⟨true, false, none⟩ := by
  obtain ⟨filled, short, ending⟩ := ending
  refine ⟨?_, ?_⟩
  · obtain ⟨between, unread, delivered, met⟩ := ending
    have isFramed : (framed headerSize fun _ => some bodySize).IsFramed headerSize
        fun _ => bodySize := ⟨rfl, fun _ _ => rfl⟩
    obtain ⟨later, received, -⟩ := receive_short isFramed delivered short met rfl
    rw [received]
    change Except.ok (stoppedResponse headerSize arrived .ended) = _
    rw [stoppedResponse, if_pos ⟨filled, hasHeader⟩]
  · rw [receive_fixed, read_ended ending short]
    rfl

end Receive

end ReplyShape

namespace SerialCommand

/-- Behind a verified echo, a command is executed by receiving its reply. -/
theorem execute_of_verified
    {request : SerialCommand}
    {line : Line}
    (verified : (writeVerified request.settings request.command.bytes line).1 = .ok true) :
    request.execute line =
      request.shape.receive request.settings
        (writeVerified request.settings request.command.bytes line).2 :=
  Exchange.bind_of_ok (Prod.ext verified rfl) _

/-- Without a verified echo, the shape of the reply plays no part. -/
theorem execute_of_unverified
    {request : SerialCommand}
    {line : Line}
    (unverified : (writeVerified request.settings request.command.bytes line).1 ≠ .ok true) :
    request.execute line =
      ((writeVerified request.settings request.command.bytes line).1.map fun _ => .writeFailed,
        (writeVerified request.settings request.command.bytes line).2) := by
  rw [execute, Exchange.bind_apply]
  cases ran : writeVerified request.settings request.command.bytes line with
  | mk outcome later =>
      rw [ran] at unverified
      cases outcome with
      | error fault => rfl
      | ok echoed =>
          cases echoed with
          | true => exact absurd rfl unverified
          | false => rfl

/-- The stream ends behind a header of one byte, where a body of one byte should follow. -/
example :
    let line := Line.quiet [.answer [] (some {}) [.byte 7, .hangup]] .silent
    let run shape := (SerialCommand.mk ⟨[0x4C]⟩ shape {}).execute line
    (run (.framed 1 fun _ => some 1)).1 = .ok (.readFailed [7]) ∧
      (run (.fixed 2)).1 = .ok (.readFailed []) :=
  ⟨rfl, rfl⟩

end SerialCommand

end DeviceLink
