import DeviceLink.Proofs.Line.Delays
import DeviceLink.Reply.Handshake
import DeviceLink.Reply.Shape

/-!
# Exchanges on lines with delays

Handshakes are put together from exchanges that pass over delays, and so is the
way a reply is received. A command passes over them too as long as its first
attempt is echoed: only the drain behind a failed attempt stops at a delay.
-/

namespace DeviceLink

namespace DelayKind

variable {kind : DelayKind}

/-- Receiving a reply reads one number of bytes, or two of them. -/
theorem Steady.receive
    {settings : LineSettings}
    (timed : settings.readTimeout.positive = true)
    (shape : ReplyShape) :
    kind.Steady (shape.receive settings) := by
  cases shape with
  | nothing => exact .pure Response.success
  | fixed size => exact .bind (.read timed size) fun _ => .pure _
  | framed headerSize bodyLength? =>
      refine .bind (.read timed headerSize) fun reading => ?_
      cases reading with
      | cut arrived => exact .pure (Response.readFailed arrived)
      | ended => exact .pure (Response.readFailed [])
      | complete header =>
          refine .bind (.ofOption (bodyLength? header)) fun length => ?_
          exact .bind (.read timed length) fun _ => .pure _

/-- A handshake awaits a pattern, writes, and awaits another one. -/
theorem Steady.handshake
    (handshake : Handshake)
    (timed : handshake.settings.readTimeout.positive = true)
    (drains : handshake.settings.drainTimeout.positive = true) :
    kind.Steady handshake.execute := by
  refine .bind (.awaitPattern timed drains handshake.startup) fun announced => ?_
  cases announced with
  | false => exact .pure Response.writeFailed
  | true =>
      refine .bind (.write handshake.response) fun _ => ?_
      refine .bind (.awaitPattern timed drains handshake.response) fun echoed => ?_
      cases echoed with
      | true => exact .pure Response.success
      | false => exact .pure (Response.readFailed [])

/-- A command whose first attempt is echoed receives its reply next, on either line. -/
theorem EndsAlike.command
    {first second : Line}
    (alike : kind.Alike first second)
    (request : SerialCommand)
    (timed : request.settings.readTimeout.positive = true)
    (verified : (Line.writeVerified request.settings request.command.bytes first).1 = .ok true)
    (once :
      Line.bytesWritten
        (first.since (Line.writeVerified request.settings request.command.bytes first).2) =
          [request.command.bytes]) :
    kind.EndsAlike request.execute first second := by
  have ends := EndsAlike.writeVerified alike timed (Prod.ext verified rfl) once
  refine ends.bind fun echoed ran => ?_
  rw [verified] at ran
  cases ran
  exact Steady.receive timed request.shape _ _ ends.later

/-- On lines that are the same but for delays, handshakes with time end with the same outcome and
the same writes, and so do all commands that are verified at their first attempt. What they leave
unread is the same again but for delays. -/
theorem endsAlike_despite_delays
    (kind : DelayKind)
    {first second : Line}
    (alike : kind.Alike first second) :
    (∀ handshake : Handshake,
      handshake.settings.readTimeout.positive = true →
      handshake.settings.drainTimeout.positive = true →
      kind.EndsAlike handshake.execute first second) ∧
    ∀ request : SerialCommand,
      request.settings.readTimeout.positive = true →
      (Line.writeVerified request.settings request.command.bytes first).1 = .ok true →
      Line.bytesWritten
        (first.since (Line.writeVerified request.settings request.command.bytes first).2) =
          [request.command.bytes] →
      kind.EndsAlike request.execute first second := by
  refine ⟨?_, ?_⟩
  · intro handshake timed drains
    exact Steady.handshake handshake timed drains first second alike
  · intro request timed verified once
    exact EndsAlike.command alike request timed verified once

/-- A device that announces itself and answers with delays, and one that does so without any. -/
theorem endsAlike_despite_delays_slow_device :
    let slow := Line.quiet [.answer [.byte 0x4C, .gap, .byte 0x01] none [.silence, .byte 0x07]]
      (.answer [.gap, .gap] (some {}) [])
    let quick := Line.quiet [.answer [.byte 0x4C, .byte 0x01] none [.byte 0x07]]
      (.answer [] (some {}) [])
    let slowStart : Line := { slow with incoming := [.gap, .byte 0x52, .silence] }
    let quickStart : Line := { quick with incoming := [.byte 0x52] }
    let handshake : Handshake := { startup := [0x52], response := [0x4C, 0x01] }
    let request : SerialCommand := { command := ⟨[0x4C, 0x01]⟩, shape := .fixed 1 }
    quiet.Alike slowStart quickStart ∧ quiet.Alike slow quick ∧
      (handshake.execute slowStart).1 = .ok .success ∧
      (request.execute slow).1 = .ok (.successWith [0x07]) ∧
      quiet.EndsAlike handshake.execute slowStart quickStart ∧
      quiet.EndsAlike request.execute slow quick := by
  intro slow quick slowStart quickStart handshake request
  have devices : quiet.AlikeDevices slow.device quick.device := by
    apply AlikeDevices.of_replies
    · exact fun written => rfl
    · intro written
      have echo (before : List LineEvent) :
          quiet.keep (before ++ LineEvent.bytes written ++ []) =
            quiet.keep before ++ LineEvent.bytes written := by
        rw [List.append_nil, keep_append, keep_bytes]
      exact congrArg Except.ok ((echo [.gap, .gap]).trans (echo []).symm)
  have started : quiet.Alike slowStart quickStart := ⟨rfl, rfl, devices⟩
  have alike : quiet.Alike slow quick := ⟨rfl, rfl, devices⟩
  refine ⟨started, alike, rfl, rfl, ?_, ?_⟩
  · exact (endsAlike_despite_delays quiet started).1 handshake rfl rfl
  · exact (endsAlike_despite_delays quiet alike).2 request rfl rfl rfl

end DelayKind

end DeviceLink
