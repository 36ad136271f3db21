import DeviceLink.Report.Connection
import Mathlib.Data.List.TakeDrop

/-!
# Frames of reports

The layout of a connection leaves room for both ids, so an output report can be
assembled in a buffer of its length without leaving the buffer, unless there is
no buffer of that length. Such a report is read back as the padded payload and
the id that it was made from, with or without the report id in front. Reading
loses no byte: payload and command id together are the report without its
report id.
-/

namespace DeviceLink

namespace ReportLayout

variable {layout : ReportLayout} {raw payload : List UInt8} {commandId : UInt8}

/-! ### Layouts in use -/

/-- A layout is usable if output reports hold both ids and input reports hold a byte. -/
theorem check_eq_ok_iff :
    layout.check = .ok () ↔ 2 ≤ layout.outputLength ∧ 1 ≤ layout.inputLength := by
  unfold check
  split
  next short =>
    simp only [reduceCtorEq, false_iff]
    omega
  next =>
    split
    next empty =>
      simp only [reduceCtorEq, false_iff]
      omega
    next =>
      simp only [true_iff]
      omega

/-! ### Payloads -/

@[simp] theorem length_fit (layout : ReportLayout) (payload : List UInt8) :
    (layout.fit payload).length = layout.room := by
  simp only [fit, List.length_append, List.length_take, List.length_replicate]
  omega

/-- A payload is cut behind the room, or filled up with zeros. -/
theorem fit_eq_takeD (layout : ReportLayout) (payload : List UInt8) :
    layout.fit payload = payload.takeD layout.room 0 := by
  unfold fit
  generalize layout.room = room
  induction room generalizing payload with
  | zero => simp
  | succ room inductionHypothesis =>
      cases payload with
      | nil => simp [List.replicate_succ]
      | cons first others => simpa using inductionHypothesis others

/-! ### Assembling a frame in a buffer -/

/-- With room for both ids every part of a report has its place in a buffer of its length. -/
theorem assemble?_eq_frame
    (holds : 2 ≤ layout.outputLength)
    (fits : layout.outputLength ≤ Buffer.longest)
    (payload : List UInt8)
    (commandId : UInt8) :
    layout.assemble? payload commandId = some (layout.frame payload commandId) := by
  obtain ⟨room, length⟩ : ∃ room, layout.outputLength = room + 2 :=
    ⟨layout.outputLength - 2, by omega⟩
  have sameRoom : layout.room = room := by
    rw [ReportLayout.room, length]
    omega
  have blank : Buffer.blank? (room + 2) = some (List.replicate (room + 2) 0) := by
    rw [← length, Buffer.blank?, if_pos fits]
  have started : Buffer.setByte? 0 0 (List.replicate (room + 2) 0) =
      some (0 :: List.replicate (room + 1) 0) := by
    simp [Buffer.setByte?, List.replicate_succ]
  have shown : Buffer.firstBytes? (min payload.length room) payload =
      some (payload.take room) := by
    rw [Buffer.firstBytes?, if_pos (Nat.min_le_left _ _)]
    simp [List.take_eq_take_iff, Nat.min_comm]
  have filled :
      Buffer.overwrite? 1 (min payload.length room + 1) (payload.take room)
          (0 :: List.replicate (room + 1) 0) =
        some (0 :: (layout.fit payload ++ [0])) := by
    rw [Buffer.overwrite?, if_pos ?_]
    · have rest : room + 1 - min payload.length room = room - payload.length + 1 := by omega
      have zeros : (List.replicate (room + 1) (0 : UInt8)).drop (min payload.length room) =
          List.replicate (room - payload.length) 0 ++ [0] := by
        rw [List.drop_replicate, rest, List.replicate_succ']
      simp [fit, sameRoom, zeros]
    · simp only [List.length_take, List.length_cons, List.length_replicate]
      omega
  have ended : Buffer.setByte? (room + 1) commandId (0 :: (layout.fit payload ++ [0])) =
      some (layout.frame payload commandId) := by
    have inside : room = (layout.fit payload).length := by rw [length_fit, sameRoom]
    simp [Buffer.setByte?, frame, inside]
  simp only [assemble?, length, sameRoom, Buffer.placeBefore?, blank, started, shown, filled,
    ended, Option.bind_eq_bind, Option.bind_some]

/-- No report is assembled when it is longer than a buffer can be. -/
theorem assemble?_eq_none
    (past : Buffer.longest < layout.outputLength)
    (payload : List UInt8)
    (commandId : UInt8) :
    layout.assemble? payload commandId = none := by
  have blank : Buffer.blank? layout.outputLength = none := if_neg (Nat.not_le_of_lt past)
  rw [assemble?, blank]
  rfl

/-- What is assembled at all is the frame. -/
theorem assemble?_eq
    (holds : 2 ≤ layout.outputLength)
    (payload : List UInt8)
    (commandId : UInt8) :
    layout.assemble? payload commandId =
      if layout.outputLength ≤ Buffer.longest then some (layout.frame payload commandId)
      else none := by
  split
  next fits => exact assemble?_eq_frame holds fits payload commandId
  next past => exact assemble?_eq_none (Nat.lt_of_not_le past) payload commandId

/-! ### Frames and their parts -/

theorem frame_ne_nil
    (layout : ReportLayout)
    (payload : List UInt8)
    (commandId : UInt8) :
    layout.frame payload commandId ≠ [] := by
  simp [frame]

theorem getLast?_frame
    (layout : ReportLayout)
    (payload : List UInt8)
    (commandId : UInt8) :
    (layout.frame payload commandId).getLast? = some commandId := by
  simp [frame, List.getLast?_cons]

@[simp] theorem tail_frame
    (layout : ReportLayout)
    (payload : List UInt8)
    (commandId : UInt8) :
    (layout.frame payload commandId).tail = layout.fit payload ++ [commandId] := by
  simp [frame]

theorem length_frame
    (holds : 2 ≤ layout.outputLength)
    (payload : List UInt8)
    (commandId : UInt8) :
    (layout.frame payload commandId).length = layout.outputLength := by
  simp only [frame, List.cons_append, List.length_cons, List.length_append, length_fit, room,
    List.length_nil]
  omega

/-- Equal frames have equal ids and equal padded payloads. -/
theorem frame_inj {other : List UInt8} {otherId : UInt8} :
    layout.frame payload commandId = layout.frame other otherId ↔
      commandId = otherId ∧ layout.fit payload = layout.fit other := by
  constructor
  · intro same
    have tails := congrArg List.tail same
    rw [tail_frame, tail_frame, List.append_eq_append_iff_of_size_eq_right] at tails
    · exact ⟨by simpa using tails.2, tails.1⟩
    · simp
  · rintro ⟨rfl, padded⟩
    rw [frame, frame, padded]

/-! ### Reading frames -/

/-- The bytes of a raw report behind its report id, if it has one. -/
def content (layout : ReportLayout) (raw : List UInt8) : List UInt8 :=
  if layout.reportIdOnRead then raw.tail else raw

theorem content_eq_drop (layout : ReportLayout) (raw : List UInt8) :
    layout.content raw = raw.drop (if layout.reportIdOnRead then 1 else 0) := by
  unfold content
  split
  · exact List.drop_one.symm
  · rfl

/-- A report is parsed if anything stands behind its report id. -/
theorem parse?_eq (layout : ReportLayout) (raw : List UInt8) :
    layout.parse? raw =
      (layout.content raw).getLast?.map fun commandId =>
        ⟨(layout.content raw).dropLast, commandId⟩ := by
  unfold parse? body? content
  cases layout.reportIdOnRead with
  | false =>
      simp only [Bool.false_eq_true, if_false]
      cases last : raw.getLast? with
      | none => simp [last]
      | some commandId => simp [last]
  | true =>
      cases raw with
      | nil => rfl
      | cons first body =>
          simp only [if_true, List.tail?_cons, List.tail_cons]
          cases last : body.getLast? with
          | none => simp [last]
          | some commandId => simp [last]

theorem parse?_nil (layout : ReportLayout) : layout.parse? [] = none := by
  rw [parse?_eq, content]
  split
  · rfl
  · rfl

/-- A report is refused exactly if no byte is left for the command id. -/
theorem parse?_eq_none_iff : layout.parse? raw = none ↔ layout.content raw = [] := by
  rw [parse?_eq, Option.map_eq_none_iff, List.getLast?_eq_none_iff]

/-- Payload and command id of a report are all that stands behind its report id. -/
theorem parse?_eq_some_iff {report : InputReport} :
    layout.parse? raw = some report ↔
      layout.content raw = report.payload ++ [report.commandId] := by
  rw [parse?_eq]
  constructor
  · intro parsed
    obtain ⟨commandId, atEnd, rfl⟩ := Option.map_eq_some_iff.1 parsed
    obtain ⟨payload, split⟩ := List.getLast?_eq_some_iff.1 atEnd
    simp [split]
  · intro split
    simp [split]

/-- What the device echoes of a frame, with or without the report id in front, is read back. -/
theorem parse?_frame
    (layout : ReportLayout)
    (payload : List UInt8)
    (commandId : UInt8) :
    layout.parse? (if layout.reportIdOnRead then layout.frame payload commandId
        else (layout.frame payload commandId).tail) =
      some ⟨layout.fit payload, commandId⟩ := by
  rw [parse?_eq_some_iff, content]
  split
  · exact tail_frame layout payload commandId
  · exact tail_frame layout payload commandId

end ReportLayout

namespace ReportConnection

variable {port : ReportPort} {descriptor : DeviceDescriptor} {connection : ReportConnection}

/-- A connection is made exactly for a device with a usable layout, which it keeps. -/
theorem ofPort?_eq_ok_iff :
    ofPort? port descriptor = .ok connection ↔
      ∃ layout, descriptor.reports = some layout ∧
        2 ≤ layout.outputLength ∧ 1 ≤ layout.inputLength ∧
        connection = { port := port, descriptor := descriptor, layout := layout } := by
  unfold ofPort? DeviceDescriptor.requireReports
  cases reports : descriptor.reports with
  | none => simp [bind, Except.bind]
  | some layout =>
      have usable : layout.check = .ok () ↔ 2 ≤ layout.outputLength ∧ 1 ≤ layout.inputLength :=
        ReportLayout.check_eq_ok_iff
      cases checked : layout.check with
      | error cause =>
          rw [checked] at usable
          simp only [reduceCtorEq, false_iff] at usable
          simp only [bind, Except.bind, checked, reduceCtorEq, Option.some.injEq, false_iff]
          rintro ⟨_, rfl, output, input, -⟩
          exact usable ⟨output, input⟩
      | ok done =>
          rw [checked] at usable
          obtain ⟨output, input⟩ := usable.1 rfl
          simp only [bind, Except.bind, checked, pure, Except.pure, Except.ok.injEq,
            Option.some.injEq]
          constructor
          · rintro rfl
            exact ⟨layout, rfl, output, input, rfl⟩
          · rintro ⟨_, rfl, -, -, rfl⟩
            rfl

/-- The output reports of a connection have room for both ids. -/
theorem two_le_of_ofPort? (made : ofPort? port descriptor = .ok connection) :
    2 ≤ connection.layout.outputLength := by
  obtain ⟨layout, -, output, -, rfl⟩ := ofPort?_eq_ok_iff.1 made
  exact output

/-- Frames of a connection go out and come back whole. Unless an output report is longer than the
longest buffer, and then none is assembled, every part of it has its place in a buffer of the length
that the layout says; the report starts with the report id zero, ends with
the command id, and has the payload in between, cut or filled up with zeros. Read back, with the
report id in front or without it as the layout says, it gives that payload and that id, so reports
are equal only for equal ids and equal padded payloads. A raw report is refused exactly if no byte
is left behind its report id, and otherwise payload and command id are all of these bytes. -/
theorem frames_read_back
    (made : ofPort? port descriptor = .ok connection)
    (payload : List UInt8)
    (commandId : UInt8) :
    let layout := connection.layout
    let frame := layout.frame payload commandId
    let padded := payload.takeD (layout.outputLength - 2) 0
    (2 ≤ layout.outputLength ∧ 1 ≤ layout.inputLength) ∧
    (layout.assemble? payload commandId =
        (if layout.outputLength ≤ Buffer.longest then some frame else none) ∧
      frame.length = layout.outputLength ∧
      frame = [0] ++ padded ++ [commandId]) ∧
    (layout.parse? (if layout.reportIdOnRead then frame else frame.drop 1) =
        some ⟨padded, commandId⟩ ∧
      ∀ other otherId, layout.frame other otherId = frame ↔
        otherId = commandId ∧ other.takeD (layout.outputLength - 2) 0 = padded) ∧
    ∀ raw,
      let left := raw.drop (if layout.reportIdOnRead then 1 else 0)
      (layout.parse? raw = none ↔ left = []) ∧
      ∀ report, layout.parse? raw = some report ↔ left = report.payload ++ [report.commandId] := by
  obtain ⟨usable, -, output, input, rfl⟩ := ofPort?_eq_ok_iff.1 made
  intro layout frame padded
  have fitted : ∀ other, layout.fit other = other.takeD (layout.outputLength - 2) 0 :=
    layout.fit_eq_takeD
  refine ⟨⟨output, input⟩, ⟨ReportLayout.assemble?_eq output payload commandId,
    ReportLayout.length_frame output payload commandId, ?_⟩, ⟨?_, ?_⟩, ?_⟩
  · simp [frame, ReportLayout.frame, fitted, padded]
  · have read := layout.parse?_frame payload commandId
    rw [fitted, ← List.drop_one] at read
    exact read
  · intro other otherId
    rw [ReportLayout.frame_inj, fitted, fitted]
  · intro raw left
    have same : left = layout.content raw := by
      rw [ReportLayout.content_eq_drop]
    rw [same]
    exact ⟨ReportLayout.parse?_eq_none_iff, fun _ => ReportLayout.parse?_eq_some_iff⟩

/-- Reports with room for a single byte: the payload is cut to it, and a report that consists of its
report id only is refused. -/
theorem frames_read_back_single_byte :
    let layout : ReportLayout := ⟨1, 3, true⟩
    let descriptor := DeviceDescriptor.reporting "port" 0x2354 0x1111 (some layout)
    ∃ connection, ofPort? { path := "port" } descriptor = .ok connection ∧
      connection.layout = layout ∧
      layout.assemble? [7, 8] 5 = some [0, 7, 5] ∧
      layout.parse? [0, 7, 5] = some ⟨[7], 5⟩ ∧
      layout.frame [7] 5 = layout.frame [7, 8] 5 ∧
      layout.parse? [9] = none := by
  intro layout descriptor
  obtain ⟨connection, made⟩ : ∃ connection, ofPort? { path := "port" } descriptor =
      .ok connection := ⟨_, rfl⟩
  have same : connection.layout = layout := by
    cases made
    rfl
  obtain ⟨-, ⟨assembled, -, parts⟩, ⟨read, equal⟩, raws⟩ := frames_read_back made [7, 8] 5
  rw [same] at assembled parts read equal raws
  have shown : layout.frame [7, 8] 5 = [0, 7, 5] := parts
  refine ⟨connection, made, same, ?_, ?_, ?_, ?_⟩
  · rw [← shown, assembled, if_pos (by decide)]
  · rw [← shown]
    exact read
  · exact (equal [7] 5).2 ⟨rfl, rfl⟩
  · exact (raws [9]).1.2 rfl

/-- A layout whose output reports are one byte longer than the longest buffer is accepted, but none
of its reports can be assembled, and a write breaks down before anything reaches the port. -/
theorem frames_unassembled_past_longest_buffer :
    let layout : ReportLayout := ⟨9, 9223372036854775808, false⟩
    let descriptor := DeviceDescriptor.reporting "port" 0x2354 0x1111 (some layout)
    ∃ connection, ofPort? { path := "port" } descriptor = .ok connection ∧
      connection.layout = layout ∧
      (∀ payload commandId, layout.assemble? payload commandId = none) ∧
      (write [0x4C] connection).1 = .error .crash ∧
      (write [0x4C] connection).2.port.journal = [] := by
  intro layout descriptor
  have unassembled : ∀ payload commandId, layout.assemble? payload commandId = none :=
    ReportLayout.assemble?_eq_none (by decide)
  exact ⟨_, rfl, rfl, unassembled, rfl, rfl⟩

end ReportConnection

end DeviceLink
