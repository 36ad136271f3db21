import DeviceLink.Proofs.Reply.FailStop
import Mathlib.Data.Nat.Digits.Defs

/-!
# Fields that lie inside their headers

A length field is accepted exactly when it ends inside the header, for all
sizes and offsets that can be counted. Every header of the size then has a
number in the field: the integer that its bytes encode in their order. A field
that ends behind the header is refused, unless its end cannot be counted any
more, where the check breaks down instead.
-/

namespace DeviceLink

namespace LengthField

/-- The integer that bytes encode in the byte order of the field. -/
def integer (field : LengthField) (bytes : List UInt8) : Nat :=
  let digits := bytes.map UInt8.toNat
  match field with
  | byte => Nat.ofDigits 256 digits
  | wordBigEndian => Nat.ofDigits 256 digits.reverse
  | wordLittleEndian => Nat.ofDigits 256 digits

/-- The bytes of a header from `offset` on that the field takes up. -/
def bytesAt (field : LengthField) (offset : Nat) (header : List UInt8) : List UInt8 :=
  (header.drop offset).take field.width

variable (field : LengthField) {headerSize offset : Nat} {header : List UInt8}

/-- A field depends on nothing in front of it. -/
theorem lengthAt?_eq_drop (offset : Nat) (header : List UInt8) :
    field.lengthAt? offset header = field.lengthAt? 0 (header.drop offset) := by
  unfold lengthAt?
  simp only [List.getElem?_drop, Nat.add_zero, Nat.zero_add]

theorem exists_cons_cons {bytes : List UInt8} (enough : 2 ≤ bytes.length) :
    ∃ first second rest, bytes = first :: second :: rest := by
  match bytes with
  | [] => exact absurd enough (by decide)
  | [_] => exact absurd enough (Nat.not_succ_le_self 1)
  | first :: second :: rest => exact ⟨first, second, rest, rfl⟩

/-- A header in which the field ends has the integer of its bytes in the field. -/
theorem lengthAt?_eq_integer (within : offset + field.width ≤ header.length) :
    field.lengthAt? offset header = some (field.integer (field.bytesAt offset header)) := by
  have enough : field.width ≤ (header.drop offset).length := by
    rw [List.length_drop]
    omega
  rw [lengthAt?_eq_drop, bytesAt]
  generalize header.drop offset = bytes at enough
  cases field with
  | byte =>
      obtain ⟨value, rest, rfl⟩ := List.exists_cons_of_length_pos enough
      simp [lengthAt?, integer, width]
  | wordBigEndian =>
      obtain ⟨high, low, rest, rfl⟩ := exists_cons_cons enough
      simp [lengthAt?, integer, width, Nat.ofDigits, Nat.add_comm]
  | wordLittleEndian =>
      obtain ⟨low, high, rest, rfl⟩ := exists_cons_cons enough
      simp [lengthAt?, integer, width, Nat.ofDigits, Nat.add_comm]

end LengthField

namespace ReplyShape

open LengthField

/-- What is made of a field: nothing where its end cannot be counted, a fault of the configuration
where it ends behind the header, and else a shape with the body length in the field. -/
theorem withLengthField_cases (field : LengthField) (headerSize offset : Nat) :
    (sizeLimit ≤ offset + field.width ∧
      withLengthField field headerSize offset = .error .crash) ∨
    (offset + field.width < sizeLimit ∧ headerSize < offset + field.width ∧
      withLengthField field headerSize offset =
        .error (.error (outside headerSize offset field.width))) ∨
    (offset + field.width < sizeLimit ∧ offset + field.width ≤ headerSize ∧
      withLengthField field headerSize offset =
        .ok (.framed headerSize (field.lengthAt? offset))) := by
  unfold withLengthField check
  split
  · exact .inl ⟨‹_›, rfl⟩
  · have counted : offset + field.width < sizeLimit := Nat.lt_of_not_le ‹_›
    split
    · exact .inr (.inl ⟨counted, ‹_›, rfl⟩)
    · exact .inr (.inr ⟨counted, Nat.le_of_not_lt ‹_›, rfl⟩)

/-- A shape is made exactly for the fields that end inside their headers. All headers of the size
have the integer of the field as body length, and no command with this shape breaks down. A field
that ends behind the header is a fault of the configuration that names it, as long as its end can
be counted; else the making breaks down, and this is the only way in which it does. -/
theorem withLengthField_accepts_within
    (field : LengthField)
    {headerSize : Nat}
    (offset : Nat)
    (bounded : headerSize < sizeLimit) :
    let made := withLengthField field headerSize offset
    let behind := offset + field.width
    ((∃ shape, made = .ok shape) ↔ behind ≤ headerSize) ∧
    (∀ shape, made = .ok shape →
      (∃ bodyLength?, shape = .framed headerSize bodyLength? ∧
        ∀ header, header.length = headerSize →
          bodyLength? header = some (field.integer (field.bytesAt offset header))) ∧
      ∀ command settings line,
        (SerialCommand.execute ⟨command, shape, settings⟩ line).1 ≠ .error .crash) ∧
    (headerSize < behind → behind < sizeLimit →
      made = .error (.error (.config
        ("length field at offset " ++ toString offset ++ " (width " ++ toString field.width
          ++ ") exceeds header size " ++ toString headerSize)))) ∧
    (made = .error .crash ↔ sizeLimit ≤ behind) := by
  intro made behind
  obtain ⟨uncounted, crashed⟩ | ⟨counted, misfit, refused⟩ | ⟨counted, within, accepted⟩ :=
    withLengthField_cases field headerSize offset
  · have ended : made = .error .crash := crashed
    rw [ended]
    refine ⟨⟨nofun, ?_⟩, nofun, ?_, ⟨fun _ => uncounted, fun _ => rfl⟩⟩
    · intro within
      exact absurd uncounted (Nat.not_le_of_lt (Nat.lt_of_le_of_lt within bounded))
    · intro _ counted
      exact absurd uncounted (Nat.not_le_of_lt counted)
  · have ended : made = .error (.error (outside headerSize offset field.width)) := refused
    rw [ended]
    refine ⟨⟨nofun, ?_⟩, nofun, fun _ _ => rfl, ⟨nofun, ?_⟩⟩
    · intro within
      exact absurd misfit (Nat.not_lt_of_le within)
    · intro uncounted
      exact absurd counted (Nat.not_lt_of_le uncounted)
  · have ended : made = .ok (.framed headerSize (field.lengthAt? offset)) := accepted
    rw [ended]
    have read (header : List UInt8) (size : header.length = headerSize) :
        field.lengthAt? offset header = some (field.integer (field.bytesAt offset header)) :=
      field.lengthAt?_eq_integer (size ▸ within)
    refine ⟨⟨fun _ => within, fun _ => ⟨_, rfl⟩⟩, ?_, ?_, ⟨nofun, ?_⟩⟩
    · rintro _ ⟨⟩
      refine ⟨⟨_, rfl, read⟩, fun command settings line broken => ?_⟩
      have stops := SerialCommand.failStop_execute
        ⟨command, .framed headerSize (field.lengthAt? offset), settings⟩
        fun header size => ⟨_, read header size⟩
      obtain ⟨operations, -, ends⟩ := stops line
      rw [broken] at ends
      cases ends
    · intro misfit
      exact absurd misfit (Nat.not_lt_of_le within)
    · intro uncounted
      exact absurd counted (Nat.not_lt_of_le uncounted)

/-- A field at the end of the largest header, and one of a small header. -/
theorem withLengthField_accepts_within_largest :
    sizeLimit - 1 < sizeLimit ∧
      (∃ shape, withLengthField .byte (sizeLimit - 1) (sizeLimit - 2) = .ok shape) ∧
      ∃ shape, withLengthField .wordLittleEndian 4 1 = .ok shape ∧
        ∃ bodyLength?, shape = .framed 4 bodyLength? ∧
          bodyLength? [0xAA, 0x34, 0x12, 7] = some 0x1234 := by
  have largest : sizeLimit - 1 < sizeLimit := by decide
  obtain ⟨accepts, -⟩ := withLengthField_accepts_within .byte (sizeLimit - 2) largest
  obtain ⟨acceptsSmall, reads, -⟩ :=
    withLengthField_accepts_within .wordLittleEndian 1 (by decide : 4 < sizeLimit)
  obtain ⟨shape, made⟩ := acceptsSmall.2 (by decide)
  obtain ⟨bodyLength?, framed, read⟩ := (reads shape made).1
  refine ⟨largest, accepts.2 (by decide), shape, made, bodyLength?, framed, ?_⟩
  rw [read [0xAA, 0x34, 0x12, 7] rfl]
  decide

/-- A field at the largest offset lies outside its header, and yet it is not refused as a fault of
the configuration. -/
theorem withLengthField_crashes_at_largest_offset :
    2 < sizeLimit ∧ sizeLimit - 1 < sizeLimit ∧
      ¬ sizeLimit - 1 + LengthField.byte.width ≤ 2 ∧
      withLengthField .byte 2 (sizeLimit - 1) = .error .crash ∧
      ∀ text, withLengthField .byte 2 (sizeLimit - 1) ≠ .error (.error (.config text)) := by
  have crashed : withLengthField .byte 2 (sizeLimit - 1) = .error .crash := rfl
  refine ⟨by decide, by decide, by decide, crashed, ?_⟩
  rw [crashed]
  exact nofun

end ReplyShape

end DeviceLink
