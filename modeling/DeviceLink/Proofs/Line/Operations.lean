import DeviceLink.Line.Reading

/-!
# Operations between two states of a line

The journal of a line only grows, so the operations between two of its states
are those by which the later journal is longer. An exchange that only reads
leaves the device alone: all it does is add operations to the journal and take
events from the line.
-/

namespace DeviceLink

namespace LineOperation

/-- The byte of an operation, if it is a read that got one. -/
def arrived? : LineOperation → Option UInt8
  | .read (.ok value) => some value
  | _ => none

/-- The bytes of an operation, if it is a write; the device may have refused it. -/
def attempted? : LineOperation → Option (List UInt8)
  | .wrote bytes _ => some bytes
  | _ => none

end LineOperation

namespace Line

/-- The bytes that operations read, in order. -/
def bytesRead (operations : List LineOperation) : List UInt8 :=
  operations.filterMap LineOperation.arrived?

/-- What operations write, each write by itself. -/
def bytesWritten (operations : List LineOperation) : List (List UInt8) :=
  operations.filterMap LineOperation.attempted?

@[simp] theorem bytesRead_append (first second : List LineOperation) :
    bytesRead (first ++ second) = bytesRead first ++ bytesRead second :=
  List.filterMap_append

@[simp] theorem bytesWritten_append (first second : List LineOperation) :
    bytesWritten (first ++ second) = bytesWritten first ++ bytesWritten second :=
  List.filterMap_append

/-- The operations from an earlier state of a line to a later one, oldest first. -/
def since (earlier later : Line) : List LineOperation :=
  (later.journal.take (later.journal.length - earlier.journal.length)).reverse

/-- A line whose reader did the given operations and left the given events. -/
def after (operations : List LineOperation) (unread : List LineEvent) (line : Line) : Line :=
  { line with incoming := unread, journal := operations.reverse ++ line.journal }

@[simp] theorem after_after
    (first second : List LineOperation)
    (between unread : List LineEvent)
    (line : Line) :
    (line.after first between).after second unread = line.after (first ++ second) unread := by
  simp [after]

/-- The operations by which a journal is longer are the ones that were added to it. -/
theorem since_eq
    {earlier later : Line}
    {operations : List LineOperation}
    (grown : later.journal = operations.reverse ++ earlier.journal) :
    earlier.since later = operations := by
  unfold since
  rw [grown]
  simp

@[simp] theorem since_self (line : Line) : line.since line = [] := by
  simp [since]

@[simp] theorem since_after
    (operations : List LineOperation)
    (unread : List LineEvent)
    (line : Line) :
    line.since (line.after operations unread) = operations :=
  since_eq rfl

/-- Operations in two stretches are those of the first one and then those of the second one. -/
theorem since_append
    {first second third : Line}
    (grown : first.journal <:+ second.journal)
    (grownAgain : second.journal <:+ third.journal) :
    first.since third = first.since second ++ second.since third := by
  obtain ⟨early, early_eq⟩ := grown
  obtain ⟨late, late_eq⟩ := grownAgain
  have early_since : first.since second = early.reverse := by
    apply since_eq
    rw [List.reverse_reverse, early_eq]
  have late_since : second.since third = late.reverse := by
    apply since_eq
    rw [List.reverse_reverse, late_eq]
  rw [early_since, late_since]
  apply since_eq
  rw [List.reverse_append, List.reverse_reverse, List.reverse_reverse, List.append_assoc,
    early_eq, late_eq]

theorem suffix_journal_after
    (operations : List LineOperation)
    (unread : List LineEvent)
    (line : Line) :
    line.journal <:+ (line.after operations unread).journal :=
  ⟨operations.reverse, rfl⟩

/-- A write that the device takes leaves its answer behind the events that wait. -/
theorem write_of_taken
    {line : Line}
    {bytes : List UInt8}
    {events : List LineEvent}
    {device : LineDevice}
    (took : line.device.answer bytes = (.ok events, device)) :
    ∃ written, write bytes line = (.ok (), written) ∧
      written.incoming = line.incoming ++ events ∧
      written.endsWhenDrained = line.endsWhenDrained ∧
      written.device = device ∧
      written.journal = .wrote bytes (.ok ()) :: line.journal := by
  refine ⟨(write bytes line).2, ?_⟩
  simp [write, took, append]

/-- A write adds itself to the journal, whether or not the device takes it. -/
theorem journal_write (bytes : List UInt8) (line : Line) :
    ∃ outcome, (write bytes line).2.journal = .wrote bytes outcome :: line.journal := by
  cases answered : line.device.answer bytes with
  | mk outcome device =>
      cases outcome with
      | ok events =>
          refine ⟨.ok (), ?_⟩
          simp [write, answered, append]
      | error cause =>
          refine ⟨.error cause, ?_⟩
          simp [write, answered]

theorem suffix_journal_write (bytes : List UInt8) (line : Line) :
    line.journal <:+ (write bytes line).2.journal := by
  obtain ⟨outcome, grown⟩ := journal_write bytes line
  rw [grown]
  exact List.suffix_cons _ _

/-- The one operation of a write is the write. -/
theorem bytesWritten_since_write (bytes : List UInt8) (line : Line) :
    bytesWritten (line.since (write bytes line).2) = [bytes] := by
  obtain ⟨outcome, grown⟩ := journal_write bytes line
  have single : line.since (write bytes line).2 = [.wrote bytes outcome] := since_eq grown
  rw [single]
  rfl

end Line

end DeviceLink
