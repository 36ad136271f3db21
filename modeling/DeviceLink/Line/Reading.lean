import DeviceLink.Line.Basic
import DeviceLink.Line.Settings

/-!
# Reading within a time budget

A poll asks for data until a byte arrives, the stream ends or the budget is
used up. The budget is counted in polls: an empty one allows a single poll, a
positive one outlasts every event of the line. Reading a number of bytes is a
run of polls that stops at the first one without a byte.
-/

namespace DeviceLink

/-- How a poll ends. -/
inductive Poll
  | byte (value : UInt8)
  | expired
  | ended
  deriving DecidableEq

/-- How reading a number of bytes ends. -/
inductive Reading
  | complete (bytes : List UInt8)
  | cut (bytes : List UInt8)
  | ended
  deriving DecidableEq, Inhabited

namespace Line

/-- Read one byte that was announced; a read that times out yields nothing. -/
def takeByte : Exchange Line (Option Poll) := fun line =>
  match readByte line with
  | (.ok value, later) => (.ok (some (.byte value)), later)
  | (.error (.error .endOfStream), later) => (.ok (some .ended), later)
  | (.error (.error (.timeout _)), later) => (.ok none, later)
  | (.error fault, later) => (.error fault, later)

/-- Poll for a byte at most `polls` times. -/
def pollWithin : Nat → Exchange Line Poll
  | 0 => pure .expired
  | polls + 1 => do
      if ← available then
        match ← takeByte with
        | some outcome => pure outcome
        | none => pollWithin polls
      else pollWithin polls

/-- The polls a budget allows: one when it is empty, else one for each event and one more. -/
def pollsAllowed (budget : Duration) (line : Line) : Nat :=
  if budget.positive then line.incoming.length + 1 else 1

/-- Poll for a byte within a time budget. -/
def poll (budget : Duration) : Exchange Line Poll := fun line =>
  pollWithin (line.pollsAllowed budget) line

/-- Read `count` more bytes within a time budget; `taken` holds those read, newest first. -/
def readMore (budget : Duration) (taken : List UInt8) : Nat → Exchange Line Reading
  | 0 => pure (.complete taken.reverse)
  | count + 1 => do
      match ← poll budget with
      | .byte value => readMore budget (value :: taken) count
      | .expired => pure (.cut taken.reverse)
      | .ended => pure .ended

/-- Read `count` bytes within the read timeout. -/
def read (settings : LineSettings) (count : Nat) : Exchange Line Reading :=
  readMore settings.readTimeout [] count

/-- Discard up to `count` bytes, until no data is there; the result is how many there were. -/
def discardMore (discarded : Nat) : Nat → Exchange Line Nat
  | 0 => pure discarded
  | count + 1 => do
      if ← available then
        match ← takeByte with
        | some (.byte _) => discardMore (discarded + 1) count
        | _ => pure discarded
      else pure discarded

/-- Discard input until no data is there or the drain timeout is over. -/
def drain (settings : LineSettings) : Exchange Line Nat := fun line =>
  if settings.drainTimeout.positive then
    discardMore 0 (line.incoming.length + 1) line
  else (.ok 0, line)

end Line

end DeviceLink
