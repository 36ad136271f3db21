/-!
# Buffers

A buffer is allocated with a length and keeps it. There is a longest buffer:
lengths are signed 64-bit words, and past the largest of them nothing is
allocated. Up to it the memory of the machine is taken to suffice. Bytes are
written at places that the buffer has, and a write to any other place fails.
-/

namespace DeviceLink.Buffer

/-- Number of bytes of the longest buffer. -/
def longest : Nat := 9223372036854775807

/-- A buffer of zeros; absent when none is that long. -/
def blank? (length : Nat) : Option (List UInt8) :=
  if length ≤ longest then some (List.replicate length 0) else none

/-- The buffer with another byte at a place; absent when the place is not in the buffer. -/
def setByte? (place : Nat) (byte : UInt8) (buffer : List UInt8) : Option (List UInt8) :=
  if place < buffer.length then some (buffer.set place byte) else none

/-- The first bytes; absent when there are fewer. -/
def firstBytes? (count : Nat) (bytes : List UInt8) : Option (List UInt8) :=
  if count ≤ bytes.length then some (bytes.take count) else none

/-- The buffer with other bytes from `start` up to `stop`; absent when the range does not lie in
the buffer or has another length than the bytes. -/
def overwrite? (start stop : Nat) (bytes buffer : List UInt8) : Option (List UInt8) :=
  if start ≤ stop ∧ stop ≤ buffer.length ∧ bytes.length = stop - start then
    some (buffer.take start ++ bytes ++ buffer.drop stop)
  else none

/-- The place before another one; absent for the first one. -/
def placeBefore? : Nat → Option Nat
  | 0 => none
  | place + 1 => some place

end DeviceLink.Buffer
