import DeviceLink.Config.Basic
import DeviceLink.Toml.Document

/-!
# Reading a configuration

A section is a table of its settings, or the list of them in order. Settings
that are not known are skipped; one of the wrong form or out of range makes the
whole configuration unreadable.
-/

namespace DeviceLink

namespace Toml.Node

/-- The text of a text. -/
def text? : Node → Option String
  | text value => some value
  | _ => none

/-- A whole number that is not negative and below `bound`. -/
def naturalBelow? (bound : Nat) : Node → Option Nat
  | integer value => if 0 ≤ value ∧ value.toNat < bound then some value.toNat else none
  | _ => none

/-- A 16-bit number. -/
def word? (node : Node) : Option UInt16 :=
  (node.naturalBelow? UInt16.size).map UInt16.ofNat

/-- A 32-bit number. -/
def count? (node : Node) : Option UInt32 :=
  (node.naturalBelow? UInt32.size).map UInt32.ofNat

/-- A 64-bit number. -/
def millis? (node : Node) : Option UInt64 :=
  (node.naturalBelow? UInt64.size).map UInt64.ofNat

/-- An optional setting: absent when it is missing, else read by `read`. -/
def optional? {α : Type} (read : Node → Option α) : Option Node → Option (Option α)
  | none => some none
  | some node => (read node).map some

/-- The fields of a table. A moment has no fields of its own and counts as an empty table. -/
def fields? : Node → Option Table
  | table _ fields => some fields
  | moment => some []
  | _ => none

/-- The items of a list. -/
def items? : Node → Option (List Node)
  | list items => some items
  | rows tables => some (tables.map (table .written))
  | _ => none

/-- The named settings of a section; a list has to hold at least the first `needed` ones. -/
def settings? (names : List String) (needed : Nat) (node : Node) : Option (List (Option Node)) :=
  match node.fields? with
  | some fields => some (names.map fields.find?)
  | none => do
      let items ← node.items?
      if items.length < needed then none
      else some ((List.range names.length).map fun index => items[index]?)

end Toml.Node

open Toml (Node)

namespace KnownDevice

/-- The names of the parts of a known device. -/
def partNames : List String := ["vid", "pid"]

/-- The known device that a node describes. -/
def ofNode? (node : Node) : Option KnownDevice := do
  let [vendor, product] ← node.settings? partNames 2 | none
  pure ⟨← (← vendor).word?, ← (← product).word?⟩

/-- The known devices that a node lists; without one there are none. -/
def listOfNode? : Option Node → Option (List KnownDevice)
  | none => some []
  | some node => do (← node.items?).mapM ofNode?

end KnownDevice

/-- The serial section that a node describes. -/
def SerialSection.ofNode? (node : Node) : Option SerialSection := do
  let [port, baud, devices] ← node.settings? ["port", "baud", "usb_device"] 2 | none
  pure
    { port := ← Node.optional? Node.text? port
      baud := ← Node.optional? Node.count? baud
      devices := ← KnownDevice.listOfNode? devices }

/-- The line section that a node describes. -/
def LineSection.ofNode? (node : Node) : Option LineSection := do
  let [readTimeout, drainTimeout, maxRetries] ←
    node.settings? ["read_timeout_ms", "slurp_timeout_ms", "max_retries"] 3 | none
  pure
    { readTimeout := ← Node.optional? Node.millis? readTimeout
      drainTimeout := ← Node.optional? Node.millis? drainTimeout
      maxRetries := ← Node.optional? Node.count? maxRetries }

/-- The queue section that a node describes. -/
def QueueSection.ofNode? (node : Node) : Option QueueSection := do
  let [taskTimeout] ← node.settings? ["task_timeout_ms"] 1 | none
  pure { taskTimeout := ← Node.optional? Node.millis? taskTimeout }

/-- The handshake section that a node describes. -/
def HandshakeSection.ofNode? (node : Node) : Option HandshakeSection := do
  let [settleDelay] ← node.settings? ["settle_delay_ms"] 1 | none
  pure { settleDelay := ← Node.optional? Node.millis? settleDelay }

/-- A section that is missing has no settings. -/
def sectionOr {α : Type} (empty : α) (read : Node → Option α) : Option Node → Option α
  | none => some empty
  | some node => read node

/-- The configuration in a text, absent when the text cannot be read as one. -/
def Config.parse? (text : String) : Option Config := do
  let fields ← Toml.parse? text
  pure
    { serial := ← sectionOr {} SerialSection.ofNode? (fields.find? "serial")
      line := ← sectionOr {} LineSection.ofNode? (fields.find? "io")
      queue := ← sectionOr {} QueueSection.ofNode? (fields.find? "queue")
      handshake := ← sectionOr {} HandshakeSection.ofNode? (fields.find? "handshake") }

/-- The known devices in the text of a ports file, which is a serial section on its own. -/
def KnownDevice.parsePorts? (text : String) : Option (List KnownDevice) := do
  let fields ← Toml.parse? text
  let ports ← SerialSection.ofNode? (.table .written fields)
  pure ports.devices

end DeviceLink
