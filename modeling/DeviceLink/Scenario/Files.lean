import DeviceLink.Config.Store
import DeviceLink.Scenario.Lines
import DeviceLink.Text.Repaired

/-!
# Configurations and files in scenarios

A scenario gives a configuration as a record, and files by their names. Names
start in the working directory; a few first names lead to other directories of
the machine.
-/

namespace DeviceLink

/-! ### Configurations -/

/-- The known device that a scenario describes. -/
def KnownDevice.ofScenario (value : Json) : KnownDevice :=
  ⟨value.word "vid", value.word "pid"⟩

/-- The 64-bit number of a field. -/
def Json.long? (value : Json) (name : String) : Option UInt64 :=
  (value.nat? name).map UInt64.ofNat

/-- The 32-bit number of a field. -/
def Json.count? (value : Json) (name : String) : Option UInt32 :=
  (value.nat? name).map UInt32.ofNat

/-- The configuration that a scenario describes. -/
def Config.ofScenario (value : Json) : Config :=
  let serial := value.get "serial"
  let line := value.get "io"
  { serial :=
      { port := serial.text? "port"
        baud := serial.count? "baud"
        devices := (serial.all "usb_device").map .ofScenario }
    line :=
      { readTimeout := line.long? "read_timeout_ms"
        drainTimeout := line.long? "slurp_timeout_ms"
        maxRetries := line.count? "max_retries" }
    queue := { taskTimeout := (value.get "queue").long? "task_timeout_ms" }
    handshake := { settleDelay := (value.get "handshake").long? "settle_delay_ms" } }

namespace Json

/-- A 64-bit number, or null. -/
def ofLong? : Option UInt64 → Json :=
  orNull fun value => natural value.toNat

/-- A 32-bit number, or null. -/
def ofCount? : Option UInt32 → Json :=
  orNull fun value => natural value.toNat

end Json

/-- The record of a known device. -/
def KnownDevice.toJson (device : KnownDevice) : Json :=
  .record [("vid", .natural device.vendor.toNat), ("pid", .natural device.product.toNat)]

/-- The record of a serial section. -/
def SerialSection.toJson (settings : SerialSection) : Json :=
  .record
    [ ("port", .orNull .string settings.port), ("baud", .ofCount? settings.baud),
      ("usb_device", .list (settings.devices.map KnownDevice.toJson)) ]

/-- The record of a configuration. -/
def Config.toJson (config : Config) : Json :=
  .record
    [ ("serial", config.serial.toJson),
      ("io", .record
        [ ("read_timeout_ms", .ofLong? config.line.readTimeout),
          ("slurp_timeout_ms", .ofLong? config.line.drainTimeout),
          ("max_retries", .ofCount? config.line.maxRetries) ]),
      ("queue", .record [("task_timeout_ms", .ofLong? config.queue.taskTimeout)]),
      ("handshake", .record [("settle_delay_ms", .ofLong? config.handshake.settleDelay)]) ]

/-! ### Files -/

namespace Scenario

/-- The working directory. -/
def workingDirectory : Place := ["cwd"]

/-- The home directory. -/
def homeDirectory : Place := ["home"]

/-- The directory of configurations. -/
def configDirectory : Place := ["xdg"]

/-- The directory of the tool's own configuration. -/
def globalDirectory : Place := configDirectory ++ ["createlab"]

/-- The place of a file name. -/
def placeOf (name : String) : Place :=
  match name.splitOn "/" with
  | "global" :: names => globalDirectory ++ names
  | names => workingDirectory ++ names

/-- The file name of a place. -/
def nameOf (place : Place) : String :=
  if globalDirectory.isPrefixOf place then
    "/".intercalate ("global" :: place.drop globalDirectory.length)
  else if workingDirectory.isPrefixOf place then
    "/".intercalate (place.drop workingDirectory.length)
  else "/".intercalate place

/-- What a scenario puts at a place. -/
def entryOf : Json → FileEntry
  | .null => .directory
  | .string text => .file text.toUTF8.toList
  | value => .file (value.bytes "hex")

/-- The directories that are there from the start. -/
def directories : List (Place × FileEntry) :=
  [workingDirectory, homeDirectory, configDirectory].map (·, .directory)

/-- The files that a scenario describes. -/
def configFiles (value : Json) : ConfigFiles :=
  let given :=
    match value with
    | .record fields => fields.map fun (name, content) => (placeOf name, entryOf content)
    | _ => []
  { tree := { entries := given ++ directories, working := workingDirectory, root := "$TMP" }
    globalDirectory := some globalDirectory }

/-- The text of a file, repaired where it is not one. -/
def shownText (bytes : List UInt8) : Json :=
  .string (Text.repaired bytes)

/-- The texts of all files by their names. -/
def fileTexts (tree : FileTree) : Json :=
  .record (tree.files.map fun (place, bytes) => (nameOf place, shownText bytes))

/-- The names of all files in order. -/
def fileNames (tree : FileTree) : Json :=
  let names := tree.files.map fun (place, _) => nameOf place
  .list ((names.mergeSort fun first second => decide (first ≤ second)).map .string)

end Scenario

end DeviceLink
