import DeviceLink.Config.Decode
import DeviceLink.Files.Tree

/-!
# Configuration files

The configuration comes from a global and a local file, with the local one laid
over the global one, and from the first ports file that can be read. A file
that is not there or cannot be read counts as empty, unless it was named
explicitly. Devices to remember go into a ports file. Without a global
directory there are only the local files.
-/

namespace DeviceLink

/-- The name of the configuration file in the working directory. -/
def localConfigName : String := "createlab.toml"

/-- The name of the ports file in the working directory. -/
def localPortsName : String := "createlab_ports.toml"

/-- A machine's files, with the directory for global configuration. -/
structure ConfigFiles where
  /-- All files and directories. -/
  tree : FileTree
  /-- The directory for global configuration, if the machine has one. -/
  globalDirectory : Option Place
  deriving DecidableEq, Inhabited

namespace ConfigFiles

/-- The local configuration file. -/
def localConfig (files : ConfigFiles) : Place :=
  files.tree.working ++ [localConfigName]

/-- The local ports file. -/
def localPorts (files : ConfigFiles) : Place :=
  files.tree.working ++ [localPortsName]

/-- The global configuration file, if there is a global directory. -/
def globalConfig? (files : ConfigFiles) : Option Place :=
  files.globalDirectory.map (· ++ ["config.toml"])

/-- The global ports file, if there is a global directory. -/
def globalPorts? (files : ConfigFiles) : Option Place :=
  files.globalDirectory.map (· ++ ["ports.toml"])

/-- The configuration in a file, if it can be read. -/
def configAt? (files : ConfigFiles) (place : Place) : Option Config :=
  match files.tree.readText place with
  | .ok text => Config.parse? text
  | .error _ => none

/-- The known devices in a ports file, if it can be read. -/
def portsAt? (files : ConfigFiles) (place : Place) : Option (List KnownDevice) :=
  match files.tree.readText place with
  | .ok text => KnownDevice.parsePorts? text
  | .error _ => none

/-- The devices of the first ports file that can be read. -/
def rememberedDevices (files : ConfigFiles) : List KnownDevice :=
  (files.portsAt? files.localPorts <|> files.globalPorts?.bind files.portsAt?).getD []

/-- The configuration of a machine. -/
def load (files : ConfigFiles) : Config :=
  let base := (files.globalConfig?.bind files.configAt?).getD {}
  let upper := (files.configAt? files.localConfig).getD {}
  (base.overlay upper).withDevices files.rememberedDevices

end ConfigFiles

/-- Why a configuration file that was named cannot be used. -/
inductive ConfigFault
  | unreadable (path : String) (fault : FileFault)
  | invalid (path : String)
  deriving DecidableEq, Inhabited

/-- The text of a configuration fault. -/
def ConfigFault.message : ConfigFault → String
  | unreadable path fault => "failed to read config file " ++ path ++ ": " ++ fault.message
  | invalid path => "failed to parse config file " ++ path

namespace ConfigFiles

/-- The configuration in a file that was named. -/
def loadFrom (files : ConfigFiles) (path : String) : Except ConfigFault Config :=
  match files.tree.readPath path with
  | .error fault => .error (.unreadable path fault)
  | .ok text =>
      match Config.parse? text with
      | some config => .ok config
      | none => .error (.invalid path)

end ConfigFiles

/-! ### Remembering devices -/

/-- The text of one device in a ports file. -/
def KnownDevice.block (device : KnownDevice) : String :=
  "[[usb_device]]\nvid = " ++ toString device.vendor.toNat
    ++ "\npid = " ++ toString device.product.toNat ++ "\n"

/-- The text of a ports file. -/
def portsText (devices : List KnownDevice) : String :=
  "\n".intercalate (devices.map KnownDevice.block)

namespace ConfigFiles

/-- The local files are in use, so that devices are remembered locally. -/
def isLocal (files : ConfigFiles) : Bool :=
  files.tree.holds files.localPorts || files.tree.holds files.localConfig

/-- The ports file to remember devices in, with the directory that it needs: the local one if local
files are in use, else the global one, and the local one again without a global directory. -/
def readyPorts (files : ConfigFiles) : Except FileFault (Place × ConfigFiles) :=
  if files.isLocal then .ok (files.localPorts, files)
  else
    match files.globalDirectory with
    | none => .ok (files.localPorts, files)
    | some directory => do
        let tree ← files.tree.makeDirectories directory
        pure (directory ++ ["ports.toml"], { files with tree := tree })

/-- Write the devices into the ports file at a place. -/
def savePorts
    (devices : List KnownDevice)
    (place : Place)
    (files : ConfigFiles) : Except FileFault Unit × ConfigFiles :=
  match files.tree.writeText place (portsText devices) with
  | .error fault => (.error fault, files)
  | .ok tree => (.ok (), { files with tree := tree })

/-- Remember a device in the configuration and in a ports file. -/
def remember
    (device : KnownDevice)
    (config : Config)
    (files : ConfigFiles) : Except FileFault Unit × Config × ConfigFiles :=
  if config.serial.devices.contains device then (.ok (), config, files)
  else
    match files.readyPorts with
    | .error fault => (.error fault, config, files)
    | .ok (place, files) =>
        let later := config.withDevices [device]
        let (outcome, files) := files.savePorts later.serial.devices place
        (outcome, later, files)

end ConfigFiles

end DeviceLink
