import DeviceLink.Proofs.Config.Remember
import DeviceLink.Tool.SerialCommands

/-!
# Layers of configuration

A configuration is known by its settings and its list of devices. Laying
configurations over one another keeps the last value of each setting and joins
the lists, so it does not matter which of them are put together first, and one
without settings changes nothing. A load of the machine lays the local file
over the global one. What the command line says comes before either.
-/

namespace DeviceLink

namespace Config

/-! ## Settings -/

/-- The settings of a configuration, with the types of their values. -/
inductive Setting : Type → Type
  | port : Setting String
  | baud : Setting UInt32
  | readTimeout : Setting UInt64
  | drainTimeout : Setting UInt64
  | maxRetries : Setting UInt32
  | taskTimeout : Setting UInt64
  | settleDelay : Setting UInt64

/-- The value of a setting, if it is set. -/
def get? {α : Type} (config : Config) : Setting α → Option α
  | .port => config.serial.port
  | .baud => config.serial.baud
  | .readTimeout => config.line.readTimeout
  | .drainTimeout => config.line.drainTimeout
  | .maxRetries => config.line.maxRetries
  | .taskTimeout => config.queue.taskTimeout
  | .settleDelay => config.handshake.settleDelay

section Settings

variable {α : Type}

@[simp] theorem get?_empty (setting : Setting α) : ({} : Config).get? setting = none := by
  cases setting <;> rfl

@[simp] theorem get?_overlay (base upper : Config) (setting : Setting α) :
    (base.overlay upper).get? setting = (upper.get? setting).or (base.get? setting) := by
  cases setting <;> exact Option.orElse_eq_or

@[simp] theorem get?_withDevices
    (config : Config)
    (devices : List KnownDevice)
    (setting : Setting α) :
    (config.withDevices devices).get? setting = config.get? setting := by
  cases setting <;> rfl

@[simp] theorem devices_overlay (base upper : Config) :
    (base.overlay upper).serial.devices = base.serial.devices ++ upper.serial.devices := rfl

end Settings

/-- Configurations with the same settings and devices are the same. -/
theorem eq_of_settings
    {first second : Config}
    (settings : ∀ {α : Type} (setting : Setting α), first.get? setting = second.get? setting)
    (devices : first.serial.devices = second.serial.devices) :
    first = second := by
  obtain ⟨⟨port, baud, known⟩, ⟨read, drain, retries⟩, ⟨task⟩, ⟨settle⟩⟩ := first
  obtain ⟨⟨port', baud', known'⟩, ⟨read', drain', retries'⟩, ⟨task'⟩, ⟨settle'⟩⟩ := second
  obtain rfl : port = port' := settings .port
  obtain rfl : baud = baud' := settings .baud
  obtain rfl : read = read' := settings .readTimeout
  obtain rfl : drain = drain' := settings .drainTimeout
  obtain rfl : retries = retries' := settings .maxRetries
  obtain rfl : task = task' := settings .taskTimeout
  obtain rfl : settle = settle' := settings .settleDelay
  obtain rfl : known = known' := devices
  rfl

/-! ## Laws of layers -/

theorem overlay_assoc (first second third : Config) :
    (first.overlay second).overlay third = first.overlay (second.overlay third) := by
  apply eq_of_settings
  · intro α setting
    simp only [get?_overlay, Option.or_assoc]
  · simp only [devices_overlay, List.append_assoc]

theorem empty_overlay (config : Config) : ({} : Config).overlay config = config := by
  apply eq_of_settings
  · intro α setting
    simp only [get?_overlay, get?_empty, Option.or_none]
  · exact List.nil_append _

theorem overlay_empty (config : Config) : config.overlay {} = config := by
  apply eq_of_settings
  · intro α setting
    simp only [get?_overlay, get?_empty, Option.none_or]
  · exact List.append_nil _

instance : Std.Associative overlay where
  assoc := overlay_assoc

/-- The configurations laid over one another, the later ones over the earlier ones. -/
def layered (layers : List Config) : Config :=
  layers.foldl overlay {}

theorem layered_cons (config : Config) (layers : List Config) :
    layered (config :: layers) = config.overlay (layered layers) := by
  calc
    layered (config :: layers) = layers.foldl overlay (config.overlay {}) := by
      rw [layered, List.foldl_cons, empty_overlay, overlay_empty]
    _ = config.overlay (layered layers) := List.foldl_assoc

/-- The value of a setting is that of the last layer that sets it. -/
theorem get?_layered {α : Type} (layers : List Config) (setting : Setting α) :
    (layered layers).get? setting = layers.reverse.findSome? fun layer => layer.get? setting := by
  induction layers with
  | nil => exact get?_empty setting
  | cons config layers inductionHypothesis =>
      rw [layered_cons, get?_overlay, inductionHypothesis, List.reverse_cons,
        List.findSome?_append, List.findSome?_singleton]

theorem devices_layered (layers : List Config) :
    (layered layers).serial.devices = layers.flatMap fun layer => layer.serial.devices := by
  induction layers with
  | nil => rfl
  | cons config layers inductionHypothesis =>
      rw [layered_cons, devices_overlay, inductionHypothesis, List.flatMap_cons]

/-- A setting has a value when a layer sets it to this value and no later one sets it. -/
theorem get?_layered_eq_some_iff
    {α : Type}
    {layers : List Config}
    {setting : Setting α}
    {value : α} :
    (layered layers).get? setting = some value ↔
      ∃ earlier layer later, layers = earlier ++ layer :: later ∧
        layer.get? setting = some value ∧ ∀ other ∈ later, other.get? setting = none := by
  rw [get?_layered, List.findSome?_eq_some_iff]
  constructor
  · rintro ⟨later, layer, earlier, parts, set, unset⟩
    refine ⟨earlier.reverse, layer, later.reverse, ?_, set, ?_⟩
    · rw [← List.reverse_reverse layers, parts]
      simp
    · intro other among
      exact unset other (List.mem_reverse.1 among)
  · rintro ⟨earlier, layer, later, rfl, set, unset⟩
    refine ⟨later.reverse, layer, earlier.reverse, by simp, set, ?_⟩
    intro other among
    exact unset other (List.mem_reverse.1 among)

end Config

open Config (Setting)

namespace ConfigFiles

variable {files : ConfigFiles} {place : Place}

/-! ## The layers of a machine -/

/-- A file is a layer when it can be read and all of it is a configuration. -/
theorem configAt?_eq_some_iff {config : Config} :
    files.configAt? place = some config ↔
      ∃ text, files.tree.readText place = .ok text ∧ Config.parse? text = some config := by
  unfold configAt?
  cases files.tree.readText place with
  | error fault => exact ⟨nofun, nofun⟩
  | ok text => exact ⟨fun parsed => ⟨text, rfl, parsed⟩, by rintro ⟨_, ⟨⟩, parsed⟩; exact parsed⟩

theorem portsAt?_eq_some_iff {devices : List KnownDevice} :
    files.portsAt? place = some devices ↔
      ∃ text, files.tree.readText place = .ok text ∧
        KnownDevice.parsePorts? text = some devices := by
  unfold portsAt?
  cases files.tree.readText place with
  | error fault => exact ⟨nofun, nofun⟩
  | ok text => exact ⟨fun parsed => ⟨text, rfl, parsed⟩, by rintro ⟨_, ⟨⟩, parsed⟩; exact parsed⟩

/-- Remembering a device changes no setting. -/
theorem get?_remember
    {α : Type}
    (device : KnownDevice)
    (config : Config)
    (files : ConfigFiles)
    (setting : Setting α) :
    (files.remember device config).2.1.get? setting = config.get? setting := by
  unfold remember
  split
  · rfl
  · split
    · rfl
    · exact config.get?_withDevices [device] setting

end ConfigFiles

/-- An offer to remember a port changes no setting, whatever is answered. -/
theorem Selection.get?_offerToRemember
    {α : Type}
    (port : DeviceDescriptor)
    (config : Config)
    (files : ConfigFiles)
    (terminal : Terminal)
    (setting : Setting α) :
    (offerToRemember port config files terminal).1.get? setting = config.get? setting := by
  unfold offerToRemember
  split
  · dsimp only
    split
    · exact files.get?_remember _ config setting
    · rfl
  · rfl

/-! ## Settings of a run -/

namespace Run

variable {options : Options} {config : Config} {selected : SelectedPort}
  {machine between : Machine}

/-- Whether a port is remembered or not, the settings are kept. -/
theorem rememberPort_keeps
    (options : Options)
    (config : Config)
    (selected : SelectedPort)
    (machine : Machine) :
    ∃ kept later, rememberPort options config selected machine = (.ok kept, later) ∧
      ∀ {α : Type} (setting : Setting α), kept.get? setting = config.get? setting := by
  unfold rememberPort
  split
  · exact ⟨config, machine, rfl, fun _ => rfl⟩
  · exact ⟨_, _, rfl, Selection.get?_offerToRemember selected.port config _ _⟩

/-- A run opens the port that was selected as the options and the kept settings say. -/
theorem openSerial_of_selected
    (selection : selectPort options config machine = (.ok selected, between))
    (wanted : HandshakeOptions) :
    ∃ kept later, (∀ {α : Type} (setting : Setting α), kept.get? setting = config.get? setting) ∧
      openSerial options config wanted machine =
        connectPort { portName := selected.port.path, baudRate := options.baudRate kept }
          (wanted.handshake? kept) kept.queueSettings later := by
  obtain ⟨kept, later, remembered, same⟩ := rememberPort_keeps options config selected between
  unfold openSerial
  rw [bind_of_ok selection, bind_of_ok remembered]
  cases options.quiet with
  | true => exact ⟨kept, later, same, rfl⟩
  | false => exact ⟨kept, { later with transcript := later.transcript.remark _ }, same, rfl⟩

end Run

/-- The speed is that of the options, else that of the configuration, else the default. -/
theorem Options.baudRate_eq (options : Options) (config : Config) :
    options.baudRate config = (options.baud.or (config.get? .baud)).getD 115200 := by
  unfold baudRate
  cases options.baud <;> rfl

/-- The settle delay is that of the options, else that of the configuration, else the default. -/
theorem HandshakeOptions.settleDelay_of_handshake?
    {wanted : HandshakeOptions}
    {config : Config}
    {handshake : Handshake}
    (asked : wanted.handshake? config = some handshake) :
    handshake.settleDelay =
      ((wanted.settleMillis.or (config.get? .settleDelay)).map Duration.ofMillis).getD
        (.ofMillis 600) := by
  unfold handshake? at asked
  obtain ⟨startup, -, asked⟩ := Option.bind_eq_some_iff.1 asked
  obtain ⟨response, -, asked⟩ := Option.bind_eq_some_iff.1 asked
  cases asked
  cases wanted.settleMillis <;> rfl

namespace ConfigFiles

/-- The value of a setting in a file, if there is such a file and it is a layer that sets it. -/
def settingAt?
    {α : Type}
    (files : ConfigFiles)
    (place : Option Place)
    (setting : Setting α) : Option α :=
  (place.bind files.configAt?).bind fun config => config.get? setting

/-- The devices that a file lists, none if there is no such file or it is no layer. -/
def devicesAt (files : ConfigFiles) (place : Option Place) : List KnownDevice :=
  ((place.bind files.configAt?).map fun config => config.serial.devices).getD []

/-- A load takes each setting from the local file, and from the global one if the local one does
not set it. -/
theorem get?_load {α : Type} (files : ConfigFiles) (setting : Setting α) :
    files.load.get? setting =
      (files.settingAt? files.localConfig setting).or
        (files.settingAt? files.globalConfig? setting) := by
  rw [load_eq, Config.get?_withDevices, configured, Config.get?_overlay, settingAt?, settingAt?,
    Option.bind_some]
  cases files.globalConfig?.bind files.configAt? <;> cases files.configAt? files.localConfig <;>
    simp

theorem devices_load_eq (files : ConfigFiles) :
    files.load.serial.devices =
      files.devicesAt files.globalConfig? ++ files.devicesAt files.localConfig ++
        ((files.portsAt? files.localPorts).or
          (files.globalPorts?.bind files.portsAt?)).getD [] := by
  have remembered : files.rememberedDevices =
      ((files.portsAt? files.localPorts).or
        (files.globalPorts?.bind files.portsAt?)).getD [] := by
    unfold rememberedDevices
    cases files.portsAt? files.localPorts <;> rfl
  rw [devices_load, configured, Config.devices_overlay, remembered, devicesAt, devicesAt,
    Option.bind_some]
  cases files.globalConfig?.bind files.configAt? <;> cases files.configAt? files.localConfig <;>
    rfl

/-- Laying configurations over one another is associative, with the one without settings as
identity: the last value of each setting counts, and the devices are joined. A load lays the local
file of the machine over the global one, each of them as a whole or not at all, and appends the
devices of the first ports file that can be read. Its settings are used where the command line
does not say otherwise: the selected port is opened at the speed, and the handshake has the settle
delay, of the command line, else of the configuration, else of the default. -/
theorem load_lays_settings :
    (∀ first second third : Config,
      (first.overlay second).overlay third = first.overlay (second.overlay third)) ∧
    (∀ config : Config, ({} : Config).overlay config = config ∧ config.overlay {} = config) ∧
    (∀ layers : List Config,
      (∀ (α : Type) (setting : Setting α) (value : α),
        (Config.layered layers).get? setting = some value ↔
          ∃ earlier layer later, layers = earlier ++ layer :: later ∧
            layer.get? setting = some value ∧ ∀ other ∈ later, other.get? setting = none) ∧
      (Config.layered layers).serial.devices = layers.flatMap fun layer => layer.serial.devices) ∧
    (∀ files : ConfigFiles,
      (∀ (α : Type) (setting : Setting α),
        files.load.get? setting =
          (files.settingAt? files.localConfig setting).or
            (files.settingAt? files.globalConfig? setting)) ∧
      files.load.serial.devices =
        files.devicesAt files.globalConfig? ++ files.devicesAt files.localConfig ++
          ((files.portsAt? files.localPorts).or
            (files.globalPorts?.bind files.portsAt?)).getD [] ∧
      (∀ place config, files.configAt? place = some config ↔
        ∃ text, files.tree.readText place = .ok text ∧ Config.parse? text = some config) ∧
      ∀ place devices, files.portsAt? place = some devices ↔
        ∃ text, files.tree.readText place = .ok text ∧
          KnownDevice.parsePorts? text = some devices) ∧
    ∀ (options : Options) (config : Config) (wanted : HandshakeOptions) (machine between : Machine)
      (selected : SelectedPort),
      Run.selectPort options config machine = (.ok selected, between) →
        let speed := (options.baud.or (config.get? .baud)).getD 115200
        let delay := ((wanted.settleMillis.or (config.get? .settleDelay)).map
          Duration.ofMillis).getD (.ofMillis 600)
        ∃ handshake? queue later,
          Run.openSerial options config wanted machine =
            Run.connectPort { portName := selected.port.path, baudRate := speed } handshake? queue
              later ∧
          ∀ handshake ∈ handshake?, handshake.settleDelay = delay := by
  refine ⟨Config.overlay_assoc, fun config => ⟨config.empty_overlay, config.overlay_empty⟩,
    fun layers => ⟨?_, Config.devices_layered layers⟩, fun files => ?_, ?_⟩
  · intro α setting value
    exact Config.get?_layered_eq_some_iff
  · refine ⟨?_, files.devices_load_eq, ?_, ?_⟩
    · intro α setting
      exact files.get?_load setting
    · intro place config
      exact configAt?_eq_some_iff
    · intro place devices
      exact portsAt?_eq_some_iff
  · intro options config wanted machine between selected selection speed delay
    obtain ⟨kept, later, same, opened⟩ := Run.openSerial_of_selected selection wanted
    refine ⟨wanted.handshake? kept, kept.queueSettings, later, ?_, ?_⟩
    · rw [opened, options.baudRate_eq, same .baud]
    · intro handshake asked
      rw [HandshakeOptions.settleDelay_of_handshake? asked, same .settleDelay]

/-- The global file sets a speed and a settle delay, and the local file another speed. A run with a
port that was named opens it at the speed of the local file, and its handshake has the settle delay
of the global one. -/
theorem load_lays_settings_two_files :
    let globalText := "[serial]\nbaud = 9600\n[handshake]\nsettle_delay_ms = 20\n"
    let localText := "[serial]\nbaud = 57600\n"
    let devicesText := "[[usb_device]]\nvid = 1\npid = 2\n"
    let files : ConfigFiles :=
      { tree :=
          { entries :=
              [ (["global", "config.toml"], .file globalText.toUTF8.toList),
                ([localConfigName], .file localText.toUTF8.toList),
                ([localPortsName], .file devicesText.toUTF8.toList) ]
            working := [] }
        globalDirectory := some ["global"] }
    let machine : Machine :=
      { files := files
        home := []
        dataDirectory := []
        configDirectory := [] }
    let wanted : HandshakeOptions := { startup := some [0x52], response := some [0x4F] }
    let options : Options := { port := some "ttyS0", command := .handshake wanted }
    files.load.get? .baud = some 57600 ∧
    files.load.get? .settleDelay = some 20 ∧
    files.load.serial.devices = [⟨1, 2⟩] ∧
    ∃ handshake? queue later,
      Run.openSerial options files.load wanted machine =
        Run.connectPort { portName := "ttyS0", baudRate := 57600 } handshake? queue later ∧
      ∀ handshake ∈ handshake?, handshake.settleDelay = .ofMillis 20 := by
  intro globalText localText devicesText files machine wanted options
  obtain ⟨-, -, -, loads, runs⟩ := load_lays_settings
  obtain ⟨settings, devices, -, -⟩ := loads files
  have speed : files.load.get? .baud = some 57600 := by
    rw [settings]
    decide +kernel
  have delay : files.load.get? .settleDelay = some 20 := by
    rw [settings]
    decide +kernel
  have listed : files.load.serial.devices = [⟨1, 2⟩] := by
    rw [devices]
    decide +kernel
  have selection : Run.selectPort options files.load machine =
      (.ok (Selection.judged files.load (.serial "ttyS0")), machine) := rfl
  obtain ⟨handshake?, queue, later, opened, delays⟩ :=
    runs options files.load wanted machine _ _ selection
  rw [speed] at opened
  rw [delay] at delays
  exact ⟨speed, delay, listed, handshake?, queue, later, opened, delays⟩

end ConfigFiles

end DeviceLink
