import DeviceLink.Proofs.Config.PortsFile
import DeviceLink.Proofs.Files.Tree
import DeviceLink.Tool.Selection

/-!
# What is remembered

Remembering a device replaces a ports file by the devices of the configuration
and the new one, and leaves the configuration files. A configuration that was
loaded from the machine's own files has the devices of the old ports file, so
that none is forgotten; one from a file that was named has only its own, and
what stood in the ports file alone is lost.
-/

namespace DeviceLink.ConfigFiles

/-! ## What a load reads -/

/-- The configuration of the configuration files, without the remembered devices. -/
def configured (files : ConfigFiles) : Config :=
  ((files.globalConfig?.bind files.configAt?).getD {}).overlay
    ((files.configAt? files.localConfig).getD {})

theorem load_eq (files : ConfigFiles) :
    files.load = files.configured.withDevices files.rememberedDevices :=
  rfl

/-- A load lists the devices of the configuration files, and then the remembered ones. -/
theorem devices_load (files : ConfigFiles) :
    files.load.serial.devices = files.configured.serial.devices ++ files.rememberedDevices :=
  rfl

theorem configAt?_eq (files : ConfigFiles) (place : Place) :
    files.configAt? place = (files.tree.text? place).bind Config.parse? := by
  unfold configAt? FileTree.text?
  cases files.tree.readText place <;> rfl

theorem portsAt?_eq (files : ConfigFiles) (place : Place) :
    files.portsAt? place = (files.tree.text? place).bind KnownDevice.parsePorts? := by
  unfold portsAt? FileTree.text?
  cases files.tree.readText place <;> rfl

/-- Two machines with the same directories, and with the same texts at some places. -/
structure SameAt (kept : Place → Prop) (files after : ConfigFiles) : Prop where
  /-- The global directory is the same. -/
  globalDirectory : after.globalDirectory = files.globalDirectory
  /-- The working directory is the same. -/
  working : after.tree.working = files.tree.working
  /-- The texts at these places are the same. -/
  text : ∀ place, kept place → after.tree.text? place = files.tree.text? place

namespace SameAt

variable {kept : Place → Prop} {files middle after : ConfigFiles}

theorem mono
    {fewer : Place → Prop}
    (same : SameAt kept files after)
    (within : ∀ place, fewer place → kept place) :
    SameAt fewer files after :=
  ⟨same.globalDirectory, same.working, fun place among => same.text place (within place among)⟩

theorem trans (first : SameAt kept files middle) (second : SameAt kept middle after) :
    SameAt kept files after where
  globalDirectory := second.globalDirectory.trans first.globalDirectory
  working := second.working.trans first.working
  text place among := (second.text place among).trans (first.text place among)

theorem configAt? (same : SameAt kept files after) {place : Place} (among : kept place) :
    after.configAt? place = files.configAt? place := by
  rw [configAt?_eq, configAt?_eq, same.text place among]

theorem portsAt? (same : SameAt kept files after) {place : Place} (among : kept place) :
    after.portsAt? place = files.portsAt? place := by
  rw [portsAt?_eq, portsAt?_eq, same.text place among]

theorem localConfig (same : SameAt kept files after) :
    after.localConfig = files.localConfig := by
  rw [ConfigFiles.localConfig, ConfigFiles.localConfig, same.working]

theorem globalConfig? (same : SameAt kept files after) :
    after.globalConfig? = files.globalConfig? := by
  rw [ConfigFiles.globalConfig?, ConfigFiles.globalConfig?, same.globalDirectory]

theorem localPorts (same : SameAt kept files after) : after.localPorts = files.localPorts := by
  rw [ConfigFiles.localPorts, ConfigFiles.localPorts, same.working]

theorem globalPorts? (same : SameAt kept files after) :
    after.globalPorts? = files.globalPorts? := by
  rw [ConfigFiles.globalPorts?, ConfigFiles.globalPorts?, same.globalDirectory]

/-- Configuration files that are kept give the same configuration. -/
theorem configured
    (same : SameAt kept files after)
    (globalKept : ∀ place ∈ files.globalConfig?, kept place)
    (localKept : kept files.localConfig) :
    after.configured = files.configured := by
  have base : files.globalConfig?.bind after.configAt? =
      files.globalConfig?.bind files.configAt? :=
    Option.bind_congr fun place among => same.configAt? (globalKept place among)
  rw [ConfigFiles.configured, ConfigFiles.configured, same.globalConfig?, same.localConfig, base,
    same.configAt? localKept]

/-- A load reads nothing but the texts. -/
theorem load (same : SameAt (fun _ => True) files after) : after.load = files.load := by
  have remembered : after.rememberedDevices = files.rememberedDevices := by
    have fallback : files.globalPorts?.bind after.portsAt? =
        files.globalPorts?.bind files.portsAt? :=
      Option.bind_congr fun place _ => same.portsAt? trivial
    rw [rememberedDevices, rememberedDevices, same.localPorts, same.globalPorts?,
      same.portsAt? trivial, fallback]
  rw [load_eq, load_eq, same.configured (fun _ _ => trivial) trivial, remembered]

end SameAt

/-! ## The places of the files -/

/-- Files with different names stand at different places. -/
theorem append_ne {directory other : Place} {name name' : String} (differ : name ≠ name') :
    directory ++ [name] ≠ other ++ [name'] := by
  intro same
  have names := List.append_inj_right' same rfl
  exact differ (List.singleton_inj.1 names)

variable (files : ConfigFiles)

/-- No ports file stands at the place of the global configuration file. -/
theorem ne_of_mem_globalConfig?
    {place directory : Place}
    {name : String}
    (among : place ∈ files.globalConfig?)
    (differ : "config.toml" ≠ name) :
    place ≠ directory ++ [name] := by
  obtain ⟨above, -, rfl⟩ := Option.map_eq_some_iff.1 among
  exact append_ne differ

theorem localConfig_ne_localPorts : files.localConfig ≠ files.localPorts :=
  append_ne (by decide)

variable {files}

/-! ## Saving -/

/-- Saving devices fails and changes nothing, or puts them into the ports file alone. -/
theorem savePorts_cases (devices : List KnownDevice) (place : Place) (files : ConfigFiles) :
    (∃ fault, files.savePorts devices place = (.error fault, files)) ∨
      ∃ after, files.savePorts devices place = (.ok (), after) ∧
        SameAt (· ≠ place) files after ∧ after.portsAt? place = some devices := by
  unfold savePorts
  cases written : files.tree.writeText place (portsText devices) with
  | error fault => exact .inl ⟨fault, rfl⟩
  | ok tree =>
      refine .inr ⟨{ files with tree := tree }, rfl, ⟨rfl, ?_, ?_⟩, ?_⟩
      · exact FileTree.working_of_writeText written
      · intro other apart
        exact FileTree.text?_of_writeText_of_ne written apart
      · rw [portsAt?_eq, FileTree.text?_of_writeText written, Option.bind_some,
          KnownDevice.parsePorts?_portsText]

/-- Where the local files are not in use, there is no local ports file. -/
theorem portsAt?_localPorts_of_not_isLocal (unused : files.isLocal = false) :
    files.portsAt? files.localPorts = none := by
  have nothing : files.tree.at? files.localPorts = none := by
    simpa [isLocal, FileTree.holds] using (Bool.or_eq_false_iff.1 unused).1
  rw [portsAt?_eq, FileTree.text?_eq]
  simp [FileTree.file?, nothing]

/-- Where a device can be remembered: making a directory has left all texts, no configuration file
stands at the place, and what will be written there is what a load remembers. -/
structure PortsReady (files : ConfigFiles) (place : Place) (ready : ConfigFiles) : Prop where
  /-- All texts and directories are as before. -/
  same : SameAt (fun _ => True) files ready
  /-- The place is not that of the global configuration. -/
  apartGlobal : ∀ other ∈ files.globalConfig?, other ≠ place
  /-- The place is not that of the local configuration. -/
  apartLocal : files.localConfig ≠ place
  /-- A ports file at the place is the one that a load reads. -/
  remembers : ∀ after devices, SameAt (· ≠ place) files after →
    after.portsAt? place = some devices → after.rememberedDevices = devices

theorem SameAt.refl (files : ConfigFiles) : SameAt (fun _ => True) files files :=
  ⟨rfl, rfl, fun _ _ => rfl⟩

/-- The local ports file is always read first. -/
theorem portsReady_localPorts (files : ConfigFiles) :
    PortsReady files files.localPorts files where
  same := .refl files
  apartGlobal _ among := files.ne_of_mem_globalConfig? among (by decide)
  apartLocal := files.localConfig_ne_localPorts
  remembers after devices same written := by
    rw [rememberedDevices, same.localPorts, written]
    rfl

/-- The global ports file is read where no local files are in use. -/
theorem portsReady_globalPorts
    {directory : Place}
    {ready : ConfigFiles}
    (unused : files.isLocal = false)
    (same : SameAt (fun _ => True) files ready)
    (known : files.globalDirectory = some directory) :
    PortsReady files (directory ++ ["ports.toml"]) ready where
  same := same
  apartGlobal _ among := files.ne_of_mem_globalConfig? among (by decide)
  apartLocal := append_ne (by decide)
  remembers after devices saved written := by
    -- A local ports file would be read first, but there is none.
    have apart : files.localPorts ≠ directory ++ ["ports.toml"] := append_ne (by decide)
    have nothing : after.portsAt? after.localPorts = none := by
      rw [saved.localPorts, saved.portsAt? apart]
      exact portsAt?_localPorts_of_not_isLocal unused
    have fallback : after.globalPorts? = some (directory ++ ["ports.toml"]) := by
      rw [saved.globalPorts?, globalPorts?, known, Option.map_some]
    rw [rememberedDevices, nothing, fallback, Option.bind_some, written]
    rfl

/-- A ports file that is made ready is one where devices can be remembered. -/
theorem portsReady_of_readyPorts
    {place : Place}
    {ready : ConfigFiles}
    (made : files.readyPorts = .ok (place, ready)) :
    PortsReady files place ready := by
  unfold readyPorts at made
  split at made
  · cases made
    exact portsReady_localPorts files
  · rename_i unused
    split at made
    · cases made
      exact portsReady_localPorts files
    · rename_i directory known
      cases directories : files.tree.makeDirectories directory with
      | error fault =>
          rw [directories] at made
          cases made
      | ok tree =>
          rw [directories] at made
          cases made
          obtain ⟨working, text⟩ := FileTree.makeDirectories_spec directories
          exact portsReady_globalPorts (Bool.eq_false_iff.mpr unused)
            ⟨rfl, working, fun place _ => text place⟩ known

/-! ## Remembering -/

/-- What remembering a device can do. -/
inductive Remembering
    (device : KnownDevice)
    (config : Config)
    (files : ConfigFiles) : Except FileFault Unit × Config × ConfigFiles → Prop
  | listed
      (known : device ∈ config.serial.devices) :
      Remembering device config files (.ok (), config, files)
  | saved {after : ConfigFiles}
      (new : device ∉ config.serial.devices)
      (configured : after.configured = files.configured)
      (remembered : after.rememberedDevices = config.serial.devices ++ [device]) :
      Remembering device config files (.ok (), config.withDevices [device], after)
  | failed {fault : FileFault} {later : Config} {after : ConfigFiles}
      (kept : config.serial.devices ⊆ later.serial.devices)
      (unchanged : after.load = files.load) :
      Remembering device config files (.error fault, later, after)

theorem remember_cases (device : KnownDevice) (config : Config) (files : ConfigFiles) :
    Remembering device config files (files.remember device config) := by
  have more : config.serial.devices ⊆ (config.withDevices [device]).serial.devices :=
    List.subset_append_left _ _
  unfold remember
  by_cases known : device ∈ config.serial.devices
  · rw [if_pos (List.contains_iff_mem.2 known)]
    exact .listed known
  · rw [if_neg (by simpa using known)]
    cases made : files.readyPorts with
    | error fault => exact .failed (List.Subset.refl _) rfl
    | ok prepared =>
        obtain ⟨place, ready⟩ := prepared
        have isReady := portsReady_of_readyPorts made
        obtain ⟨fault, failed⟩ | ⟨after, done, saved, written⟩ :=
          savePorts_cases (config.withDevices [device]).serial.devices place ready
        · simp only [failed]
          exact .failed more isReady.same.load
        · have same : SameAt (· ≠ place) files after :=
            (isReady.same.mono fun _ _ => trivial).trans saved
          simp only [done]
          refine .saved known ?_ ?_
          · exact same.configured isReady.apartGlobal isReady.apartLocal
          · exact isReady.remembers after _ same written

/-! ## What is kept -/

/-- The configuration lists all devices that a load of the machine lists. -/
def Covers (files : ConfigFiles) (config : Config) : Prop :=
  files.load.serial.devices ⊆ config.serial.devices

theorem covers_load (files : ConfigFiles) : files.Covers files.load :=
  List.Subset.refl _

/-- Behind a save, a load lists the configured devices, those of the configuration and the new
one. -/
theorem mem_load_of_saved
    {device known : KnownDevice}
    {config : Config}
    {after : ConfigFiles}
    (configured : after.configured = files.configured)
    (remembered : after.rememberedDevices = config.serial.devices ++ [device]) :
    known ∈ after.load.serial.devices ↔
      known ∈ files.configured.serial.devices ∨ known ∈ config.serial.devices ∨ known = device := by
  rw [devices_load, configured, remembered, List.mem_append, List.mem_append, List.mem_singleton]

/-- A configuration that covers the machine still does when a device was remembered, and no
device is forgotten, whether saving works or not. -/
theorem Covers.remember
    {config later : Config}
    {device : KnownDevice}
    {outcome : Except FileFault Unit}
    {after : ConfigFiles}
    (covers : files.Covers config)
    (result : files.remember device config = (outcome, later, after)) :
    after.Covers later ∧ files.load.serial.devices ⊆ after.load.serial.devices := by
  have cases := remember_cases device config files
  rw [result] at cases
  cases cases with
  | listed known => exact ⟨covers, List.Subset.refl _⟩
  | saved new configured remembered =>
      constructor
      · intro known among
        have more := (mem_load_of_saved configured remembered).1 among
        rw [Config.withDevices, List.mem_append, List.mem_singleton]
        obtain fixed | own | rfl := more
        · have loaded : known ∈ files.load.serial.devices := by
            rw [devices_load]
            exact List.mem_append_left _ fixed
          exact .inl (covers loaded)
        · exact .inl own
        · exact .inr rfl
      · intro known among
        exact (mem_load_of_saved configured remembered).2 (.inr (.inl (covers among)))
  | failed kept unchanged =>
      rw [Covers, unchanged]
      exact ⟨List.Subset.trans covers kept, List.Subset.refl _⟩

/-- Only a device that the configuration does not list is offered. -/
theorem not_mem_of_unlisted?
    {config : Config}
    {port : DeviceDescriptor}
    {device : KnownDevice}
    (offered : Selection.unlisted? config port = some device) :
    device ∉ config.serial.devices := by
  unfold Selection.unlisted? at offered
  split at offered
  · split at offered
    · cases offered
    · rename_i unlisted
      cases offered
      intro known
      apply unlisted
      rw [Config.lists, List.any_eq_true]
      exact ⟨_, known, by simp [KnownDevice.fits]⟩
  · cases offered

/-- An offer to remember a port keeps what is covered, whatever is answered. -/
theorem Covers.offerToRemember
    {config later : Config}
    {port : DeviceDescriptor}
    {terminal left : Terminal}
    {after : ConfigFiles}
    (covers : files.Covers config)
    (result : Selection.offerToRemember port config files terminal = (later, after, left)) :
    after.Covers later ∧ files.load.serial.devices ⊆ after.load.serial.devices := by
  have unchanged : files.Covers config ∧ files.load.serial.devices ⊆ files.load.serial.devices :=
    ⟨covers, List.Subset.refl _⟩
  unfold Selection.offerToRemember at result
  split at result
  · dsimp only at result
    split at result
    · cases result
      exact covers.remember rfl
    · cases result
      exact unchanged
  · cases result
    exact unchanged

/-- The files behind some sessions, each of which loads the configuration of the machine and
offers to remember a port at a terminal. -/
def afterOffers (files : ConfigFiles) (offers : List (DeviceDescriptor × Terminal)) : ConfigFiles :=
  offers.foldl (fun files offer =>
    (Selection.offerToRemember offer.1 files.load files offer.2).2.1) files

/-- Over all sessions with the configuration of the machine, no device is forgotten. -/
theorem subset_load_afterOffers
    (files : ConfigFiles)
    (offers : List (DeviceDescriptor × Terminal)) :
    files.load.serial.devices ⊆ (files.afterOffers offers).load.serial.devices := by
  induction offers generalizing files with
  | nil => exact List.Subset.refl _
  | cons offer offers inductionHypothesis =>
      have first : files.load.serial.devices ⊆ (files.afterOffers [offer]).load.serial.devices :=
        (files.covers_load.offerToRemember rfl).2
      exact List.Subset.trans first (inductionHypothesis _)

/-! ## A machine with a remembered device -/

/-- A machine with one device in the local ports file, and an empty file that can be named. -/
def exampleMachine : ConfigFiles where
  tree :=
    { entries :=
        [ (["work", "own"], .file "".toUTF8.toList),
          (["work", localPortsName], .file (portsText [⟨1, 2⟩]).toUTF8.toList),
          (["work"], .directory) ]
      working := ["work"] }
  globalDirectory := some ["global"]

/-- A port with ids that the machine does not know. -/
def examplePort : DeviceDescriptor :=
  { DeviceDescriptor.serial "port" with vendor := some 3, product := some 4 }

theorem devices_load_exampleMachine : exampleMachine.load.serial.devices = [⟨1, 2⟩] := by
  have stands : exampleMachine.tree.file? exampleMachine.localPorts =
      some (portsText [⟨1, 2⟩]).toUTF8.toList :=
    rfl
  have read : exampleMachine.portsAt? exampleMachine.localPorts = some [⟨1, 2⟩] := by
    rw [portsAt?_eq, FileTree.text?_eq, stands, Option.bind_some, FileTree.textOf_toUTF8]
    exact KnownDevice.parsePorts?_portsText _
  have none : exampleMachine.configured.serial.devices = [] := rfl
  rw [devices_load, none, rememberedDevices, read]
  rfl

/-- On this machine saving works. -/
theorem remember_exampleMachine
    {device : KnownDevice}
    {config : Config}
    (new : device ∉ config.serial.devices) :
    ∃ later after, exampleMachine.remember device config = (.ok (), later, after) := by
  unfold remember
  rw [if_neg (by simpa using new)]
  exact ⟨_, _, rfl⟩

/-- The empty text is a configuration without settings. -/
theorem parse?_empty : Config.parse? "" = some {} := by
  have fields : Toml.parse? "" = some [] := KnownDevice.parse?_portsText []
  unfold Config.parse?
  rw [fields]
  rfl

theorem resolve_exampleMachine : exampleMachine.tree.resolve "own" = .ok ["work", "own"] := by
  have noNul : ("own".any (· == Char.ofNat 0)) = false := by simp [String.any]
  have noRoot : ("own".all (· == '/')) = false := by simp
  have parts : "own".splitOn "/" = ["own"] := by
    unfold String.splitOn
    rw [if_neg (by decide)]
    iterate 3 rw [String.splitOnAux, if_neg (by decide), if_neg (by decide)]
    rw [String.splitOnAux, if_pos (by decide)]
    decide
  unfold FileTree.resolve
  rw [noNul, noRoot, parts, if_neg (by decide), if_neg (by decide), if_neg (by decide),
    if_neg (by decide)]
  rfl

theorem loadFrom_exampleMachine : exampleMachine.loadFrom "own" = .ok {} := by
  have read : exampleMachine.tree.readPath "own" = .ok "" := by
    unfold FileTree.readPath
    rw [resolve_exampleMachine]
    exact FileTree.textOf_toUTF8 ""
  unfold loadFrom
  rw [read]
  simp only [parse?_empty]

/-! ## What remembering keeps and what it forgets -/

/-- What remembering a device does to the devices of a later load. With the configuration of the
machine itself all of them are kept. With a configuration that does not list the device, wherever
it comes from, the device is added, and lost are those that stand in no configuration file and
that the configuration does not list: they stood in the old ports file alone. -/
theorem remember_keeps_or_forgets
    {device : KnownDevice}
    {config later : Config}
    {after : ConfigFiles}
    (done : files.remember device config = (.ok (), later, after)) :
    (config = files.load →
      device ∈ after.load.serial.devices ∧
        files.load.serial.devices ⊆ after.load.serial.devices) ∧
    (device ∉ config.serial.devices →
      after.load = files.configured.withDevices (config.serial.devices ++ [device]) ∧
        device ∈ after.load.serial.devices ∧
        ∀ known ∈ files.load.serial.devices,
          known ∉ after.load.serial.devices ↔
            known ∉ files.configured.serial.devices ∧ known ∉ config.serial.devices ∧
              known ≠ device) := by
  have cases := remember_cases device config files
  rw [done] at cases
  cases cases with
  | listed known =>
      refine ⟨?_, fun new => absurd known new⟩
      rintro rfl
      exact ⟨known, List.Subset.refl _⟩
  | saved new configured remembered =>
      have within : ∀ known, known ∈ after.load.serial.devices ↔
          known ∈ files.configured.serial.devices ∨ known ∈ config.serial.devices ∨
            known = device :=
        fun _ => mem_load_of_saved configured remembered
      have added : device ∈ after.load.serial.devices := (within device).2 (.inr (.inr rfl))
      constructor
      · rintro rfl
        exact ⟨added, (files.covers_load.remember done).2⟩
      · intro _
        refine ⟨?_, added, fun known _ => ?_⟩
        · rw [load_eq, configured, remembered]
        · simp only [within known, not_or, ne_eq]

theorem remember_keeps_or_forgets_own_config :
    ∃ later after, exampleMachine.remember ⟨3, 4⟩ exampleMachine.load = (.ok (), later, after) ∧
      ⟨3, 4⟩ ∈ after.load.serial.devices ∧ ⟨1, 2⟩ ∈ after.load.serial.devices := by
  have new : ⟨3, 4⟩ ∉ exampleMachine.load.serial.devices := by
    rw [devices_load_exampleMachine]
    decide
  have listed : ⟨1, 2⟩ ∈ exampleMachine.load.serial.devices := by
    rw [devices_load_exampleMachine]
    decide
  obtain ⟨later, after, done⟩ := remember_exampleMachine new
  obtain ⟨added, kept⟩ := (remember_keeps_or_forgets done).1 rfl
  exact ⟨later, after, done, added, kept listed⟩

/-- With a configuration from a file that was named, a device can be forgotten when the tool
offers to remember another one. -/
theorem remember_forgets_behind_named_file :
    ∃ port config later after, exampleMachine.loadFrom "own" = .ok config ∧
      Selection.unlisted? config port = some ⟨3, 4⟩ ∧
      exampleMachine.remember ⟨3, 4⟩ config = (.ok (), later, after) ∧
      ⟨1, 2⟩ ∈ exampleMachine.load.serial.devices ∧
      ⟨1, 2⟩ ∉ after.load.serial.devices := by
  have offered : Selection.unlisted? {} examplePort = some ⟨3, 4⟩ := rfl
  have new := not_mem_of_unlisted? offered
  obtain ⟨later, after, done⟩ := remember_exampleMachine new
  have listed : ⟨1, 2⟩ ∈ exampleMachine.load.serial.devices := by
    rw [devices_load_exampleMachine]
    decide
  refine ⟨examplePort, {}, later, after, loadFrom_exampleMachine, offered, done, listed, ?_⟩
  have cases := remember_cases ⟨3, 4⟩ {} exampleMachine
  rw [done] at cases
  cases cases with
  | listed known => exact absurd known new
  | saved new configured remembered =>
      rw [mem_load_of_saved configured remembered]
      decide

end DeviceLink.ConfigFiles
