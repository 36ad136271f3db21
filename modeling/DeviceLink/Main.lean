import DeviceLink.CommandLine.Usage
import DeviceLink.Tool.Session

/-!
# The program

Reads the command line, the environment and the configuration files, runs the
tool, writes back the files it has changed, and prints what it has to say.
Devices are reached through drivers that the caller of the library provides;
the program itself has none, so that it finds no ports and no report devices.
-/

namespace DeviceLink.Program

/-- The version of the tool. -/
def version : String := "0.1.0"

/-- The place of an absolute path. -/
def placeOf (path : String) : Place :=
  (path.splitOn "/").filter fun name => name != ""

/-- The place of a path that may be relative to `working`. -/
def placeFrom (working : Place) (path : String) : Place :=
  if path.startsWith "/" then placeOf path else working ++ placeOf path

/-- The variables that the tool looks at. -/
def watchedVariables : List String :=
  "SHELL" :: Options.globalParameters.filterMap (·.environment)

/-- The environment of the tool. -/
def readEnvironment : IO CommandLine.Environment :=
  watchedVariables.filterMapM fun name => do
    let value ← IO.getEnv name
    pure (value.map (name, ·))

/-- The file at a place, if it can be read. -/
def readFile (place : Place) : IO (Option (Place × FileEntry)) := do
  try
    let bytes ← IO.FS.readBinFile ("/" ++ "/".intercalate place)
    pure (some (place, .file bytes.toList))
  catch _ => pure none

/-- Write a file, and make the directories above it. -/
def writeFile (place : Place) (bytes : List UInt8) : IO Unit := do
  IO.FS.createDirAll ("/" ++ "/".intercalate place.dropLast)
  IO.FS.writeBinFile ("/" ++ "/".intercalate place) ⟨bytes.toArray⟩

/-- The directory that a variable names, or one below the home directory. -/
def directoryFrom (name : String) (home otherwise : Place) : IO Place := do
  match ← IO.getEnv name with
  | some path => pure (placeOf path)
  | none => pure (home ++ otherwise)

/-- The machine that the program runs on. -/
def findMachine (words : List String) : IO Machine := do
  let environment ← readEnvironment
  let working := placeOf ((← IO.getEnv "PWD").getD "/")
  let knownHome ← IO.getEnv "HOME"
  let home := placeOf (knownHome.getD "/")
  let configDirectory ← directoryFrom "XDG_CONFIG_HOME" home [".config"]
  let dataDirectory ← directoryFrom "XDG_DATA_HOME" home [".local", "share"]
  let bare : ConfigFiles :=
    { tree := { entries := [], working := working }
      globalDirectory := knownHome.map fun _ => configDirectory ++ [toolName] }
  let named :=
    match Options.read environment words with
    | .ok options => options.configPath.toList.map (placeFrom working)
    | .error _ => []
  let places :=
    [bare.localConfig, bare.localPorts] ++ bare.globalConfig?.toList ++ bare.globalPorts?.toList
      ++ named
  let files ← places.filterMapM readFile
  let directories := [working, home].map (·, FileEntry.directory)
  pure
    { files := { bare with tree := { bare.tree with entries := files ++ directories } }
      home := home
      dataDirectory := dataDirectory
      configDirectory := configDirectory
      environment := environment }

/-- Write the files that a run has changed. -/
def saveFiles (before after : FileTree) : IO Unit :=
  after.files.forM fun (place, bytes) => do
    if before.at? place != some (.file bytes) then writeFile place bytes

/-- Say how a session ended. -/
def announce : SessionEnd → IO Unit
  | .finished => pure ()
  | .stopped (.failed failure) => IO.eprintln ("Error: " ++ failure.text)
  | .stopped .crashed => IO.eprintln "Error: a time limit is out of range"
  | .refused .versionAsked => IO.println (toolName ++ " " ++ version)
  | .refused .helpAsked => IO.print (Options.grammar.usage toolName)
  | .refused fault => do
      if let some reason := fault.reason then IO.eprintln ("error: " ++ reason)
      IO.eprint (Options.grammar.usage toolName)

/-- Run the tool with the arguments of the program. -/
def run (words : List String) : IO UInt32 := do
  let machine ← findMachine words
  let (ended, later) := machine.runTool words
  IO.print later.transcript.results
  IO.eprint later.transcript.remarks
  saveFiles machine.files.tree later.files.tree
  announce ended
  pure ended.exitCode.toUInt32

end DeviceLink.Program

/-- The program. -/
def main (words : List String) : IO UInt32 :=
  DeviceLink.Program.run words
