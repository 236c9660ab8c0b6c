import BpfBoot.Machine.Basic

/-!
# The command

The command rehearses a boot on the machine that it is started on. It reads the files that the loader
looks at and runs the program on a modelled machine that has them, so nothing is changed. What the
program writes to its terminal is shown, and its exit status is given back.
-/

namespace BpfBoot.Rehearsal

/-- The permission bits of the files that are read. -/
def fileMode : Nat := 0o755

/-- The files of a machine that has none. -/
def noFiles : Files := ⟨.empty, [], 0o022⟩

def addFile (path : String) (data : ByteArray) (files : Files) : Files :=
  let p := Path.ofString path
  let made := match Files.parentPath? p with
    | some parent => (files.makeDirectories parent).toOption.getD files
    | none => files
  let written := (made.write p data.toList).toOption.getD made
  (written.changeMode p fileMode).toOption.getD written

def readFile (files : Files) (path : String) : IO Files := do
  try return addFile path (← IO.FS.readBinFile path) files
  catch _ => return files

/-- Reads the files of a directory, if there is one. -/
def readDirectory (files : Files) (dir : String) : IO Files := do
  try
    let entries ← (← IO.FS.realPath dir).readDir
    entries.foldlM (fun files entry => readFile files (dir ++ "/" ++ entry.fileName))
      ((files.makeDirectories (.ofString dir)).toOption.getD files)
  catch _ => return files

/-- The names in the environment that the program looks at. -/
def environmentNames : List String :=
  [Machine.configDirVariable, Machine.filterVariable, Machine.Executable.searchVariable]

def readEnvironment : IO Environment := do
  let bindings ← environmentNames.filterMapM fun name => do
    return (← IO.getEnv name).map fun value => (name, value)
  return .ofTexts bindings

/-- The files that the program looks at whatever its settings are. -/
def fixedPaths : List String :=
  [bpfLoaderScript, netBpfLoadScript, gsiMarker, mountTable, unprivilegedBpfDisabled, bpfJitEnable,
   bpfJitKallsyms]

/-- Reads the files that the settings name. -/
def readNamed (settings : Settings) (files : Files) : IO Files := do
  let files ← readFile files settings.loader.platformLoader
  let files := (files.makeDirectories (.ofString settings.loader.pinRoot)).toOption.getD files
  settings.loader.locations.foldlM (fun files l => readDirectory files l.dir) files

/-- Reads the programs in the directories that are searched. -/
def readPrograms (env : Environment) (files : Files) : IO Files :=
  (Machine.Executable.searchPath env).foldlM (fun files dir =>
    [PropertyStore.getProgram, PropertyStore.setProgram].foldlM (fun files name =>
      readFile files (dir.join (.ofString name)).display) files) files

def releasePath : String := "/proc/sys/kernel/osrelease"

def readRelease : IO Bytes := do
  try return (← IO.FS.readBinFile releasePath).toList.takeWhile (· != 0x0a)
  catch _ => return []

/-- The machine that the command is started on, as far as the program looks at it. -/
def readMachine (arguments : List String) : IO Machine := do
  let environment ← readEnvironment
  let configDir := match CommandLine.parse arguments with
    | .ok line => line.configDir
    | .error _ => none
  let given := environment.getText? Machine.configDirVariable
  let files ← readDirectory noFiles (Settings.directory configDir given)
  let settings := (Settings.load files configDir given).toOption.getD .standard
  let files ← fixedPaths.foldlM readFile files
  let files ← readPrograms environment (← readNamed settings files)
  return {
    files
    console := .blank
    environment
    release := ← readRelease
    rules := .lenient
    featuresKnown := false }

/-- The time now: that at which the system shows the state of this process. -/
def readClock : IO Log.Clock := do
  try
    let now := (← (← IO.FS.realPath "/proc/self").metadata).modified
    return .ofEpoch now.sec.toNat (now.nsec.toNat / 1000)
  catch _ => return .ofEpoch 0 0

/-- The number of processors of the modelled machine. -/
def processors : Nat := 1

/-- What is added to the number of a signal to give an exit code. -/
def signalBase : Nat := 128

/-- The exit code for a status. -/
def exitCode : ExitStatus → UInt32
  | .exited code => .ofNat code
  | .killed signal => .ofNat (signalBase + signal)

/-- Runs the program and shows what it writes. -/
def run (arguments : List String) : IO UInt32 := do
  let machine ← readMachine arguments
  let surroundings := Machine.surroundings (← readClock) processors
  let (ending, machine) := Program.run surroundings arguments machine
  (← IO.getStdout).write ⟨machine.console.out.toArray⟩
  (← IO.getStderr).write ⟨machine.console.err.toArray⟩
  return exitCode ending.exitStatus

end BpfBoot.Rehearsal

def main (arguments : List String) : IO UInt32 :=
  BpfBoot.Rehearsal.run arguments
