import BpfBoot.Bpf.Model
import BpfBoot.DevicePlatform
import BpfBoot.Machine.Executable
import BpfBoot.Machine.Shell
import BpfBoot.Object.Loader
import BpfBoot.Program
import BpfBoot.Settings.Load

/-!
# A machine

The surroundings of the program as one value: files, a terminal, an environment, programs that are
shell scripts, and the model kernel. A run on a machine is a plain function, so it can be tried without
a device.
-/

namespace BpfBoot

open Log

/-- A machine as the program sees it. -/
structure Machine where
  files : Files
  console : Console
  environment : Environment
  release : Bytes
  /-- What the kernel refuses. -/
  rules : Bpf.KernelRules
  /-- Whether the features of the kernel are known already. -/
  featuresKnown : Bool

namespace Machine

def filesIn : FilesIn Machine :=
  ⟨files, fun files m => { m with files }⟩

/-- The kernel of the machine, with the rules of the machine. -/
def kernel : Bpf.Kernel Machine where
  answer call m :=
    let (reply, files) := (Bpf.modelKernel m.rules).answer call m.files
    (reply, { m with files })

def features (m : Machine) : Object.KernelFeatures :=
  ⟨m.rules.programLoad.isNone, m.rules.mapCreate.isNone⟩

/-- The machine as a host of object files. -/
def host (processors : Nat) : Object.Host Machine where
  files := files
  kernel := kernel
  processors
  features := features
  discover m := (!m.featuresKnown, { m with featuresKnown := true })

/-! ## Programs -/

/-- The variables of a program that is started with an environment. -/
def shellVariables (env : Environment) : List (String × String) :=
  env.bindings.map fun (name, value) =>
    (Text.Utf8.decodeLossy name, Text.Utf8.decodeLossy value)

/-- Runs a program with arguments and an environment. -/
def execute (m : Machine) (e : Executable) (arguments : List String) (env : Environment) :
    ExitStatus × Machine :=
  let shell : Shell := {
    files := m.files
    console := m.console
    name := e.name.display
    arguments := e.leading.map Path.display ++ arguments
    bindings := shellVariables env
    status := 0
    ended := none }
  let (status, shell) := shell.runScript (Text.Utf8.decodeLossy e.script)
  (status, { m with files := shell.files, console := shell.console })

/-- Runs a program whose output is kept: nothing reaches the terminal. -/
def executeQuietly (m : Machine) (e : Executable) (arguments : List String) (env : Environment) :
    Execution × Machine :=
  let (status, next) := { m with console := .blank }.execute e arguments env
  (⟨status, next.console.out⟩, { next with console := m.console })

def processes : Processes Machine where
  environment := environment
  replace successor m :=
    match Executable.find m.files successor.program with
    | .error errno => (.error errno, m)
    | .ok e =>
        let arguments := (successor.arguments.drop 1).map Text.Utf8.decodeLossy
        let (status, m) := m.execute e arguments successor.environment
        (.ok status, m)
  start command arguments keepOutput m :=
    match Executable.ofCommand m.files m.environment command with
    | .error errno => (.error (.os errno), m)
    | .ok e =>
        if keepOutput then
          let (execution, m) := m.executeQuietly e arguments m.environment
          (.ok execution, m)
        else
          let (status, m) := m.execute e arguments m.environment
          (.ok ⟨status, []⟩, m)

/-! ## Surroundings -/

/-- The name of the directory of the configuration in the environment. -/
def configDirVariable : String := "CONFIG_DIR"

/-- The name of the log filter in the environment. -/
def filterVariable : String := "RUST_LOG"

def architecture : String := "x86_64"

/-- What the machine tells about itself. -/
def facts (m : Machine) : SystemFacts where
  release := m.release
  arch := architecture
  kernel64Bit := true
  userspace32Bit := false
  gsi := m.files.leadsToEntry (.ofString gsiMarker)

/-- Lifts the limit on locked memory. -/
def liftMemoryLimit (m : Machine) : Bool × Machine :=
  match kernel.answer .liftMemoryLimit m with
  | (.ok _, m) => (true, m)
  | (.error _, m) => (false, m)

def openLogs (clock : Clock) (config : LogsConfig) (m : Machine) :
    Except SetupError Logs × Machine :=
  let filter := (m.environment.getText? filterVariable).getD ""
  let (result, files, console) := Logs.setUp config filter clock m.files m.console
  (result, { m with files, console })

def writeLogs (clock : Clock) (logs : Logs) (events : List Event) (m : Machine) : Machine :=
  let (files, console) := logs.write clock events m.files m.console
  { m with files, console }

/-- A machine with the given number of processors, as the surroundings of the program. -/
def surroundings (clock : Clock) (processors : Nat) : Surroundings Machine where
  loadSettings given m :=
    Settings.load m.files given (m.environment.getText? configDirVariable)
  openLogs := openLogs clock
  writeLogs := writeLogs clock
  print s m := { m with console := m.console.print s }
  complain s m := { m with console := m.console.complain s }
  liftMemoryLimit := liftMemoryLimit
  properties := .ofPrograms processes
  facts := facts
  platform settings := DevicePlatform.make filesIn kernel .whole (.ofString settings.pinRoot)
  loader settings := Object.fileLoader (host processors) (.ofString settings.pinRoot)
  processes := processes

end Machine

end BpfBoot
