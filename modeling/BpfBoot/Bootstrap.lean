import BpfBoot.Capabilities
import BpfBoot.Kernel.Branch
import BpfBoot.LoaderError
import BpfBoot.Mounts
import BpfBoot.Object.Directory

/-!
# The boot sequence

The loader checks that it may run here, sets the kernel's switches, makes the pin directories, loads
the objects of all locations and tests that BPF works. The first step that fails ends the sequence.
Two failures are tolerated: an unsupported kernel under a generic system image, and a switch that old
kernels do not have.
-/

namespace BpfBoot

open Log

/-- The machine that the boot sequence runs on, with states in `σ`. -/
structure Platform (σ : Type) where
  fileExists : Path → σ → Outcome (Except Errno Bool) σ
  writeSwitch : Path → String → σ → Outcome (Except SysctlError Unit) σ
  makePinDir : String → σ → Outcome (Except PinDirError Unit) σ
  selfTest : σ → Outcome (Except BpfError Unit) σ
  /-- Waits for a number of seconds. -/
  sleep : Nat → σ → Outcome Unit σ
  /-- The names in a directory. -/
  list : σ → Path → Except IoError (List Name)
  /-- The text of the mount table. -/
  mounts : σ → Except IoError String

/-- What the boot sequence asks of the platform or of the object loader. -/
inductive Request where
  | fileExists (path : Path)
  | writeSwitch (path : Path) (value : String)
  | makePinDir (subdir : String)
  | selfTest
  | sleep (seconds : Nat)
  | loadObject (path : Path) (version : LoaderVersion) (location : Location)
  deriving DecidableEq, Repr

variable {σ : Type}

/-- A step in a world that also keeps the requests that were made, latest first. -/
def Request.record {α : Type} (request : Request) (step : σ → Outcome α σ) :
    σ × List Request → Outcome α (σ × List Request) := fun (world, requests) =>
  let outcome := step world
  ⟨outcome.value, outcome.events, outcome.world, request :: requests⟩

/-- A platform that also keeps the requests that were made, latest first. -/
def Platform.recording (p : Platform σ) : Platform (σ × List Request) where
  fileExists path := (Request.fileExists path).record (p.fileExists path)
  writeSwitch path value := (Request.writeSwitch path value).record (p.writeSwitch path value)
  makePinDir subdir := (Request.makePinDir subdir).record (p.makePinDir subdir)
  selfTest := Request.selfTest.record p.selfTest
  sleep seconds := (Request.sleep seconds).record (p.sleep seconds)
  list world := p.list world.1
  mounts world := p.mounts world.1

/-- An object loader that also keeps the requests that were made, latest first. -/
def Object.ObjectLoader.recording (loader : Object.ObjectLoader σ) :
    Object.ObjectLoader (σ × List Request) := fun path version location =>
  (Request.loadObject path version location).record (loader path version location)

/-- How the boot sequence ends if nothing fails. -/
inductive Completion where
  | finished
  /-- The platform's loader takes over. -/
  | handOff (program : String)
  deriving DecidableEq, Repr

structure Bootstrap (σ : Type) where
  caps : Capabilities
  platform : Platform σ
  loader : Object.ObjectLoader σ
  locations : List Location
  settings : LoaderSettings

namespace Bootstrap

def logTarget : String := "netbpfload::bootstrap"

abbrev Step (σ α : Type) := ExceptT LoaderError (Logged σ) α

def note (e : Event) : Step σ Unit :=
  ExceptT.lift (Log.report e)

/-- Makes a request that cannot fail. -/
def ask {α : Type} (step : σ → Outcome α σ) : Step σ α :=
  ExceptT.lift (follow step)

def attempt {ε α : Type} (wrap : ε → LoaderError) (step : σ → Outcome (Except ε α) σ) :
    Step σ α := do
  match ← ask step with
  | .ok a => return a
  | .error e => throw (wrap e)

def warning (message : String) : Event :=
  ⟨.warn, logTarget, message⟩

def notice (message : String) : Event :=
  ⟨.info, logTarget, message⟩

variable (b : Bootstrap σ)

/-! ## Checks -/

def fileExists (path : String) : Step σ Bool :=
  attempt (.access (.ofString path)) (b.platform.fileExists (.ofString path))

/-- A yes or no as a digit. -/
def digit (flag : Bool) : String :=
  if flag then "1" else "0"

/-- The platform must have exactly one of the two init scripts. -/
def checkInitScripts : Step σ Unit := do
  let bpfLoader ← fileExists b bpfLoaderScript
  let netBpfLoad ← fileExists b netBpfLoadScript
  note (notice ("NetBpfLoad api:" ++ Text.decimal b.caps.apiLevel ++ " kver:"
    ++ b.caps.kernel.displayHex 7 ++ " (" ++ b.caps.describeArch ++ ") rc:" ++ digit bpfLoader
    ++ digit netBpfLoad))
  if !bpfLoader && !netBpfLoad then throw .missingInitScripts
  if bpfLoader && netBpfLoad then throw .duplicateInitScripts

def reportMounts : Step σ Unit := do
  let table ← ExceptT.lift (look b.platform.mounts)
  (Mounts.versionEvents table).forM note

/-- A release and the kernel version that it asks for at least. -/
structure Floor where
  apiLevel : Nat
  release : String
  required : KernelVersion

def floors : List Floor :=
  [⟨apiLevelT, "T", .ofParts 4 9 0⟩, ⟨apiLevelU, "U", .ofParts 4 14 0⟩,
   ⟨apiLevelV, "V", .ofParts 4 19 0⟩]

/-- The kernel must be new enough for the release. -/
def checkFloors : List Floor → Step σ Unit
  | [] => pure ()
  | floor :: rest =>
      if floor.apiLevel ≤ b.caps.apiLevel ∧ b.caps.kernel < floor.required then
        throw (.kernelTooOld floor.release floor.required)
      else checkFloors rest

def kernelWarnings (kernel : KernelVersion) : List String :=
  (if kernel.isLongTerm then [] else ["Android V only supports LTS kernels."])
    ++ match kernel.requiredRelease? with
      | some required =>
          if kernel < required then
            ["Android V requires " ++ Text.decimal required.major ++ "."
              ++ Text.decimal required.minor ++ " kernel to be " ++ required.display ++ "+."]
          else []
      | none => []

/-- The kernel must be one that Android V supports, unless a generic system image runs; that waits
for a while, so that the warning is seen. -/
def checkKernelSupport : Step σ Unit := do
  let warnings := kernelWarnings b.caps.kernel
  warnings.forM fun message => note (warning message)
  if !warnings.isEmpty then
    if b.caps.gsi then
      note (warning ("Unsupported kernel version (" ++ b.caps.kernel.displayHex 7
        ++ "), continuing on GSI."))
      ask (b.platform.sleep b.settings.gsiWarningDelay)
    else throw (.unsupportedKernel b.caps.kernel)

/-- The release and the kernel must fit each other. -/
def checkVersions : Step σ Unit := do
  if !b.caps.isAtLeastT then throw (.belowT b.caps.apiLevel)
  checkFloors b floors
  if b.caps.isAtLeastV then
    if b.caps.arch.isX86 && !b.caps.kernel64Bit then throw .kernel32BitOnX86
    checkKernelSupport b

/-- New kernels need programs of 64 bits. -/
def checkBitness : Step σ Unit := do
  if b.caps.userspace32Bit && b.caps.kernel.isAtLeast 6 2 0 then throw .userspace32Bit

/-- The type of the build must be known. -/
def checkBuildType : Step σ Unit := do
  if b.caps.buildType.isUndefined then throw (.unknownBuildType b.caps.rawBuildType)

/-! ## Preparations -/

/-- Closes BPF to unprivileged processes. Old kernels cannot do this, but do not need it either. -/
def closeToUnprivileged : Step σ Unit := do
  match ← ask (b.platform.writeSwitch (.ofString unprivilegedBpfDisabled) "0\n") with
  | .ok () => pure ()
  | .error e =>
      if b.settings.unprivilegedThreshold ≤ b.caps.kernel then throw (.sysctl e)
      note (warning ("Ignoring unprivileged_bpf_disabled failure on " ++ b.caps.kernel.display))

def setSwitch (path value : String) : Step σ Unit :=
  attempt .sysctl (b.platform.writeSwitch (.ofString path) value)

def configureSwitches : Step σ Unit := do
  if b.caps.isAtLeastV then closeToUnprivileged b
  if b.caps.isAtLeastU then
    setSwitch b bpfJitEnable "1\n"
    setSwitch b bpfJitKallsyms "1\n"

/-- The pin directories: those of the locations, then the loader's own. -/
def pinSubdirs : List String :=
  b.locations.map Location.pinSubdir ++ [loaderPinSubdir]

def makePinDirs : Step σ Unit :=
  (pinSubdirs b).forM fun subdir => attempt .pinDir (b.platform.makePinDir subdir)

/-! ## Loading -/

def criticalFailureLines (dir : String) : List String :=
  ["=== CRITICAL FAILURE LOADING BPF PROGRAMS FROM " ++ dir ++ " ===",
   "If this triggers reliably, you're probably missing kernel options or patches.",
   "If this triggers randomly, you might be hitting some memory allocation problems or startup "
     ++ "script race.",
   "--- DO NOT EXPECT SYSTEM TO BOOT SUCCESSFULLY ---"]

/-- Loads a location. A critical failure is reported loudly, and the report is left on the screen for a
while. -/
def loadLocation (version : LoaderVersion) (location : Location) : Step σ Unit := do
  match ← ExceptT.lift (Object.Directory.load b.platform.list b.loader version location) with
  | .ok () => pure ()
  | .error source =>
      (criticalFailureLines location.dir).forM fun line => note (failure line)
      ask (b.platform.sleep b.settings.criticalFailureDelay)
      throw (.criticalLoad location.dir source)

def loadLocations (version : LoaderVersion) : Step σ Unit :=
  b.locations.forM (loadLocation b version)

def complete : Step σ Completion := do
  if b.caps.isAtLeastV then
    note (notice "done, transferring control to platform bpfloader.")
    return .handOff b.settings.platformLoader
  else
    note (notice "mainline done!")
    return .finished

def sequence : Step σ Completion := do
  checkInitScripts b
  reportMounts b
  checkVersions b
  checkBitness b
  checkBuildType b
  configureSwitches b
  makePinDirs b
  let version := LoaderVersion.ofApiLevel b.caps.apiLevel
  note (notice ("BpfLoader version " ++ Text.decimal version.number))
  loadLocations b version
  attempt .selfTest b.platform.selfTest
  complete b

def run : σ → Outcome (Except LoaderError Completion) σ :=
  Logged.outcome (sequence b).run

end Bootstrap

/-- Marks all programs as loaded, once the platform's loader is done too. -/
def finalize (store : PropertyStore σ) : Logged σ (Except LoaderError Unit) := do
  match ← act (store.set programsLoadedProperty "1") with
  | .ok () =>
      report (Bootstrap.notice "success.")
      return .ok ()
  | .error source => return .error (.property programsLoadedProperty "1" source)

end BpfBoot
