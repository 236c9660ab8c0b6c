import BpfBoot.Bootstrap
import BpfBoot.Bpf.Map

/-!
# The boot sequence on a device

The platform whose files, switches and pin directories are a tree of files, and whose self test is run
by a kernel.
-/

namespace BpfBoot

/-- The files within a larger state. -/
structure FilesIn (σ : Type) where
  get : σ → Files
  set : Files → σ → σ

namespace DevicePlatform

open Log

/-- Whether a file exists; that nothing is there is an answer, any other obstacle is not. -/
def fileExists (path : Path) (fs : Files) : Except Errno Bool :=
  match fs.stat path with
  | .ok _ => .ok true
  | .error errno => if errno = .enoent then .ok false else .error errno

def readText (path : Path) (fs : Files) : Except IoError String := do
  match Text.Utf8.decode (← fs.read path) with
  | .ok s => return s
  | .error _ => throw (.other "stream did not contain valid UTF-8")

variable {σ : Type}

/-- A step on the files of a state. -/
def onFiles {α : Type} (files : FilesIn σ) (step : Files → α × List Event × Files) (world : σ) :
    Outcome α σ :=
  let (value, events, fs) := step (files.get world)
  ⟨value, events, files.set fs world⟩

/-- The platform of a device, with pin directories below `root`. `writes` says what the kernel does with
writes to its switches. -/
def make (files : FilesIn σ) (kernel : Bpf.Kernel σ) (writes : Sysctl.WriteOutcome) (root : Path) :
    Platform σ where
  fileExists path world := ⟨fileExists path (files.get world), [], world⟩
  writeSwitch path value := onFiles files (Sysctl.writeLogged writes path value)
  makePinDir subdir := onFiles files (PinDirs.ensure root subdir)
  selfTest world :=
    let (result, world) := Bpf.selfTest kernel world
    ⟨result, [], world⟩
  sleep _ world := ⟨(), [], world⟩
  list world := (files.get world).list
  mounts world := readText (.ofString mountTable) (files.get world)

end DevicePlatform

end BpfBoot
