import BpfBoot.Bpf.Kernel
import BpfBoot.File.System
import BpfBoot.Text.Utf8

/-!
# A model of the kernel

The model grants every request, unless a rule refuses it. It keeps pins as empty files in the tree of
files, and no maps: a lookup always finds the value that the self test writes.
-/

namespace BpfBoot.Bpf

/-- The requests that a model kernel refuses, and how. -/
structure KernelRules where
  mapCreate : Option Errno
  programLoad : Option Errno
  /-- Refusals to pin an object, by the last name of the path. -/
  objectPin : List (String × Errno)
  /-- Refusals to open a pinned object, by the last name of the path. -/
  objectGet : List (String × Errno)
  /-- The refusal of all requests about elements. -/
  element : Option Errno
  memoryLimit : Option Errno
  /-- Whether lookups succeed without writing a value. -/
  staleLookups : Bool
  deriving DecidableEq, Repr

namespace KernelRules

def lenient : KernelRules :=
  ⟨none, none, [], [], none, none, false⟩

/-- The refusal in a table that applies to a path. -/
def forPath (table : List (String × Errno)) (p : Path) : Option Errno :=
  p.names.getLast?.bind fun name => table.lookup (Text.Utf8.decodeLossy name)

end KernelRules

def modelValue : Bytes := Bytes.ofNatLE 4 123

def pinMode : Nat := 0o600

/-- Makes an empty file that must not exist. -/
def makePin (p : Path) (fs : Files) : Except Errno Files := do
  match ← fs.tree.resolve fs.cwd p false with
  | .present _ _ => throw .eexist
  | .absent dir name =>
      if p.endsWithSlash then throw .eisdir
      return { fs with
        tree := fs.tree.insert (dir ++ [name]) (.file (Files.maskMode pinMode fs.umask) []) }

/-- The descriptor that the model gives out: the first after the three that every program starts with. -/
def modelDescriptor : Descriptor := ⟨3⟩

/-- A success that writes `output` to the result buffer. -/
def Completion.writing (output : Bytes) : Completion :=
  ⟨modelDescriptor, output, ⟨0, 0⟩, 0⟩

/-- Succeeds unless there is a refusal. -/
def grant (refusal : Option Errno) (output : Bytes) (fs : Files) :
    Except Errno Completion × Files :=
  match refusal with
  | some errno => (.error errno, fs)
  | none => (.ok (.writing output), fs)

def modelKernel (rules : KernelRules) : Kernel Files where
  answer call fs :=
    match call with
    | .mapCreate _ => grant rules.mapCreate [] fs
    | .programLoad _ => grant rules.programLoad [] fs
    | .objectPin p =>
        match KernelRules.forPath rules.objectPin p with
        | some errno => (.error errno, fs)
        | none =>
            match makePin p fs with
            | .ok fs => (.ok (.writing []), fs)
            | .error errno => (.error errno, fs)
    | .objectGet p _ =>
        match KernelRules.forPath rules.objectGet p with
        | some errno => (.error errno, fs)
        | none =>
            match fs.stat p with
            | .ok _ => (.ok (.writing []), fs)
            | .error errno => (.error errno, fs)
    | .lookup .. => grant rules.element (if rules.staleLookups then [] else modelValue) fs
    | .update .. | .delete .. | .nextKey .. => grant rules.element [] fs
    | .liftMemoryLimit => grant rules.memoryLimit [] fs
    | .mapInfo .. | .lock .. | .openSocket .. | .closeSocket _ => grant none [] fs

end BpfBoot.Bpf
