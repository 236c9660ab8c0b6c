import BpfBoot.Bpf.Error
import BpfBoot.Bpf.Kernel
import BpfBoot.Kernel.Version

/-!
# BPF maps

A map is a descriptor with the sizes of its keys and values. The kernel copies exactly that many bytes
from and to the buffers it is given, so every buffer is measured before the kernel is asked.
-/

namespace BpfBoot.Bpf

/-- Operations on a kernel with states in `κ` that can fail. -/
abbrev Operation (κ : Type) := ExceptT BpfError (StateM κ)

def arrayMapType : Nat := 2

def anyFlag : Nat := 0

/-- The flag that opens an object for reading only. -/
def readOnlyFlag : Nat := 8

/-- The flag that opens an object for writing only. -/
def writeOnlyFlag : Nat := 16

/-- The lock operation: exclusive, and without waiting. -/
def exclusiveLock : Nat := 6

/-- The length of the description of a map that the kernel is asked for. -/
def requestedInfoLength : Nat := 24

/-- The length of a description that holds both sizes. -/
def neededInfoLength : Nat := 16

/-- The commands by the names they have in messages. -/
def SystemCall.command : SystemCall → String
  | .mapCreate _ => "BPF_MAP_CREATE"
  | .programLoad _ => "BPF_PROG_LOAD"
  | .objectPin _ => "BPF_OBJ_PIN"
  | .objectGet .. => "BPF_OBJ_GET"
  | .update .. => "BPF_MAP_UPDATE_ELEM"
  | .lookup .. => "BPF_MAP_LOOKUP_ELEM"
  | .delete .. => "BPF_MAP_DELETE_ELEM"
  | .nextKey .. => "BPF_MAP_GET_NEXT_KEY"
  | .mapInfo .. => "BPF_OBJ_GET_INFO_BY_FD"
  | .lock .. => "flock(LOCK_EX | LOCK_NB)"
  | .openSocket .. => "socket(AF_KEY, SOCK_RAW | SOCK_CLOEXEC, PF_KEY_V2)"
  | .closeSocket _ => "close(AF_KEY socket)"
  | .liftMemoryLimit => "setrlimit"

variable {κ : Type}

def request (k : Kernel κ) (call : SystemCall) : Operation κ Completion := fun state =>
  match k.answer call state with
  | (.ok completion, next) => (.ok completion, next)
  | (.error errno, next) => (.error (.command call.command errno), next)

/-- Makes a system call other than `bpf`. -/
def requestSystem (k : Kernel κ) (call : SystemCall) : Operation κ Completion := fun state =>
  match k.answer call state with
  | (.ok completion, next) => (.ok completion, next)
  | (.error errno, next) => (.error (.system call.command errno), next)

/-- Makes a `bpf` call on an element; that there is no such element is not a failure. -/
def requestElement (k : Kernel κ) (call : SystemCall) : Operation κ (Option Completion) :=
  fun state =>
    match k.answer call state with
    | (.ok completion, next) => (.ok (some completion), next)
    | (.error errno, next) =>
        if errno = .enoent then (.ok none, next)
        else (.error (.command call.command errno), next)

def openPinned (k : Kernel κ) (path : Path) (fileFlags : Nat) : Operation κ Descriptor := do
  if path.hasNul then throw (.path path.display)
  return (← request k (.objectGet path fileFlags)).descriptor

inductive MapAccess where
  | readWrite
  | readOnly
  | writeOnly
  /-- For reading and writing, with an exclusive lock on the descriptor. -/
  | exclusiveReadWrite
  deriving DecidableEq, Repr

namespace MapAccess

/-- The access that a number stands for: nothing, one of the two flags, or both for exclusive
access. -/
def ofMode (mode : Nat) : Except BpfError MapAccess :=
  if mode = 0 then .ok .readWrite
  else if mode = readOnlyFlag then .ok .readOnly
  else if mode = writeOnlyFlag then .ok .writeOnly
  else if mode = readOnlyFlag + writeOnlyFlag then .ok .exclusiveReadWrite
  else .error (.accessMode mode)

/-- The flags that the kernel gets. -/
def fileFlags : MapAccess → Nat
  | .readWrite | .exclusiveReadWrite => 0
  | .readOnly => readOnlyFlag
  | .writeOnly => writeOnlyFlag

end MapAccess

structure BpfMap where
  descriptor : Descriptor
  keySize : Nat
  valueSize : Nat
  deriving DecidableEq, Repr

namespace BpfMap

def create (k : Kernel κ) (shape : MapShape) : Operation κ BpfMap := do
  let completion ← request k (.mapCreate shape)
  return ⟨completion.descriptor, shape.keySize, shape.valueSize⟩

/-- Compares the kernel's sizes with the expected ones, the key's first. -/
def checkSizes (info : MapInfo) (keySize valueSize : Nat) : Except BpfError Unit :=
  if info.keySize ≠ keySize then .error (.sizeMismatch "key" info.keySize keySize)
  else if info.valueSize ≠ valueSize then .error (.sizeMismatch "value" info.valueSize valueSize)
  else .ok ()

/-- The kernel's description of an open map. -/
def describe (k : Kernel κ) (descriptor : Descriptor) : Operation κ MapInfo := do
  let completion ← request k (.mapInfo descriptor requestedInfoLength)
  if completion.infoLength < neededInfoLength then throw (.infoTooShort completion.infoLength)
  return completion.info

/-- Opens a pinned map. A kernel from 4.14 on tells the sizes of the map, which must be the expected
ones. -/
def openPin (k : Kernel κ) (path : Path) (access : MapAccess) (keySize valueSize : Nat)
    (kernel : KernelVersion) : Operation κ BpfMap := do
  let descriptor ← openPinned k path access.fileFlags
  if access = .exclusiveReadWrite then
    let _ ← requestSystem k (.lock descriptor exclusiveLock)
  if kernel.isAtLeast 4 14 0 then
    let info ← describe k descriptor
    ExceptT.mk (pure (checkSizes info keySize valueSize))
  return ⟨descriptor, keySize, valueSize⟩

def demandLength (what : String) (buffer : Bytes) (size : Nat) : Operation κ Unit :=
  if buffer.length = size then pure () else throw (.bufferSize what buffer.length size)

def write (k : Kernel κ) (m : BpfMap) (key value : Bytes) (flags : Nat) : Operation κ Unit := do
  demandLength "key" key m.keySize
  demandLength "value" value m.valueSize
  let _ ← request k (.update m.descriptor key value flags)

/-- Reads an element into a buffer. Gives back the buffer, and whether there is such an element. -/
def find (k : Kernel κ) (m : BpfMap) (key buffer : Bytes) : Operation κ (Bool × Bytes) := do
  demandLength "key" key m.keySize
  demandLength "value" buffer m.valueSize
  match ← requestElement k (.lookup m.descriptor key buffer 0) with
  | some completion => return (true, fill buffer completion.output)
  | none => return (false, buffer)

/-- Removes an element. Gives back whether there was one. -/
def delete (k : Kernel κ) (m : BpfMap) (key : Bytes) : Operation κ Bool := do
  demandLength "key" key m.keySize
  return (← requestElement k (.delete m.descriptor key 0)).isSome

/-- Puts the key that follows `key`, or the first key, into a buffer. Gives back the buffer, and
whether there is such a key. -/
def nextKey (k : Kernel κ) (m : BpfMap) (key : Option Bytes) (buffer : Bytes) :
    Operation κ (Bool × Bytes) := do
  match key with
  | some key => demandLength "key" key m.keySize
  | none => pure ()
  demandLength "key" buffer m.keySize
  match ← requestElement k (.nextKey m.descriptor key buffer 0) with
  | some completion => return (true, fill buffer completion.output)
  | none => return (false, buffer)

/-- Puts the first key into a buffer. Gives back the buffer, and whether the map has a key. -/
def firstKey (k : Kernel κ) (m : BpfMap) (buffer : Bytes) : Operation κ (Bool × Bytes) :=
  nextKey k m none buffer

end BpfMap

def selfTestKey : Bytes := Bytes.ofNatLE 4 1

def selfTestValue : Bytes := Bytes.ofNatLE 4 123

/-- Writes the second element of a fresh array of two and reads it back. This fails only if the
kernel's BPF machinery is broken. -/
def selfTest (k : Kernel κ) : Operation κ Unit := do
  let m ← BpfMap.create k ⟨arrayMapType, 4, 4, 2, 0⟩
  m.write k selfTestKey selfTestValue anyFlag
  let (found, buffer) ← m.find k selfTestKey [0, 0, 0, 0]
  if !found || buffer ≠ selfTestValue then
    throw (.readback (buffer.map UInt8.toNat) (selfTestValue.map UInt8.toNat))

/-- Whether a pinned program can be opened for reading. -/
def isUsableProgram (k : Kernel κ) (path : Path) : κ → Bool × κ := fun state =>
  match openPinned k path readOnlyFlag state with
  | (.ok _, next) => (true, next)
  | (.error _, next) => (false, next)

/-- Waits until no processor runs an old program: closing a key management socket makes the kernel
wait that long. -/
def awaitGracePeriod (k : Kernel κ) : Operation κ Unit := do
  let completion ← requestSystem k (.openSocket 15 524291 2)
  let _ ← requestSystem k (.closeSocket completion.descriptor)

end BpfBoot.Bpf
