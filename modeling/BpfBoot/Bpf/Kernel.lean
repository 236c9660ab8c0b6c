import BpfBoot.Bytes
import BpfBoot.Errno
import BpfBoot.File.Path

/-!
# What the loader asks of the kernel

The system calls are values, and a kernel is a function that answers them and moves to a new state.
Everything that talks to the kernel takes it as an argument, so it can be run against a script of
answers, against a model, or against a kernel that remembers the calls that were made.
-/

namespace BpfBoot.Bpf

structure Descriptor where
  index : Nat
  deriving DecidableEq, Repr

/-- The properties that a map is made with. -/
structure MapShape where
  mapType : Nat
  keySize : Nat
  valueSize : Nat
  maxEntries : Nat
  flags : Nat
  deriving DecidableEq, Repr

/-- A program as it is given to the kernel. -/
structure ProgramImage where
  programType : Nat
  instructions : Bytes
  license : Bytes
  flags : Nat
  attachType : Nat
  deriving DecidableEq, Repr

inductive SystemCall where
  | mapCreate (shape : MapShape)
  | programLoad (image : ProgramImage)
  | objectPin (path : Path)
  | objectGet (path : Path) (fileFlags : Nat)
  | update (map : Descriptor) (key value : Bytes) (flags : Nat)
  | lookup (map : Descriptor) (key buffer : Bytes) (flags : Nat)
  | delete (map : Descriptor) (key : Bytes) (flags : Nat)
  /-- Asks for the key after `key`, or for the first key. -/
  | nextKey (map : Descriptor) (key : Option Bytes) (buffer : Bytes) (flags : Nat)
  | mapInfo (map : Descriptor) (length : Nat)
  | lock (descriptor : Descriptor) (operation : Nat)
  | openSocket (domain type protocol : Nat)
  | closeSocket (descriptor : Descriptor)
  | liftMemoryLimit
  deriving DecidableEq, Repr

/-- The kernel's description of a map, as far as its sizes go. -/
structure MapInfo where
  keySize : Nat
  valueSize : Nat
  deriving DecidableEq, Repr

/-- What comes back from a call that succeeds. -/
structure Completion where
  /-- The descriptor that the call made, where it makes one. -/
  descriptor : Descriptor
  /-- What the kernel wrote over the start of the result buffer. -/
  output : Bytes
  /-- The description of a map and its length, where it was asked for. -/
  info : MapInfo
  infoLength : Nat
  deriving DecidableEq, Repr

/-- A kernel whose states are the values of `κ`. -/
structure Kernel (κ : Type) where
  answer : SystemCall → κ → Except Errno Completion × κ

/-- A kernel that also keeps the calls that were made, latest first. -/
def Kernel.recording {κ : Type} (k : Kernel κ) : Kernel (κ × List SystemCall) where
  answer call state :=
    let (reply, next) := k.answer call state.1
    (reply, next, call :: state.2)

/-- A result buffer after the kernel wrote over its start, as far as that fits. -/
def fill (buffer output : Bytes) : Bytes :=
  output.take buffer.length ++ buffer.drop output.length

end BpfBoot.Bpf
