import BpfBoot.Bytes

/-!
# Instructions

A program is a list of instructions of eight bytes each: an operation, two registers, an offset and an
immediate number with a sign. Calls are told apart by the source register: a call of a helper of the
kernel names it by its number, and a call within the program says how far away the callee is.
-/

namespace BpfBoot.Bpf

structure Instruction where
  operation : Nat
  destination : Nat
  source : Nat
  offset : Nat
  immediate : Int
  deriving DecidableEq, Repr

/-- The number of words of 32 bits. -/
def wordBound : Nat := 0x100000000

/-- The number with a sign that a word stands for. -/
def signed (word : Nat) : Int :=
  Int.bmod word wordBound

/-- The word that stands for a number with a sign. -/
def unsigned (n : Int) : Nat :=
  (n % wordBound).toNat

namespace Instruction

def size : Nat := 8

def ofBytes (bytes : Bytes) : Instruction :=
  let registers := Bytes.toNatLE ((bytes.drop 1).take 1)
  { operation := Bytes.toNatLE (bytes.take 1)
    destination := registers % 16
    source := registers / 16
    offset := Bytes.toNatLE ((bytes.drop 2).take 2)
    immediate := signed (Bytes.toNatLE ((bytes.drop 4).take 4)) }

def toBytes (i : Instruction) : Bytes :=
  Bytes.ofNatLE 1 i.operation ++ Bytes.ofNatLE 1 (i.destination + 16 * i.source)
    ++ Bytes.ofNatLE 2 i.offset ++ Bytes.ofNatLE 4 (unsigned i.immediate)

def callOperation : Nat := 0x85

/-- The source register of calls within the program, and of references to programs and to maps. -/
def programCall : Nat := 1
def mapReference : Nat := 1
def mapValueReference : Nat := 2
def programReference : Nat := 4

/-- Whether an instruction calls a function of the program. -/
def isCall (i : Instruction) : Bool :=
  i.operation == callOperation && i.source == programCall && i.destination == 0 && i.offset == 0

/-- Whether an instruction calls a helper of the kernel. -/
def isHelperCall (i : Instruction) : Bool :=
  i.operation == callOperation && i.source == 0 && i.destination == 0

/-- What kernels that cannot tell user memory from their own use to read memory and texts. -/
def olderHelpers : List (Int × Int) :=
  [(112, 4), (113, 4), (114, 45), (115, 45)]

/-- The instruction for a kernel that cannot tell user memory from its own. -/
def withOlderHelper (i : Instruction) : Instruction :=
  if i.isHelperCall then
    { i with immediate := (olderHelpers.lookup i.immediate).getD i.immediate }
  else i

end Instruction

abbrev Code := Array Instruction

namespace Code

/-- The pieces of a byte string, of the size of an instruction each. -/
def pieces : (count : Nat) → Bytes → List Bytes
  | 0, _ => []
  | count + 1, bytes => bytes.take Instruction.size :: pieces count (bytes.drop Instruction.size)

/-- Reads instructions, if there is a whole number of them. -/
def ofBytes? (bytes : Bytes) : Option Code :=
  if bytes.length % Instruction.size = 0 then
    some ((pieces (bytes.length / Instruction.size) bytes).map Instruction.ofBytes).toArray
  else none

def toBytes (code : Code) : Bytes :=
  code.toList.flatMap Instruction.toBytes

end Code

end BpfBoot.Bpf
