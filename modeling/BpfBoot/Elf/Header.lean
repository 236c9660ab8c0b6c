import BpfBoot.Bytes
import BpfBoot.Elf.Error

/-!
# ELF headers

The fixed-size records of an ELF file: the file header, section headers and symbols. A record is read
from a byte string of its own size by a list of field widths. Records that are read in place must
start at a multiple of the width of a word, so their alignment is part of their validity.
-/

namespace BpfBoot.Elf

structure Format where
  is64 : Bool
  bigEndian : Bool
  deriving DecidableEq, Repr

namespace Format

/-- The number of bytes of an address. -/
def wordSize (f : Format) : Nat :=
  if f.is64 then 8 else 4

/-- The number that some bytes write. -/
def number (f : Format) (bytes : Bytes) : Nat :=
  if f.bigEndian then Bytes.toNatBE bytes else Bytes.toNatLE bytes

/-- The numbers in consecutive fields of the given widths. -/
def fields (f : Format) : (widths : List Nat) → Bytes → List Nat
  | [], _ => []
  | width :: widths, bytes => f.number (bytes.take width) :: f.fields widths (bytes.drop width)

def fileHeaderSize (f : Format) : Nat :=
  if f.is64 then 64 else 52

def programHeaderSize (f : Format) : Nat :=
  if f.is64 then 56 else 32

def sectionHeaderSize (f : Format) : Nat :=
  if f.is64 then 64 else 40

def symbolSize (f : Format) : Nat :=
  if f.is64 then 24 else 16

end Format

/-- The parts of the file header that say where everything else is. -/
structure FileHeader where
  machineType : Nat
  programOffset : Nat
  sectionOffset : Nat
  programEntrySize : Nat
  programCount : Nat
  sectionEntrySize : Nat
  sectionCount : Nat
  nameIndex : Nat
  deriving DecidableEq, Repr

/-- The widths of the fields of the file header after its first sixteen bytes. -/
def fileHeaderWidths (f : Format) : List Nat :=
  [2, 2, 4, f.wordSize, f.wordSize, f.wordSize, 4, 2, 2, 2, 2, 2, 2]

def FileHeader.read (f : Format) (bytes : Bytes) : FileHeader :=
  match f.fields (fileHeaderWidths f) (bytes.drop 16) with
  | [_, machine, _, _, phoff, shoff, _, _, phentsize, phnum, shentsize, shnum, shstrndx] =>
      ⟨machine, phoff, shoff, phentsize, phnum, shentsize, shnum, shstrndx⟩
  | _ => ⟨0, 0, 0, 0, 0, 0, 0, 0⟩

structure SectionHeader where
  nameOffset : Nat
  type : Nat
  flags : Nat
  address : Nat
  offset : Nat
  size : Nat
  link : Nat
  info : Nat
  deriving DecidableEq, Repr

def SectionHeader.read (f : Format) (bytes : Bytes) : SectionHeader :=
  let w := f.wordSize
  match f.fields [4, 4, w, w, w, w, 4, 4] bytes with
  | [name, type, flags, address, offset, size, link, info] =>
      ⟨name, type, flags, address, offset, size, link, info⟩
  | _ => ⟨0, 0, 0, 0, 0, 0, 0, 0⟩

structure Symbol where
  nameOffset : Nat
  info : Nat
  sectionIndex : Nat
  value : Nat
  size : Nat
  deriving DecidableEq, Repr

def Symbol.read (f : Format) (bytes : Bytes) : Symbol :=
  if f.is64 then
    match f.fields [4, 1, 1, 2, 8, 8] bytes with
    | [name, info, _, sectionIndex, value, size] => ⟨name, info, sectionIndex, value, size⟩
    | _ => ⟨0, 0, 0, 0, 0⟩
  else
    match f.fields [4, 4, 4, 1, 1, 2] bytes with
    | [name, value, size, info, _, sectionIndex] => ⟨name, info, sectionIndex, value, size⟩
    | _ => ⟨0, 0, 0, 0, 0⟩

/-- The types of sections that the reader tells apart. -/
def symbolTableType : Nat := 2
def stringTableType : Nat := 3
def relocationAddendType : Nat := 4
def noBitsType : Nat := 8
def relocationType : Nat := 9
def dynamicSymbolsType : Nat := 11
def extendedIndexType : Nat := 18

/-- A count of program headers too large for its field. -/
def manyProgramHeaders : Nat := 0xffff

/-- A section index too large for its field. -/
def extendedIndex : Nat := 0xffff

def offsetBound : Nat := 0x10000000000000000

/-- The bytes of `count` records of `size` bytes each that start at `offset`, if all of them are in
the file and the first one is aligned. -/
def records? (bytes : Bytes) (alignment offset size count : Nat) : Option (List Bytes) :=
  if offset ≤ bytes.length && offset % alignment == 0 && size * count ≤ bytes.length - offset then
    some (split count (bytes.drop offset))
  else none
where
  split : Nat → Bytes → List Bytes
    | 0, _ => []
    | count + 1, rest => rest.take size :: split count (rest.drop size)

end BpfBoot.Elf
