import BpfBoot.Elf.File

/-!
# Relocations

A relocation names a place in a section that depends on where a symbol ends up. The relocations of a
section stand in other sections, which say what section they apply to and what symbol table they mean.
-/

namespace BpfBoot.Elf

/-- A place that depends on a symbol. -/
structure Relocation where
  offset : Nat
  /-- The index of the symbol; zero if there is none. -/
  symbolIndex : Nat
  type : Nat
  deriving DecidableEq, Repr

namespace Format

/-- The number of bytes of a relocation, which may carry an addend. -/
def relocationSize (f : Format) (addend : Bool) : Nat :=
  if addend then 3 * f.wordSize else 2 * f.wordSize

/-- The bound on relocation types, which share a word with the index of the symbol. -/
def relocationTypeBound (f : Format) : Nat :=
  if f.is64 then 0x100000000 else 0x100

end Format

/-- Reads a relocation; its addend is of no use to the loader. -/
def Relocation.read (f : Format) (bytes : Bytes) : Relocation :=
  match f.fields [f.wordSize, f.wordSize] bytes with
  | [offset, info] => ⟨offset, info / f.relocationTypeBound, info % f.relocationTypeBound⟩
  | _ => ⟨0, 0, 0⟩

namespace File

/-- The relocations in a section; there are none in a section that cannot be read. -/
def relocationsIn (file : File) (h : SectionHeader) : List Relocation :=
  let size := file.format.relocationSize (h.type == relocationAddendType)
  match wholeRecords? file.bytes file.format.wordSize size h with
  | some records => records.map (Relocation.read file.format)
  | none => []

/-- The relocations that apply to a section, by symbols of the file's symbol table. -/
def relocations (file : File) (s : Section) : List Relocation :=
  let holders := file.sections.filter fun holder =>
    isRelocation holder.header && holder.header.link == file.symbolTable
      && holder.header.info == s.index
  holders.flatMap fun holder => file.relocationsIn holder.header

end File

end BpfBoot.Elf
