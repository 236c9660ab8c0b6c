import BpfBoot.Elf.Header

/-!
# ELF files

The reader checks the headers, the section table, the table of section names, both symbol tables and
the targets of relocation sections before it accepts a file. The contents of the other sections are
not looked at: a section whose data lie outside the file is found when somebody asks for them.
-/

namespace BpfBoot.Elf

/-- A region of the file that holds texts ended by NUL bytes; there may be none. -/
structure StringTable where
  range? : Option (Nat × Nat)
  deriving DecidableEq, Repr

namespace StringTable

/-- The text at an offset, if the region lies in the file and the text ends in it. -/
def get? (table : StringTable) (bytes : Bytes) (offset : Nat) : Option Bytes :=
  match table.range? with
  | none => none
  | some (first, past) =>
      if first + offset ≤ past && past ≤ bytes.length then
        let rest := (bytes.drop (first + offset)).take (past - (first + offset))
        if rest.contains 0 then some (Bytes.upToNul rest) else none
      else none

end StringTable

/-- A section of a file, other than the empty one at the start of the section table. -/
structure Section where
  index : Nat
  header : SectionHeader
  /-- The name, if the table of names has one for the section. -/
  name? : Option Bytes
  deriving DecidableEq, Repr

/-- A symbol with its name, if the table of names has one for the symbol. -/
structure NamedSymbol where
  index : Nat
  symbol : Symbol
  name? : Option Bytes
  /-- The index of the section that the symbol lies in, an extended index resolved. -/
  sectionIndex : Nat
  deriving DecidableEq, Repr

/-- An accepted file. -/
structure File where
  bytes : Bytes
  format : Format
  sections : List Section
  /-- The index of the symbol table, which is zero if there is none. -/
  symbolTable : Nat
  symbols : List NamedSymbol
  deriving DecidableEq, Repr

def magic : Bytes := [0x7f, 0x45, 0x4c, 0x46]

/-- Fails with the given error if there is no value. -/
def orThrow {α : Type} (e : ElfError) : Option α → Except ElfError α
  | some a => .ok a
  | none => .error e

def readHeader (bytes : Bytes) : Except ElfError (Format × FileHeader) := do
  if bytes.length < 16 then throw .noMagic
  let kind := bytes.getD 4 0
  if bytes.take 4 != magic || !(kind == 1 || kind == 2) then throw .unknownMagic
  let order := bytes.getD 5 0
  let format : Format := ⟨kind == 2, order == 2⟩
  if bytes.length < format.fileHeaderSize then throw .badHeader
  if !(order == 1 || order == 2) || bytes.getD 6 0 != 1 then throw .unsupportedHeader
  return (format, FileHeader.read format bytes)

/-- The first section header, which holds the counts that are too large for the file header. -/
def firstSection? (bytes : Bytes) (f : Format) (h : FileHeader) :
    Except ElfError (Option SectionHeader) := do
  if h.sectionOffset = 0 then return none
  if h.sectionEntrySize ≠ f.sectionHeaderSize then throw .badSectionEntrySize
  match ← orThrow .badFirstSection
      (records? bytes f.wordSize h.sectionOffset f.sectionHeaderSize 1) with
  | record :: _ => return some (SectionHeader.read f record)
  | [] => return none

def checkProgramHeaders (bytes : Bytes) (f : Format) (h : FileHeader) : Except ElfError Unit := do
  if h.programOffset = 0 then return
  let count ←
    if h.programCount < manyProgramHeaders then pure h.programCount
    else do
      let first ← orThrow .noSectionsForProgramCount (← firstSection? bytes f h)
      pure first.info
  if count = 0 then return
  if h.programEntrySize ≠ f.programHeaderSize then throw .badProgramEntrySize
  let _ ← orThrow .badProgramHeaders
    (records? bytes f.wordSize h.programOffset f.programHeaderSize count)

/-- The section headers, the empty one at the start included. -/
def readSectionHeaders (bytes : Bytes) (f : Format) (h : FileHeader) :
    Except ElfError (List SectionHeader) := do
  if h.sectionOffset = 0 then return []
  let count ←
    if h.sectionCount > 0 then pure h.sectionCount
    else do
      match ← firstSection? bytes f h with
      | some first => pure first.size
      | none => pure 0
  if count = 0 then return []
  if h.sectionEntrySize ≠ f.sectionHeaderSize then throw .badSectionEntrySize
  let records ← orThrow .badSectionHeaders
    (records? bytes f.wordSize h.sectionOffset f.sectionHeaderSize count)
  return records.map (SectionHeader.read f)

/-- The region of a section that has bytes in the file. -/
def fileRange (h : SectionHeader) : Option (Nat × Nat) :=
  if h.type = noBitsType then none else some (h.offset, h.offset + h.size)

def readNameTable (bytes : Bytes) (f : Format) (h : FileHeader) (headers : List SectionHeader) :
    Except ElfError StringTable := do
  if headers.isEmpty then return ⟨none⟩
  let index ←
    if h.nameIndex ≠ extendedIndex then pure h.nameIndex
    else do
      let first ← orThrow .noSectionsForNameIndex (← firstSection? bytes f h)
      pure first.link
  if index = 0 then throw .noNameIndex
  let header ← orThrow .badNameIndex headers[index]?
  match fileRange header with
  | none => return ⟨none⟩
  | some (first, past) =>
      if offsetBound ≤ past then throw .badNameTableSize
      return ⟨some (first, past)⟩

/-- The section headers after the first, with their indices. -/
def indexed (headers : List SectionHeader) : List (Nat × SectionHeader) :=
  (headers.zipIdx.drop 1).map fun (header, index) => (index, header)

def sectionBytes (bytes : Bytes) (h : SectionHeader) : Except ElfError Bytes :=
  if h.type = noBitsType then .ok []
  else orThrow .badSectionData (bytes.slice? h.offset h.size)

/-- The records of `size` bytes each that a section consists of, if nothing is left over. -/
def wholeRecords? (bytes : Bytes) (alignment size : Nat) (h : SectionHeader) :
    Option (List Bytes) :=
  if h.size % size = 0 then records? bytes alignment h.offset size (h.size / size) else none

/-- The table of texts in the section with the given index. -/
def linkedStrings (headers : List SectionHeader) (index : Nat) : Except ElfError StringTable := do
  if index = 0 then throw .badSectionIndex
  let header ← orThrow .badSectionIndex headers[index]?
  if header.type ≠ stringTableType then throw .notStringTable
  if offsetBound ≤ header.offset + header.size then throw .badStringTable
  return ⟨some (header.offset, header.offset + header.size)⟩

/-- The numbers in the table of extended section indices that belongs to a symbol table. -/
def readExtendedIndices (bytes : Bytes) (f : Format) (headers : List SectionHeader)
    (symbolTable : Nat) : Except ElfError (List Nat) :=
  (indexed headers).foldlM (fun found (_, header) =>
    if header.type = extendedIndexType ∧ header.link = symbolTable then do
      let records ← orThrow .badExtendedIndexData (wholeRecords? bytes 4 4 header)
      return records.map f.number
    else return found) []

/-- The symbols of the first section of the given type, and the index of that section. -/
def readSymbols (bytes : Bytes) (f : Format) (headers : List SectionHeader) (type : Nat) :
    Except ElfError (Nat × List NamedSymbol) := do
  match (indexed headers).find? (·.2.type == type) with
  | none => return (0, [])
  | some (index, header) =>
      let records ← orThrow .badSymbolData (wholeRecords? bytes f.wordSize f.symbolSize header)
      let names ← if header.link = 0 then pure ⟨none⟩ else linkedStrings headers header.link
      let extended ← readExtendedIndices bytes f headers index
      return (index, records.zipIdx.map fun (record, i) =>
        let symbol := Symbol.read f record
        { index := i
          symbol
          name? := names.get? bytes symbol.nameOffset
          sectionIndex :=
            if symbol.sectionIndex = extendedIndex then extended.getD i 0
            else symbol.sectionIndex })

def isRelocation (h : SectionHeader) : Bool :=
  h.type == relocationType || h.type == relocationAddendType

/-- Checks that the relocation sections of a symbol table apply to sections that exist and that hold no
relocations themselves. -/
def checkRelocations (headers : List SectionHeader) (symbolTable : Nat) : Except ElfError Unit :=
  (indexed headers).reverse.forM fun (_, header) =>
    if isRelocation header ∧ header.link = symbolTable ∧ header.info ≠ 0 then
      match headers[header.info]? with
      | none => throw .badRelocationTarget
      | some target =>
          if isRelocation target then throw .unsupportedRelocationTarget else return
    else return

namespace File

def parse (bytes : Bytes) : Except ElfError File := do
  let (format, header) ← readHeader bytes
  checkProgramHeaders bytes format header
  let headers ← readSectionHeaders bytes format header
  let names ← readNameTable bytes format header headers
  let (symbolTable, symbols) ← readSymbols bytes format headers symbolTableType
  let _ ← readSymbols bytes format headers dynamicSymbolsType
  checkRelocations headers symbolTable
  let sections := (indexed headers).map fun (index, h) =>
    ({ index, header := h, name? := names.get? bytes h.nameOffset } : Section)
  return { bytes, format, sections, symbolTable, symbols }

/-- The first section with the given name. -/
def sectionNamed? (file : File) (name : Bytes) : Option Section :=
  file.sections.find? (·.name? == some name)

def data (file : File) (s : Section) : Except ElfError Bytes :=
  sectionBytes file.bytes s.header

end File

end BpfBoot.Elf
