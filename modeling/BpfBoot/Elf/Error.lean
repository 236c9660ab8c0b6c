/-!
# Refused ELF files

Each way in which a file can fail to be an ELF object, in the order in which the reader looks for it.
-/

namespace BpfBoot.Elf

/-- Why a byte string is not an ELF object. -/
inductive ElfError where
  | noMagic
  | unknownMagic
  | badHeader
  | unsupportedHeader
  | badProgramEntrySize
  | badProgramHeaders
  | noSectionsForProgramCount
  | badSectionEntrySize
  | badFirstSection
  | badSectionHeaders
  | noSectionsForNameIndex
  | noNameIndex
  | badNameIndex
  | badNameTableSize
  | badSymbolData
  | badSectionIndex
  | notStringTable
  | badStringTable
  | badExtendedIndexData
  | badRelocationTarget
  | unsupportedRelocationTarget
  | badSectionData
  deriving DecidableEq, Repr

def ElfError.message : ElfError → String
  | .noMagic => "Could not read file magic"
  | .unknownMagic => "Unknown file magic"
  | .badHeader => "Invalid ELF header size or alignment"
  | .unsupportedHeader => "Unsupported ELF header"
  | .badProgramEntrySize => "Invalid ELF program header entry size"
  | .badProgramHeaders => "Invalid ELF program header size or alignment"
  | .noSectionsForProgramCount => "Missing ELF section headers for e_phnum overflow"
  | .badSectionEntrySize => "Invalid ELF section header entry size"
  | .badFirstSection => "Invalid ELF section header offset or size"
  | .badSectionHeaders => "Invalid ELF section header offset/size/alignment"
  | .noSectionsForNameIndex => "Missing ELF section headers for e_shstrndx overflow"
  | .noNameIndex => "Missing ELF e_shstrndx"
  | .badNameIndex => "Invalid ELF e_shstrndx"
  | .badNameTableSize => "Invalid ELF shstrtab size"
  | .badSymbolData => "Invalid ELF symbol table data"
  | .badSectionIndex => "Invalid ELF section index"
  | .notStringTable => "Invalid ELF string section type"
  | .badStringTable => "Invalid ELF string section offset or size"
  | .badExtendedIndexData => "Invalid ELF symtab_shndx data"
  | .badRelocationTarget => "Invalid ELF sh_info for relocation section"
  | .unsupportedRelocationTarget => "Unsupported ELF sh_info for relocation section"
  | .badSectionData => "Invalid ELF section size or offset"

end BpfBoot.Elf
