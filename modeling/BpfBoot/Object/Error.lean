import BpfBoot.Elf.Error
import BpfBoot.Errno
import BpfBoot.File.Path
import BpfBoot.Object.TypeInformation
import BpfBoot.Text.Quoted

/-!
# Failures to load an object

What can go wrong between the bytes of an object file and its pinned programs. Each failure has a
wording and, behind it, the wordings of the failures that caused it, nearest first.
-/

namespace BpfBoot.Object

/-- Why an ELF object is not a BPF object. -/
inductive ImageError where
  | unnamedSymbol
  | badTypes (source : TypeError)
  | relocationWithoutSymbol
  | unterminatedLicense (data : Bytes)
  | badLicense (data : Bytes)
  | badKernelVersion (data : Bytes)
  | badSection (index : Nat) (source : String)
  | unknownProgramSection (name : String)
  | badProgramCode
  | badMapDefinition (name : String)
  | sharedAddress (sectionIndex address : Nat)
  | unknownSymbol (sectionIndex address : Nat)
  | emptySymbol (index : Nat) (name : String)
  | symbolNotFound (name : String)
  | noSymbols (sectionName : String)
  | noTypeInformation
  deriving DecidableEq, Repr

namespace ImageError

def message : ImageError → String
  | .unnamedSymbol | .badTypes _ => "BTF error"
  | .unterminatedLicense data =>
      "invalid license `" ++ Text.bracketed (data.map UInt8.toNat) ++ "`: missing NULL terminator"
  | .badLicense data => "invalid license `" ++ Text.bracketed (data.map UInt8.toNat) ++ "`"
  | .badKernelVersion data =>
      "invalid kernel version `" ++ Text.bracketed (data.map UInt8.toNat) ++ "`"
  | .badSection index _ => "error parsing section with index " ++ Text.decimal index
  | .relocationWithoutSymbol => "unsupported relocation target"
  | .unknownProgramSection name => "invalid program section `" ++ name ++ "`"
  | .badProgramCode => "invalid program code"
  | .badMapDefinition name => "error parsing map `" ++ name ++ "`"
  | .sharedAddress sectionIndex address =>
      "two or more symbols in section `" ++ Text.decimal sectionIndex
        ++ "` have the same address 0x" ++ (Text.hex address 1).toUpper
  | .unknownSymbol sectionIndex address =>
      "unknown symbol in section `" ++ Text.decimal sectionIndex ++ "` at address 0x"
        ++ (Text.hex address 1).toUpper
  | .emptySymbol index name =>
      "invalid symbol, index `" ++ Text.decimal index ++ "` name: " ++ name
  | .symbolNotFound name => "symbol with name " ++ name ++ " not found in the symbols table"
  | .noSymbols sectionName => "no symbols found in the " ++ sectionName ++ " section"
  | .noTypeInformation => "no BTF parsed for object"

def causes : ImageError → List String
  | .unnamedSymbol => ["Unable to get symbol name"]
  | .badTypes source => [source.message]
  | .badSection _ source => [source]
  | _ => []

end ImageError

/-- Why a function could not be linked. -/
inductive LinkError where
  | badPlace (offset number : Nat)
  | unknownSymbol (index : Nat)
  | sectionNotFound (sectionIndex symbolIndex : Nat) (symbolName : String)
  | unknownFunction (address : Nat) (caller : String)
  deriving DecidableEq, Repr

def LinkError.message : LinkError → String
  | .badPlace offset number =>
      "invalid offset `" ++ Text.decimal offset ++ "` applying relocation #" ++ Text.decimal number
  | .unknownSymbol index => "unknown symbol, index `" ++ Text.decimal index ++ "`"
  | .sectionNotFound sectionIndex symbolIndex symbolName =>
      "section `" ++ Text.decimal sectionIndex ++ "` not found, referenced by symbol `" ++ symbolName
        ++ "` #" ++ Text.decimal symbolIndex
  | .unknownFunction address caller =>
      "function 0x" ++ Text.hex address 1 ++ " not found while relocating `" ++ caller ++ "`"

/-- A function that could not be linked, and why. -/
structure LinkFailure where
  function : String
  cause : LinkError
  deriving DecidableEq, Repr

namespace LinkFailure

def message (_ : LinkFailure) : String := "error relocating function"

def causes (f : LinkFailure) : List String :=
  ["error relocating `" ++ f.function ++ "`", f.cause.message]

end LinkFailure

/-- Why something could not be pinned. -/
inductive PinFailure where
  | refused (errno : Errno)
  /-- The path holds a NUL byte at the given position. -/
  | badPath (path : Path) (position : Nat)
  deriving DecidableEq, Repr

namespace PinFailure

def message : PinFailure → String
  | .refused _ => "`BPF_OBJ_PIN` failed"
  | .badPath path _ => "invalid pin path `" ++ path.display ++ "`"

def causes : PinFailure → List String
  | .refused errno => [(IoError.os errno).message]
  | .badPath _ position =>
      ["nul byte found in provided data at position: " ++ Text.decimal position]

end PinFailure

/-- Why a map of an object could not be made. -/
inductive MapFailure where
  | unknownType (mapType : Nat)
  | refused (name : String) (errno : Errno)
  | unpinned (name : String) (source : PinFailure)
  | notFilled (errno : Errno)
  deriving DecidableEq, Repr

namespace MapFailure

/-- The name of a map as it stands in messages. -/
def shownName (name : String) : String :=
  "`Some(" ++ Text.quoted name ++ ")`"

def message : MapFailure → String
  | .unknownType mapType => "invalid map type " ++ Text.decimal mapType
  | .refused name _ => "failed to create map " ++ shownName name ++ " with code -1"
  | .unpinned name _ => "map " ++ shownName name ++ " requested pinning. pinning failed"
  | .notFilled _ => "`bpf_map_update_elem` failed"

def causes : MapFailure → List String
  | .unknownType _ => []
  | .refused _ errno => [(IoError.os errno).message]
  | .unpinned _ source => source.message :: source.causes
  | .notFilled errno => [(IoError.os errno).message]

end MapFailure

/-- Why an object file could not be loaded. -/
inductive ObjectError where
  | io (path : Path) (source : IoError)
  | elf (source : Elf.ElfError)
  | image (source : ImageError)
  | map (source : MapFailure)
  | unlinked (source : LinkFailure)
  | programRefused (name : String) (errno : Errno)
  | unsupportedProgram (name : String)
  | unpinned (path : Path) (source : PinFailure)
  | unusable (path : Path)
  deriving DecidableEq, Repr

namespace ObjectError

/-- What the kernel's refusal of a program is called; it gives no reasons. -/
def refusalText : String :=
  "the BPF_PROG_LOAD syscall failed. Verifier output: "

def message : ObjectError → String
  | .io path source => "cannot read " ++ path.display ++ ": " ++ source.message
  | .elf source => "invalid ELF object: " ++ source.message
  | .image source => "error parsing BPF object: " ++ source.message
  | .map source => "map error: " ++ source.message
  | .unlinked source => source.message
  | .programRefused name _ => "program " ++ name ++ ": " ++ refusalText
  | .unsupportedProgram name => "program " ++ name ++ ": unsupported program type"
  | .unpinned path source => "pin " ++ path.display ++ ": " ++ source.message
  | .unusable path => "pinned program " ++ path.display ++ " is not usable"

def causes : ObjectError → List String
  | .io _ source => [source.message]
  | .elf source => [source.message]
  | .image source => source.message :: source.causes
  | .map source => source.message :: source.causes
  | .unlinked source => source.causes
  | .programRefused _ errno => [refusalText, (IoError.os errno).message]
  | .unsupportedProgram _ | .unusable _ => []
  | .unpinned _ source => source.message :: source.causes

end ObjectError

end BpfBoot.Object
