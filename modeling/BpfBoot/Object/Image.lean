import BpfBoot.Bpf.Instruction
import BpfBoot.Elf.Relocation
import BpfBoot.Object.Error
import BpfBoot.Object.MapDeclaration
import BpfBoot.Object.ProgramKind
import BpfBoot.Text.Utf8

/-!
# BPF objects

What an ELF object holds for the kernel: a license, maps and programs. A section's role is read off the
start of its name; a section with no such name that holds code is a section of programs, one for each
function symbol in it.
-/

namespace BpfBoot.Object

open Elf

/-- A symbol with its name as text. -/
abbrev TextSymbol := String × NamedSymbol

/-- A function: a program, or a subprogram that programs call. -/
structure Function where
  name : String
  sectionIndex : Nat
  address : Nat
  /-- How far into its section the function starts. -/
  sectionOffset : Nat
  code : Bpf.Code
  deriving DecidableEq

/-- A program that an object holds: what it is, and where its function is. -/
structure Program where
  name : String
  kind : ProgramKind
  sectionIndex : Nat
  address : Nat
  deriving DecidableEq, Repr

/-- A BPF object. -/
structure Image where
  license : Bytes
  maps : List MapDeclaration
  programs : List Program
  /-- All functions, by section and by address. -/
  functions : List Function
  /-- The relocations of the sections with code; no two of a section are at one place. -/
  relocations : List (Nat × List Relocation)
  symbols : List TextSymbol
  /-- What the object says about its maps that is not understood. -/
  remarks : List String
  deriving DecidableEq

/-- What a section is for. -/
inductive Role where
  | license
  | version
  | maps
  | typedMaps
  | subprograms
  | data (origin : MapOrigin)
  | programs
  | none
  deriving DecidableEq, Repr

/-- The starts of section names that fix the role of the section. -/
def roleNames : List (String × Role) :=
  [("license", .license), ("version", .version), ("maps", .maps), (".maps", .typedMaps),
   (".text", .subprograms), (".bss", .data .zeroData), (".data", .data .data),
   (".rodata", .data .readOnlyData)]

/-- The type of sections with contents. -/
def contentsType : Nat := 1

/-- The flags of sections with code that is loaded. -/
def codeFlags : Nat := 6

def holdsCode (h : SectionHeader) : Bool :=
  h.type == contentsType && h.flags &&& codeFlags == codeFlags && h.size > 0

def roleOf (name : String) (h : SectionHeader) : Role :=
  match roleNames.find? fun (start, _) => start.isPrefixOf name with
  | some (_, role) => role
  | Option.none => if holdsCode h then .programs else .none

/-- The license that is used when an object has none. -/
def defaultLicense : Bytes := Text.Utf8.encode "GPL"

/-- The license in the section for it: a text with one NUL byte, at its end. -/
def readLicense (data : Bytes) : Except ImageError Bytes :=
  if data.length < 2 then .error (.badLicense data)
  else if data.getLast? ≠ some 0 then .error (.unterminatedLicense data)
  else if data.dropLast.contains 0 then .error (.badLicense data)
  else .ok data.dropLast

/-- The first indices that stand for no section. -/
def reservedIndices : Nat := 0xff00

/-- The index of the section that a symbol lies in, if it lies in one. -/
def symbolSection? (s : NamedSymbol) : Option Nat :=
  if s.symbol.sectionIndex = 0 then Option.none
  else if s.symbol.sectionIndex ≠ extendedIndex ∧ reservedIndices ≤ s.symbol.sectionIndex then
    Option.none
  else some s.sectionIndex

/-- What a symbol stands for. -/
inductive SymbolKind where
  | function
  | section
  | other
  deriving DecidableEq, Repr

/-- What a symbol stands for. -/
def symbolKind (s : NamedSymbol) : SymbolKind :=
  match s.symbol.info % 16 with
  | 2 | 10 => .function
  | 3 => .section
  | _ => .other

def isFunction (s : NamedSymbol) : Bool :=
  symbolKind s == .function

/-- Whether a symbol names a function that is defined where the symbol is. -/
def isDefinedFunction (s : NamedSymbol) : Bool :=
  s.symbol.info % 16 == 2

/-- Gives each symbol its name, which it must have. -/
def nameSymbols (symbols : List NamedSymbol) : Except ImageError (List TextSymbol) :=
  symbols.mapM fun s =>
    match s.name?.map Text.Utf8.decode with
    | some (.ok name) => .ok (name, s)
    | _ => .error .unnamedSymbol

/-- The symbols that lie in the section with the given index. -/
def symbolsIn (symbols : List TextSymbol) (index : Nat) : List TextSymbol :=
  symbols.filter fun (_, s) => symbolSection? s == some index

/-- The part of the data at an address that belongs to a symbol. -/
def symbolData (address : Nat) (data : Bytes) (s : NamedSymbol) : Bytes :=
  (data.drop (s.symbol.value - address)).take s.symbol.size

/-- The instructions in a byte string. -/
def readCode (bytes : Bytes) : Except ImageError Bpf.Code :=
  match Bpf.Code.ofBytes? bytes with
  | some code => .ok code
  | none => .error .badProgramCode

/-! ## Sections -/

/-- A section with its contents. -/
structure OpenSection where
  index : Nat
  header : SectionHeader
  name : String
  data : Bytes
  relocations : List Relocation
  deriving DecidableEq, Repr

/-- Reads a section: its name, its data and its relocations, each of which needs a symbol. -/
def openSection (file : File) (s : Section) : Except ImageError OpenSection := do
  let some (.ok name) := s.name?.map Text.Utf8.decode
    | throw (.badSection s.index "Invalid ELF section name offset")
  match file.data s with
  | .error e => throw (.badSection s.index e.message)
  | .ok data =>
      let relocations := file.relocations s
      if relocations.any (·.symbolIndex == 0) then throw .relocationWithoutSymbol
      return ⟨s.index, s.header, name, data, relocations⟩

/-- Reads the first section with the given name, if there is one. -/
def openNamed? (file : File) (name : String) : Except ImageError (Option OpenSection) :=
  match file.sectionNamed? (Text.Utf8.encode name) with
  | some s => some <$> openSection file s
  | none => .ok none

/-- The last of the relocations at each place. -/
def lastAtEachPlace (relocations : List Relocation) : List Relocation :=
  relocations.foldl (fun kept r => kept.filter (·.offset != r.offset) ++ [r]) []

/-! ## Building an image -/

namespace Image

/-- Whether a function comes before another one. -/
def comesBefore (f g : Function) : Bool :=
  f.sectionIndex < g.sectionIndex || (f.sectionIndex == g.sectionIndex && f.address < g.address)

/-- Adds a function, in the place of one at the same address. -/
def addFunction (image : Image) (f : Function) : Image :=
  let before := image.functions.takeWhile (comesBefore · f)
  let after := image.functions.dropWhile fun g => !comesBefore f g
  { image with functions := before ++ f :: after }

/-- Adds a map, in the place of one of the same name. -/
def addMap (image : Image) (map : MapDeclaration) : Image :=
  { image with maps := image.maps.filter (·.name != map.name) ++ [map] }

def addProgram (image : Image) (program : Program) (f : Function) : Image :=
  let kept := image.programs.filter (·.name != program.name)
  { image with programs := kept ++ [program] }.addFunction f

/-- Adds the relocations of a section with code. -/
def addRelocations (image : Image) (s : OpenSection) : Image :=
  { image with relocations := image.relocations ++ [(s.index, lastAtEachPlace s.relocations)] }

/-- Adds the maps in a section with records of maps, one for each symbol. -/
def addRecordedMaps (image : Image) (s : OpenSection) : Except ImageError Image := do
  let here := symbolsIn image.symbols s.index
  if here.isEmpty then throw (.noSymbols s.name)
  here.foldlM (fun image (name, symbol) =>
    let data := symbolData s.header.address s.data symbol
    match MapDeclaration.ofRecord? name s.index symbol.index data with
    | some map => .ok (image.addMap map)
    | none => .error (.badMapDefinition name)) image

/-- Adds the maps that the type information gives for a section, each of which needs a symbol. -/
def addTypedMaps (image : Image) (types : Option TypeInformation) (s : OpenSection) :
    Except ImageError Image := do
  let some types := types | throw .noTypeInformation
  let here := symbolsIn image.symbols s.index
  if here.isEmpty then throw (.noSymbols s.name)
  (MapDeclaration.objectsIn types s.name).foldlM (fun image id => do
    let (name, traits) ← (MapDeclaration.traitsOf types id).mapError .badTypes
    match here.reverse.lookup name with
    | none => throw (.symbolNotFound name)
    | some symbol =>
        let image := image.addMap {
          name
          shape := traits.shape
          pinned := traits.pinned
          origin := .typed
          sectionIndex := s.index
          symbolIndex := some symbol.index
          contents := [] }
        return { image with remarks := image.remarks ++ traits.remarks }) image

/-- Adds the programs in a section, one for each named function. -/
def addPrograms (image : Image) (s : OpenSection) : Except ImageError Image := do
  let some kind := ProgramKind.ofSectionName? s.name
    | throw (.unknownProgramSection s.name)
  let here := symbolsIn image.symbols s.index
  if here.isEmpty then throw (.noSymbols s.name)
  let named := here.filter fun (name, symbol) => isFunction symbol && !name.isEmpty
  let image ← named.foldlM (fun image (name, symbol) => do
    let start := symbol.symbol.value
    let code ← readCode (symbolData 0 s.data symbol)
    return image.addProgram ⟨name, kind, s.index, start⟩ ⟨name, s.index, start, start, code⟩) image
  return image.addRelocations s

/-- Adds the functions that follow each other in a section of subprograms. -/
def addFunctionsFrom (functions : List TextSymbol) (s : OpenSection) :
    (fuel : Nat) → (offset : Nat) → Image → Except ImageError Image
  | 0, _, image => .ok image
  | fuel + 1, offset, image =>
      if s.data.length ≤ offset then .ok image
      else
        let address := s.header.address + offset
        match functions.find? fun (_, f) => f.symbol.value == address with
        | none => .error (.unknownSymbol s.index address)
        | some (name, f) =>
            if f.symbol.size = 0 then .error (.emptySymbol f.index name)
            else do
              let code ← readCode ((s.data.drop offset).take f.symbol.size)
              addFunctionsFrom functions s fuel (offset + f.symbol.size)
                (image.addFunction ⟨name, s.index, address, offset, code⟩)

/-- Adds the functions in a section of subprograms, no two of which are at one address. -/
def addSubprograms (image : Image) (s : OpenSection) : Except ImageError Image := do
  let functions := (symbolsIn image.symbols s.index).filter fun (_, f) => isDefinedFunction f
  match functions.find? fun (_, f) =>
      (functions.filter fun (_, g) => g.symbol.value == f.symbol.value).length > 1 with
  | some (_, f) => throw (.sharedAddress s.index f.symbol.value)
  | none =>
      let image ← addFunctionsFrom functions s (s.data.length + 1) 0 image
      return image.addRelocations s

def addSection (image : Image) (types : Option TypeInformation) (s : OpenSection) :
    Except ImageError Image :=
  match roleOf s.name s.header with
  | .maps => image.addRecordedMaps s
  | .typedMaps => image.addTypedMaps types s
  | .subprograms => image.addSubprograms s
  | .programs => image.addPrograms s
  | .data origin => .ok (image.addMap (.ofData s.name origin s.index s.header.size s.data))
  | .license | .version | .none => .ok image

/-- The names of the sections about types. -/
def typeSection : String := ".BTF"
def placeSection : String := ".BTF.ext"

/-- Reads what an object says about types, if it says anything. -/
def readTypes (file : File) : Except ImageError (Option TypeInformation) := do
  let some s ← openNamed? file typeSection | return none
  let types ← (TypeInformation.parse s.data).mapError .badTypes
  if let some places ← openNamed? file placeSection then
    (TypePlaces.check file.format.number places.data).mapError .badTypes
  return some types

def licenseIn (file : File) : Except ImageError Bytes := do
  match ← openNamed? file "license" with
  | some s => readLicense s.data
  | none => return defaultLicense

/-- Checks the kernel version that an object is made for. -/
def checkVersion (file : File) : Except ImageError Unit := do
  if let some s ← openNamed? file "version" then
    if s.data.length ≠ 4 then throw (.badKernelVersion s.data)

def ofFile (file : File) : Except ImageError Image := do
  let license ← licenseIn file
  checkVersion file
  let symbols ← nameSymbols file.symbols
  let types ← readTypes file
  let aboutTypes := [Text.Utf8.encode typeSection, Text.Utf8.encode placeSection]
  let sections := file.sections.filter fun s => s.name?.all fun name => !aboutTypes.contains name
  sections.foldlM (fun image s => do image.addSection types (← openSection file s))
    ⟨license, [], [], [], [], symbols, []⟩

end Image

end BpfBoot.Object
