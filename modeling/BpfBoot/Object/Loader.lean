import BpfBoot.Bpf.Map
import BpfBoot.File.System
import BpfBoot.Location
import BpfBoot.Log.Session
import BpfBoot.Object.Image
import BpfBoot.Object.Info
import BpfBoot.Object.Linking
import BpfBoot.Object.Name
import BpfBoot.Release

/-!
# Loading an object file

The maps of an object are made first, then its programs are linked and loaded; both are pinned below the
pin directory of the object's location. A map or a program that is pinned there already is used again. An
object file says itself for which versions of the loader it is meant, and is left alone by others.
-/

namespace BpfBoot.Object

open Log

/-- What came of an object file. That it is critical is known even if it could not be loaded. -/
structure LoadResult where
  critical : Bool
  result : Except ObjectError Unit

/-- A loader of object files in worlds of type `σ`. -/
abbrev ObjectLoader (σ : Type) :=
  Path → LoaderVersion → Location → σ → Outcome LoadResult σ

/-- What a kernel can do beyond the least. -/
structure KernelFeatures where
  loadsPrograms : Bool
  makesMaps : Bool
  deriving DecidableEq, Repr

namespace KernelFeatures

/-- What is known of a kernel that was not asked. -/
def unknown : KernelFeatures := ⟨false, false⟩

/-- Whether programs can tell the memory of users from the kernel's. -/
def tellsUserMemory (f : KernelFeatures) : Bool := f.loadsPrograms

/-- Whether programs can refer to sections of data. -/
def hasGlobalData (f : KernelFeatures) : Bool := f.loadsPrograms && f.makesMaps

/-- Whether maps of devices and processors can name a program for each entry. -/
def namesPrograms (f : KernelFeatures) : Bool := f.makesMaps

end KernelFeatures

/-- The machine that objects are loaded on. -/
structure Host (σ : Type) where
  files : σ → Files
  kernel : Bpf.Kernel σ
  processors : Nat
  /-- What the kernel can do. -/
  features : σ → KernelFeatures := fun _ => .unknown
  /-- Whether the kernel has to be asked what it can do; from then on it is known. -/
  discover : σ → Bool × σ := fun s => (false, s)

def logTarget : String := "netbpfload::elf"

def imageTarget : String := "aya_obj::obj"

def featureTarget : String := "aya::bpf"

/-- A yes or no as it is shown in reports. -/
def yesNo (b : Bool) : String :=
  if b then "true" else "false"

def KernelFeatures.report (f : KernelFeatures) : String :=
  let line (name value : String) : String := "    " ++ name ++ ": " ++ value ++ ",\n"
  "BPF Feature Detection: Features \x7b\n"
    ++ line "bpf_name" (yesNo f.loadsPrograms)
    ++ line "bpf_probe_read_kernel" (yesNo f.tellsUserMemory)
    ++ line "bpf_perf_link" (yesNo false)
    ++ line "bpf_global_data" (yesNo f.hasGlobalData)
    ++ line "bpf_cookie" (yesNo f.loadsPrograms)
    ++ line "cpumap_prog_id" (yesNo f.namesPrograms)
    ++ line "devmap_prog_id" (yesNo f.namesPrograms)
    ++ line "btf" "None" ++ "\x7d"

/-! ## Maps -/

/-- The number of map types. -/
def mapTypeCount : Nat := 33

/-- The types of maps that stand for devices and processors. -/
def redirectMapTypes : List Nat := [14, 16, 25]

/-- The size of their values: a number, and the number of a program where the kernel knows of it. -/
def redirectValueSize (features : KernelFeatures) : Nat :=
  if features.namesPrograms then 8 else 4

/-- The types of maps that nothing is known about but their names. -/
def strangeMapTypes : List (Nat × String) :=
  [(0, "UNSPEC"), (8, "CGROUP_ARRAY"), (12, "ARRAY_OF_MAPS"), (13, "HASH_OF_MAPS"),
   (19, "CGROUP_STORAGE_DEPRECATED"), (20, "REUSEPORT_SOCKARRAY"), (21, "PERCPU_CGROUP_STORAGE"),
   (24, "SK_STORAGE"), (26, "STRUCT_OPS"), (28, "INODE_STORAGE"), (29, "TASK_STORAGE"),
   (31, "USER_RINGBUF"), (32, "CGRP_STORAGE")]

/-- The event that reports a map of such a type. -/
def strangeMapEvent? (map : MapDeclaration) : Option Event :=
  (strangeMapTypes.lookup map.shape.mapType).map fun type =>
    ⟨.warn, featureTarget, "The map " ++ map.name ++ " is of type BPF_MAP_TYPE_" ++ type
      ++ " which is currently unsupported in Aya, use `allow_unsupported_maps()` to load it anyways"⟩

def ringBufferType : Nat := 27

/-- The type of arrays with one element for each processor's events. -/
def eventArrayType : Nat := 4

def pageSize : Nat := 4096

/-- The smallest power of two that is not less than `n`. -/
def powerOfTwoFrom (n : Nat) : Nat :=
  if n ≤ 1 then 1 else Nat.pow 2 ((n - 1).log2 + 1)

/-- The size of a ring buffer: pages, and as many as a power of two. -/
def ringBufferSize (entries : Nat) : Nat :=
  if entries = 0 then 0 else powerOfTwoFrom ((entries + pageSize - 1) / pageSize) * pageSize

/-- The shape that a map is made with. -/
def effectiveShape (processors : Nat) (features : KernelFeatures) (shape : Bpf.MapShape) :
    Bpf.MapShape :=
  if redirectMapTypes.contains shape.mapType then
    { shape with valueSize := redirectValueSize features }
  else if shape.mapType = ringBufferType then
    { shape with maxEntries := ringBufferSize shape.maxEntries }
  else if shape.mapType = eventArrayType ∧ shape.maxEntries = 0 then
    { shape with maxEntries := processors }
  else shape

variable {σ : Type}

/-- Steps of loading an object. -/
abbrev Loading (σ : Type) := ExceptT ObjectError (Logged σ)

/-- A step that cannot fail. -/
def surely {α : Type} (step : Logged σ α) : Loading σ α :=
  ExceptT.lift step

def note (e : Event) : Loading σ Unit :=
  surely (report e)

def call (host : Host σ) (request : Bpf.SystemCall) : Logged σ (Except Errno Bpf.Completion) :=
  act (host.kernel.answer request)

/-- Pins what was made last. -/
def pin (host : Host σ) (p : Path) : Logged σ (Except PinFailure Unit) := do
  if p.hasNul then return .error (.badPath p (p.bytes.takeWhile (· != 0)).length)
  match ← call host (.objectPin p) with
  | .ok _ => return .ok ()
  | .error errno => return .error (.refused errno)

def makeMap (host : Host σ) (name : String) (shape : Bpf.MapShape) :
    Loading σ Bpf.Descriptor := do
  match ← call host (.mapCreate shape) with
  | .ok completion => return completion.descriptor
  | .error errno => throw (.map (.refused name errno))

/-- Makes a map that an object declares, unless it is pinned already. -/
def openMap (host : Host σ) (pinDir : Path) (map : MapDeclaration) : Loading σ Bpf.Descriptor := do
  let features ← surely (look host.features)
  let shape := effectiveShape host.processors features map.shape
  if map.pinned then
    let p := pinDir.join (.ofString map.name)
    if p.hasNul then
      throw (.map (.unpinned map.name (.badPath p (p.bytes.takeWhile (· != 0)).length)))
    match ← call host (.objectGet p 0) with
    | .ok completion => return completion.descriptor
    | .error _ =>
        let descriptor ← makeMap host map.name shape
        match ← pin host p with
        | .ok () => return descriptor
        | .error source => throw (.map (.unpinned map.name source))
  else makeMap host map.name shape

/-- Writes the element that a map starts with, unless it starts with zeros. -/
def fillMap (host : Host σ) (map : MadeMap) : Loading σ Unit := do
  if !map.declaration.contents.isEmpty && map.declaration.origin != .zeroData then
    match ← call host (.update map.descriptor (Bytes.ofNatLE 4 0) map.declaration.contents 0) with
    | .ok _ => pure ()
    | .error errno => throw (.map (.notFilled errno))

/-- Makes a map and what it starts with. -/
def addMap (host : Host σ) (pinDir : Path) (declaration : MapDeclaration) : Loading σ MadeMap := do
  let map : MadeMap := ⟨declaration, ← openMap host pinDir declaration⟩
  fillMap host map
  return map

/-! ## Programs -/

/-- The name below which a program is pinned. -/
def pinName (objectName programName : String) : String :=
  "prog_" ++ objectName ++ "_" ++ programName

/-- Whether a pinned program can be opened. -/
def isUsable (host : Host σ) (p : Path) : Logged σ Bool :=
  act (Bpf.isUsableProgram host.kernel p)

/-- A program with the instructions that are given to the kernel. -/
structure LinkedProgram where
  program : Program
  code : Bpf.Code

/-- Loads a program of a kind that is loaded. -/
def loadProgram (host : Host σ) (license : Bytes) (linked : LinkedProgram) : Loading σ Unit := do
  let program := linked.program
  match program.kind.kernelType? with
  | none => throw (.unsupportedProgram program.name)
  | some (programType, attachType, flags) =>
      match ← call host (.programLoad
          ⟨programType, linked.code.toBytes, license, flags, attachType⟩) with
      | .ok _ => pure ()
      | .error errno => throw (.programRefused program.name errno)

/-- Loads and pins a program, unless it is pinned already. -/
def addProgram (host : Host σ) (pinDir : Path) (objectName : String) (license : Bytes)
    (linked : LinkedProgram) : Loading σ Unit := do
  let p := pinDir.join (.ofString (pinName objectName linked.program.name))
  let isPinned ← surely (look fun s => (host.files s).leadsToEntry p)
  let reusable ← if isPinned then surely (isUsable host p) else pure false
  if reusable then
    note ⟨.debug, logTarget, "Reusing pinned program: " ++ p.display⟩
  else
    loadProgram host license linked
    match ← pin host p with
    | .ok () => pure ()
    | .error source => throw (.unpinned p source)
    if !(← isUsable host p) then throw (.unusable p)
    note ⟨.debug, logTarget, "Pinned program: " ++ p.display⟩

/-! ## Linking -/

/-- Takes steps of linking that start with some instructions, and tells what comes of them. -/
def carryOut (step : Linking Unit) (code : Bpf.Code) : Loading σ Bpf.Code := do
  let (result, state) := step.outcome code
  state.events.forM note
  match result with
  | .ok () => return state.code
  | .error e => throw (.unlinked e)

/-- Makes the references of all functions to maps. -/
def referToMaps (maps : List MadeMap) (image : Image) : Loading σ Image := do
  let functions ← image.functions.mapM fun f => do
    return { f with code := ← carryOut (f.referToMaps image maps) f.code }
  return { image with functions }

/-- The instructions for a kernel with the given features. -/
def codeFor (features : KernelFeatures) (code : Bpf.Code) : Bpf.Code :=
  if features.tellsUserMemory then code else code.map Bpf.Instruction.withOlderHelper

/-- Links a program, whose function is the linked one from then on. -/
def linkProgram (image : Image) (program : Program) : Loading σ Image := do
  match image.functionOf? program with
  | some f => return image.addFunction { f with code := ← carryOut (f.link image) f.code }
  | none => return image

/-- Links the programs one after the other. Programs that share a function share what all of them make
of it. -/
def linkPrograms (features : KernelFeatures) (image : Image) : Loading σ (List LinkedProgram) := do
  let image ← image.programs.foldlM linkProgram image
  return image.programs.filterMap fun program =>
    (image.functionOf? program).map fun f => ⟨program, codeFor features f.code⟩

/-! ## Objects -/

/-- The name of the object in the file under a path. -/
def nameOfPath (p : Path) : String :=
  objectName (Text.Utf8.decodeLossy (p.fileName?.getD []))

/-- Makes the maps of an image, and links and loads its programs. Sections of data become maps only where
programs can refer to them. -/
def addImage (host : Host σ) (pinDir : Path) (objectName : String) (image : Image) :
    Loading σ Unit := do
  let isNews ← surely (act host.discover)
  let features ← surely (look host.features)
  if isNews then note ⟨.debug, featureTarget, features.report⟩
  let declared := image.maps.filter fun map => features.hasGlobalData || !map.origin.isData
  match declared.find? fun map => mapTypeCount ≤ map.shape.mapType with
  | some map => throw (.map (.unknownType map.shape.mapType))
  | none => pure ()
  let maps ← declared.mapM (addMap host pinDir)
  let image ← referToMaps maps image
  let programs ← linkPrograms features image
  (declared.filterMap strangeMapEvent?).forM note
  programs.forM (addProgram host pinDir objectName image.license)

/-- Loads an object whose file says that it is meant for this loader. -/
def addObject (host : Host σ) (pinDir p : Path) (file : Elf.File) (info : ObjectInfo) :
    Loading σ Unit := do
  note ⟨.debug, logTarget, "Loading " ++ p.display ++ " (license: " ++ info.license
    ++ ", critical: " ++ yesNo info.critical ++ ")"⟩
  match Image.ofFile file with
  | .error e => throw (.image e)
  | .ok image =>
      image.remarks.forM fun remark => note ⟨.debug, imageTarget, remark⟩
      addImage host pinDir (nameOfPath p) image

/-- The event that reports an object that is meant for other loaders. -/
def ignoredEvent (p : Path) (version : LoaderVersion) (info : ObjectInfo) : Event :=
  ⟨.info, logTarget, "BpfLoader version " ++ Text.decimal version.number ++ " ignoring ELF object "
    ++ p.display ++ " with version range [0x" ++ Text.hex info.minVersion 5 ++ ", 0x"
    ++ Text.hex info.maxVersion 5 ++ ")"⟩

/-- Loads the object in an ELF object, if it is meant for this loader. -/
def loadFile (host : Host σ) (pinDir p : Path) (version : LoaderVersion) (file : Elf.File)
    (info : ObjectInfo) : Logged σ LoadResult := do
  if version.isInRange info.minVersion info.maxVersion then
    return ⟨info.critical, ← (addObject host pinDir p file info).run⟩
  else
    report (ignoredEvent p version info)
    return ⟨info.critical, .ok ()⟩

/-- The loader that pins objects below a directory. -/
def fileLoader (host : Host σ) (root : Path) : ObjectLoader σ := fun p version location =>
  Logged.outcome do
    match ← look fun s => (host.files s).read p with
    | .error source => return ⟨false, .error (.io p source)⟩
    | .ok bytes =>
        match Elf.File.parse bytes with
        | .error e => return ⟨false, .error (.elf e)⟩
        | .ok file =>
            match ObjectInfo.ofFile file with
            | .error e => return ⟨false, .error (.elf e)⟩
            | .ok info =>
                loadFile host (root.join (.ofString location.pinSubdir)) p version file info

end BpfBoot.Object
