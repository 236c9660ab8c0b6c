import BpfBoot.Log.Event
import BpfBoot.Object.Image

/-!
# Linking

A program is linked before it is loaded: references to maps become the descriptors of the maps, and the
functions that the program calls or refers to are appended to it, each one once. A reference between
functions is the number of instructions between the one that refers and the function's first one.
-/

namespace BpfBoot.Object

open Bpf Elf Log

/-- The target of the events about linking. -/
def linkTarget : String := "aya_obj::relocation"

/-- What linking has come to. -/
structure LinkState where
  /-- The instructions so far. -/
  code : Code
  /-- Where functions were appended, by their addresses. -/
  linked : List (Nat × Nat)
  events : List Event

abbrev Linking := ExceptT LinkFailure (StateM LinkState)

namespace Linking

def note (message : String) : Linking Unit :=
  modify fun s => { s with events := s.events ++ [⟨.debug, linkTarget, message⟩] }

def change (i : Nat) (f : Instruction → Instruction) : Linking Unit :=
  modify fun s => { s with code := s.code.modify i f }

/-- Appends a function, and tells where it starts. -/
def append (f : Function) : Linking Nat := do
  let start := (← get).code.size
  modify fun s => { s with code := s.code ++ f.code }
  note ("linked function `" ++ f.name ++ "` at instruction " ++ Text.decimal start)
  modify fun s => { s with linked := (f.address, start) :: s.linked }
  return start

/-- What comes of linking that starts with some instructions. -/
def outcome (step : Linking Unit) (code : Code) : Except LinkFailure Unit × LinkState :=
  step.run.run ⟨code, [], []⟩

end Linking

namespace Image

/-- The symbol with an index. -/
def symbol? (image : Image) (index : Nat) : Option TextSymbol :=
  image.symbols.find? fun (_, s) => s.index == index

/-- The relocations of a section with code. -/
def relocationsOf (image : Image) (sectionIndex : Nat) : List Relocation :=
  (image.relocations.lookup sectionIndex).getD []

/-- Whether functions lie in a section. -/
def holdsFunctions (image : Image) (sectionIndex : Nat) : Bool :=
  image.functions.any (·.sectionIndex == sectionIndex)

/-- The function at an address of a section. -/
def function? (image : Image) (sectionIndex address : Nat) : Option Function :=
  image.functions.find? fun f => f.sectionIndex == sectionIndex && f.address == address

def functionOf? (image : Image) (program : Program) : Option Function :=
  image.function? program.sectionIndex program.address

end Image

/-! ## References to maps -/

/-- A map that was made for an object. -/
structure MadeMap where
  declaration : MapDeclaration
  descriptor : Descriptor

namespace MadeMap

/-- The map that a symbol stands for: its own, or else the one in its section. -/
def find? (maps : List MadeMap) (symbolIndex sectionIndex : Nat) : Option MadeMap :=
  (maps.find? (·.declaration.symbolIndex == some symbolIndex)).or
    (maps.find? (·.declaration.sectionIndex == sectionIndex))

/-- The event of a reference to the map, from an instruction of a function in a section. -/
def event (m : MadeMap) (i sectionIndex : Nat) : String :=
  let place := ", kind " ++ m.declaration.origin.name ++ " at insn " ++ Text.decimal i
    ++ " in section " ++ Text.decimal sectionIndex
  match m.declaration.symbolIndex with
  | some index => "relocating map by symbol index Some(" ++ Text.decimal index ++ ")" ++ place
  | none => "relocating map by section index " ++ Text.decimal m.declaration.sectionIndex ++ place

/-- Makes an instruction refer to the map. A reference into the element of the map keeps how far into it
the symbol lies, in the instruction after it. -/
def refer (m : MadeMap) (i value : Nat) : Linking Unit := do
  let descriptor : Int := m.descriptor.index
  if m.declaration.contents.isEmpty then
    Linking.change i ({ · with source := Instruction.mapReference, immediate := descriptor })
  else
    let within := ((← get).code[i]?.map (·.immediate)).getD 0 + value
    Linking.change (i + 1) ({ · with immediate := within })
    Linking.change i ({ · with source := Instruction.mapValueReference, immediate := descriptor })

end MadeMap

namespace Function

def byteSize (f : Function) : Nat :=
  f.code.size * Instruction.size

/-- Applies a relocation, the one with the given number, if it is within the function and about a map. -/
def applyToMap (f : Function) (image : Image) (maps : List MadeMap) (number : Nat)
    (r : Relocation) : Linking Unit := do
  if r.offset < f.sectionOffset || f.sectionOffset + f.byteSize ≤ r.offset then return
  let within := r.offset - f.sectionOffset
  if within % Instruction.size ≠ 0 then throw ⟨f.name, .badPlace r.offset number⟩
  let i := within / Instruction.size
  let some (name, symbol) := image.symbol? r.symbolIndex
    | throw ⟨f.name, .unknownSymbol r.symbolIndex⟩
  let some sectionIndex := symbolSection? symbol | return
  if (f.code[i]?.any (·.isCall)) || image.holdsFunctions sectionIndex then return
  match MadeMap.find? maps r.symbolIndex sectionIndex with
  | some map =>
      Linking.note (map.event i f.sectionIndex)
      map.refer i symbol.symbol.value
  | none =>
      Linking.note ("failed relocating map by section index " ++ Text.decimal sectionIndex)
      throw ⟨f.name, .sectionNotFound sectionIndex r.symbolIndex name⟩

/-- Makes the references of a function to maps. -/
def referToMaps (f : Function) (image : Image) (maps : List MadeMap) : Linking Unit :=
  (image.relocationsOf f.sectionIndex).zipIdx.forM fun (r, number) =>
    f.applyToMap image maps number r

end Function

/-! ## References to functions -/

/-- A reference to a function. -/
structure Reference where
  sectionIndex : Nat
  address : Nat
  /-- Whether a relocation says what is meant, and not the instruction alone. -/
  relocated : Bool
  deriving DecidableEq, Repr

def callRelocation : Nat := 10

def addressBound : Nat := 0x10000000000000000

/-- An address that was computed with a sign. -/
def wrapAddress (address : Int) : Nat :=
  (address % addressBound).toNat

/-- The address that a relocation means. A section stands for its start: from there, a call counts
instructions and any other reference counts bytes. -/
def targetAddress (r : Relocation) (s : NamedSymbol) (i : Instruction) : Nat :=
  match symbolKind s with
  | .function | .other => s.symbol.value
  | .section =>
      if r.type = callRelocation then
        wrapAddress (s.symbol.value + (i.immediate + 1) * Instruction.size)
      else wrapAddress (s.symbol.value + i.immediate)

namespace Function

/-- The relocation of an instruction, with its symbol, if it is about a function. -/
def codeRelocation? (f : Function) (image : Image) (i : Nat) : Option (Relocation × NamedSymbol) := do
  let offset := f.sectionOffset + i * Instruction.size
  let r ← (image.relocationsOf f.sectionIndex).find? (·.offset == offset)
  let (_, symbol) ← image.symbol? r.symbolIndex
  if isFunction symbol || (symbolSection? symbol).any image.holdsFunctions then
    return (r, symbol)
  else none

/-- The function that an instruction refers to, if it refers to one. A call that no relocation is about
counts instructions from the one after it. -/
def reference? (f : Function) (image : Image) (i : Nat) (instruction : Instruction) :
    Option Reference :=
  match f.codeRelocation? image i with
  | some (r, symbol) =>
      some ⟨(symbolSection? symbol).getD 0, targetAddress r symbol instruction, true⟩
  | none =>
      if instruction.isCall then
        let address := f.sectionOffset + (i + 1 + instruction.immediate) * Instruction.size
        some ⟨f.sectionIndex, wrapAddress address, false⟩
      else none

/-- Links the instruction with number `i` of a function that starts at `start`; `bringIn` appends a
function and what it refers to, and tells where it starts. -/
def linkAt (f : Function) (image : Image) (bringIn : Function → Linking Nat) (start i : Nat) :
    Linking Unit := do
  let place := start + i
  let some instruction := (← get).code[place]? | return
  let some reference := f.reference? image i instruction | return
  Linking.note ("relocating " ++ (if instruction.isCall then "call" else "reference")
    ++ " to callee address 0x" ++ Text.hex reference.address 1 ++ " in section "
    ++ Text.decimal reference.sectionIndex ++ " ("
    ++ (if reference.relocated then "relocation" else "pc-relative") ++ ") at instruction "
    ++ Text.decimal place)
  let some callee := image.function? reference.sectionIndex reference.address
    | throw ⟨f.name, .unknownFunction reference.address f.name⟩
  Linking.note ("callee is `" ++ callee.name ++ "`")
  let first ← bringIn callee
  let distance : Int := first - place - 1
  Linking.change place ({ · with immediate := distance })
  Linking.note ("callee `" ++ callee.name ++ "` is at ins " ++ Text.decimal first ++ ", "
    ++ Text.signedDecimal distance ++ " from current instruction " ++ Text.decimal place)
  if !instruction.isCall then
    Linking.change place ({ · with source := Instruction.programReference })

/-- Links a function whose instructions are the last ones of a program. Each function that is appended
has an address of its own, so functions are never nested deeper than there are functions. -/
def linkLast (image : Image) (program : String) : (depth : Nat) → Function → Linking Unit
  | 0, _ => pure ()
  | depth + 1, f => do
      let shown := "program `" ++ program ++ "` function `" ++ f.name ++ "`"
      let start := (← get).code.size - f.code.size
      let bringIn (callee : Function) : Linking Nat := do
        match (← get).linked.lookup callee.address with
        | some first => return first
        | none =>
            let first ← Linking.append callee
            linkLast image program depth callee
            return first
      Linking.note ("relocating " ++ shown ++ " size " ++ Text.decimal f.code.size)
      (List.range f.code.size).forM (f.linkAt image bringIn start)
      Linking.note ("finished relocating " ++ shown)

/-- Links a program, whose function this is. -/
def link (f : Function) (image : Image) : Linking Unit :=
  linkLast image f.name (image.functions.length + 1) f

end Function

end BpfBoot.Object
