import BpfBoot.Bpf.Kernel
import BpfBoot.Object.TypeInformation

/-!
# Map declarations

An object declares its maps in one of three ways: by a record of numbers, by a type whose members stand for
numbers and types, or by a section of data that becomes a map with one element.
-/

namespace BpfBoot.Object

/-- How a map is declared. -/
inductive MapOrigin where
  | record
  | typed
  | data
  | readOnlyData
  | zeroData
  deriving DecidableEq, Repr

namespace MapOrigin

/-- The name of the way of declaration in reports. -/
def name : MapOrigin → String
  | .record => "Maps"
  | .typed => "BtfMaps"
  | .data => "Data"
  | .readOnlyData => "Rodata"
  | .zeroData => "Bss"

/-- Whether the map is made of a section of data. -/
def isData : MapOrigin → Bool
  | .record | .typed => false
  | .data | .readOnlyData | .zeroData => true

end MapOrigin

/-- A map that an object declares. -/
structure MapDeclaration where
  name : String
  shape : Bpf.MapShape
  /-- Whether the map is pinned under its name. -/
  pinned : Bool
  origin : MapOrigin
  /-- The section that the declaration lies in. -/
  sectionIndex : Nat
  /-- The symbol of the map; a section of data has none. -/
  symbolIndex : Option Nat
  /-- The element that the map starts with; empty if it starts with none. -/
  contents : Bytes
  deriving DecidableEq, Repr

namespace MapDeclaration

/-- The shape of a map that says nothing about itself. -/
def blankShape : Bpf.MapShape := ⟨0, 0, 0, 0, 0⟩

def minRecordSize : Nat := 20

/-- The declaration in a record: the type of the map, the sizes of its keys and values, the number of its
entries and its flags, then an identifier that is not used and whether the map is pinned. -/
def ofRecord? (name : String) (sectionIndex symbolIndex : Nat) (data : Bytes) :
    Option MapDeclaration :=
  if data.length < minRecordSize then none
  else
    let word := TypeRecord.wordAt data
    some {
      name
      shape := ⟨word 0, word 1, word 2, word 3, word 4⟩
      pinned := word 6 == 1
      origin := .record
      sectionIndex
      symbolIndex := some symbolIndex
      contents := [] }

/-- The flag of maps that programs may not write. -/
def readOnlyFlag : Nat := 0x80

/-- The type of maps that are indexed by number. -/
def arrayType : Nat := 2

/-- The declaration of the map that a section of data becomes. -/
def ofData (name : String) (origin : MapOrigin) (sectionIndex size : Nat) (data : Bytes) :
    MapDeclaration :=
  { name
    shape := ⟨arrayType, 4, size, 1, if origin = .readOnlyData then readOnlyFlag else 0⟩
    pinned := false
    origin
    sectionIndex
    symbolIndex := none
    contents := data }

/-- What the members of a type say about a map. -/
structure Traits where
  shape : Bpf.MapShape
  pinned : Bool
  /-- What the members say that is not understood. -/
  remarks : List String
  deriving DecidableEq, Repr

/-- The traits with what one member says. -/
def Traits.withMember (t : TypeInformation) (traits : Traits) (m : Member) :
    Except TypeError Traits := do
  let shape := traits.shape
  match ← t.name m.nameOffset with
  | "type" => return { traits with shape := { shape with mapType := ← t.number m.type } }
  | "key" =>
      return { traits with shape := { shape with keySize := ← t.sizeOf (← t.keyed m.type) } }
  | "key_size" => return { traits with shape := { shape with keySize := ← t.number m.type } }
  | "value" =>
      return { traits with shape := { shape with valueSize := ← t.sizeOf (← t.keyed m.type) } }
  | "value_size" => return { traits with shape := { shape with valueSize := ← t.number m.type } }
  | "max_entries" => return { traits with shape := { shape with maxEntries := ← t.number m.type } }
  | "map_flags" => return { traits with shape := { shape with flags := ← t.number m.type } }
  | "pinning" =>
      match ← t.number m.type with
      | 0 => return { traits with pinned := false }
      | 1 => return { traits with pinned := true }
      | other =>
          let remark := Text.decimal other ++ " is not a valid pin type. using PIN_NONE"
          return { traits with pinned := false, remarks := traits.remarks ++ [remark] }
  | other =>
      return { traits with remarks := traits.remarks ++ ["skipping unknown map section: " ++ other] }

/-- The name and the traits of the map that a type record stands for. -/
def traitsOf (t : TypeInformation) (id : Nat) : Except TypeError (String × Traits) := do
  match ← t.record id with
  | .object nameOffset type =>
      let name ← t.name nameOffset
      match ← t.record (← t.resolve type) with
      | .aggregate _ members =>
          return (name, ← members.foldlM (Traits.withMember t) ⟨blankShape, false, []⟩)
      | other => throw (.unexpectedType (TypeInformation.follow other))
  | other => throw (.unexpectedType (TypeInformation.follow other))

/-- The records of the objects in the sections with the given name. -/
def objectsIn (t : TypeInformation) (sectionName : String) : List Nat :=
  t.records.flatMap fun
    | .region nameOffset _ objects =>
        match t.name nameOffset with
        | .ok name => if name = sectionName then objects else []
        | .error _ => []
    | _ => []

end MapDeclaration

end BpfBoot.Object
