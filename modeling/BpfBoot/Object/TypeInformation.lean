import BpfBoot.Bytes
import BpfBoot.Text.Numeral
import BpfBoot.Text.Utf8

/-!
# Type information

An object may describe the types of its program texts in a section of its own: a header, a region of type
records and a region of names. A record is known by its place in the list of records, which starts with
the record of no type. The description is least significant byte first in every file.
-/

namespace BpfBoot.Object

/-- Why type information cannot be read, or a type not be used. -/
inductive TypeError where
  | badHeader
  | badRecords
  | unknownKind (kind : Nat)
  | badRegion (offset length size : Nat)
  | badPlaces
  | unknownPlaceKind (kind : Nat)
  | badName (offset : Nat)
  | unknownType (id : Nat)
  | unexpectedType (id : Nat)
  | tooDeep (id : Nat)
  deriving DecidableEq, Repr

def TypeError.message : TypeError → String
  | .badHeader => "error parsing BTF header"
  | .badRecords => "invalid BTF type info segment"
  | .unknownKind kind => "invalid BTF type kind `" ++ Text.decimal kind ++ "`"
  | .badRegion offset length size =>
      "invalid BTF info, offset: " ++ Text.decimal offset ++ " len: " ++ Text.decimal length
        ++ " section_len: " ++ Text.decimal size
  | .badPlaces => "invalid BTF relocation info segment"
  | .unknownPlaceKind kind => "invalid BTF relocation kind `" ++ Text.decimal kind ++ "`"
  | .badName offset => "invalid BTF string offset: " ++ Text.decimal offset
  | .unknownType id => "Unknown BTF type id `" ++ Text.decimal id ++ "`"
  | .unexpectedType id => "Unexpected BTF type id `" ++ Text.decimal id ++ "`"
  | .tooDeep _ => "maximum depth reached resolving BTF type"

/-- A member of a structure: where its name is, and its type. -/
structure Member where
  nameOffset : Nat
  type : Nat
  deriving DecidableEq, Repr

/-- A type record. -/
inductive TypeRecord where
  /-- A type that has no size and leads to no other: no type at all, or a declaration. -/
  | bare
  /-- A number, an enumeration or a union. -/
  | plain (size : Nat)
  | pointer (target : Nat)
  | array (element length : Nat)
  | aggregate (size : Nat) (members : List Member)
  /-- A type under another name or with a qualifier. -/
  | renamed (target : Nat)
  /-- An object of a type. -/
  | object (nameOffset type : Nat)
  /-- What stands for another type in some other way. -/
  | related (target : Nat)
  /-- A section, with the types of the objects in it. -/
  | region (nameOffset size : Nat) (objects : List Nat)
  deriving DecidableEq, Repr

namespace TypeRecord

/-- The word at a place in a byte string. -/
def wordAt (bytes : Bytes) (i : Nat) : Nat :=
  Bytes.toNatLE ((bytes.drop (4 * i)).take 4)

/-- The number of bytes that every record starts with. -/
def headSize : Nat := 12

/-- The number of bytes that follow the start of a record of the given kind with the given number of
parts, if there is such a kind. -/
def bodySize? (kind parts : Nat) : Option Nat :=
  match kind with
  | 0 | 2 | 7 | 8 | 9 | 10 | 11 | 12 | 16 | 18 => some 0
  | 1 | 14 | 17 => some 4
  | 3 => some 12
  | 4 | 5 | 15 | 19 => some (12 * parts)
  | 6 | 13 => some (8 * parts)
  | _ => none

/-- The bytes of each of the given number of parts of twelve bytes. -/
def parts : (count : Nat) → Bytes → List Bytes
  | 0, _ => []
  | count + 1, body => body.take 12 :: parts count (body.drop 12)

/-- The record of a kind, from its name, its size or type, and what follows. -/
def ofBody (kind name sizeOrType count : Nat) (body : Bytes) : TypeRecord :=
  match kind with
  | 1 | 5 | 6 | 16 | 19 => .plain sizeOrType
  | 2 => .pointer sizeOrType
  | 3 => .array (wordAt body 0) (wordAt body 2)
  | 4 => .aggregate sizeOrType ((parts count body).map fun m => ⟨wordAt m 0, wordAt m 1⟩)
  | 8 | 9 | 10 | 11 | 18 => .renamed sizeOrType
  | 13 | 17 => .related sizeOrType
  | 14 => .object name sizeOrType
  | 15 => .region name sizeOrType ((parts count body).map (wordAt · 0))
  | _ => .bare

/-- Reads the records that a region is made up of. -/
def readAll (region : Bytes) : Except TypeError (List TypeRecord) :=
  if region.isEmpty then .ok []
  else if region.length < headSize then .error .badRecords
  else
    let kind := wordAt region 1 / 0x1000000 % 32
    let count := wordAt region 1 % 0x10000
    match bodySize? kind count with
    | none => .error (.unknownKind kind)
    | some size =>
        if region.length < headSize + size then .error .badRecords
        else do
          let record := ofBody kind (wordAt region 0) (wordAt region 2) count (region.drop headSize)
          return record :: (← readAll (region.drop (headSize + size)))
termination_by region.length
decreasing_by
  simp only [List.length_drop, headSize] at *
  omega

end TypeRecord

/-- The types that an object describes. -/
structure TypeInformation where
  records : List TypeRecord
  names : Bytes
  /-- The bound on the offsets of names. -/
  nameBound : Nat
  deriving DecidableEq, Repr

namespace TypeInformation

def headerSize : Nat := 24

def parse (data : Bytes) : Except TypeError TypeInformation := do
  if data.length < headerSize then throw .badHeader
  let word := TypeRecord.wordAt data
  let size := word 1
  match data.slice? (size + word 4) (word 5) with
  | none => throw .badHeader
  | some names =>
      match data.slice? (size + word 2) (word 3) with
      | none => throw .badRecords
      | some region =>
          let records ← TypeRecord.readAll region
          return ⟨.bare :: records, names, size + word 4 + word 5⟩

def name (t : TypeInformation) (offset : Nat) : Except TypeError String :=
  let rest := t.names.drop offset
  if offset < t.nameBound && rest.contains 0 then
    .ok (Text.Utf8.decodeLossy (Bytes.upToNul rest))
  else .error (.badName offset)

/-- The record with the given place. -/
def record (t : TypeInformation) (id : Nat) : Except TypeError TypeRecord :=
  match t.records[id]? with
  | some record => .ok record
  | none => .error (.unknownType id)

/-- How many types are followed one after the other. -/
def depth : Nat := 32

/-- The type that is left when names and qualifiers are taken off. -/
def resolve (t : TypeInformation) (root : Nat) : Except TypeError Nat :=
  go depth root
where
  go : Nat → Nat → Except TypeError Nat
    | 0, _ => .error (.tooDeep root)
    | fuel + 1, id => do
        match ← t.record id with
        | .renamed target => go fuel target
        | _ => return id

def pointerSize : Nat := 8

/-- The size of a type. Of arrays within arrays only the innermost one counts. -/
def sizeOf (t : TypeInformation) (root : Nat) : Except TypeError Nat :=
  go depth 1 root
where
  go : Nat → Nat → Nat → Except TypeError Nat
    | 0, _, _ => .error (.tooDeep root)
    | fuel + 1, count, id => do
        match ← t.record id with
        | .array element length => go fuel length element
        | .plain size | .aggregate size _ | .region _ size _ => return size * count
        | .pointer _ => return pointerSize * count
        | .renamed target | .object _ target | .related target => go fuel count target
        | .bare => throw (.unexpectedType id)

/-- The type that a record leads to; zero if it leads to none. -/
def follow : TypeRecord → Nat
  | .pointer target | .renamed target | .object _ target | .related target => target
  | .bare | .plain _ | .array .. | .aggregate .. | .region .. => 0

/-- The type that a pointer points to. -/
def pointee (t : TypeInformation) (id : Nat) : Except TypeError Nat := do
  match ← t.record id with
  | .pointer target => return target
  | other => throw (.unexpectedType (follow other))

/-- The type that the member of a map for its keys or values points to. -/
def keyed (t : TypeInformation) (id : Nat) : Except TypeError Nat := do
  match ← t.record id with
  | .pointer target => return target
  | _ => throw (.unexpectedType id)

/-- The number that a type stands for: the length of the array that it points to. -/
def number (t : TypeInformation) (id : Nat) : Except TypeError Nat := do
  match ← t.record (← t.pointee id) with
  | .array _ length => return length
  | other => throw (.unexpectedType (follow other))

end TypeInformation

/-! ## Places in programs

A second section says where the program texts use types and which source lines they come from. The loader
makes no use of it, but refuses one that cannot be read.
-/

namespace TypePlaces

/-- The number of bytes of the shortest and of the longest header. -/
def shortHeader : Nat := 8
def longHeader : Nat := 32

/-- The number of bytes of a place, and the number of kinds of places. -/
def placeSize : Nat := 16
def placeKinds : Nat := 12

/-- Checks that a region of the section lies in it and has room for the size of its records. -/
def checkRegion (data : Bytes) (offset length : Nat) : Except TypeError Unit :=
  if (0 < length && length < 4) || data.length < offset + length then
    .error (.badRegion offset length data.length)
  else .ok ()

/-- Checks that each place in a group is complete and of a kind that there is. -/
def checkGroup : (count : Nat) → (size : Nat) → Bytes → Except TypeError Unit
  | 0, _, _ => .ok ()
  | count + 1, size, group =>
      let place := group.take size
      if place.length < placeSize then .error .badPlaces
      else if placeKinds ≤ TypeRecord.wordAt place 3 then
        .error (.unknownPlaceKind (TypeRecord.wordAt place 3))
      else checkGroup count size (group.drop size)

/-- Checks the groups of places, each with a name and a number of places before it. -/
def checkGroups (size : Nat) : (fuel : Nat) → Bytes → Except TypeError Unit
  | 0, _ => .ok ()
  | fuel + 1, groups =>
      if groups.length ≤ 8 then .ok ()
      else do
        let count := TypeRecord.wordAt groups 1
        checkGroup (min count groups.length) size (groups.drop 8)
        checkGroups size fuel (groups.drop (8 + size * count))

/-- Checks the section about places; `number` is how the file writes numbers. -/
def check (number : Bytes → Nat) (data : Bytes) : Except TypeError Unit := do
  if data.length < shortHeader then throw .badHeader
  let size := TypeRecord.wordAt data 1
  if data.length < size then throw .badHeader
  let word (i : Nat) : Nat := TypeRecord.wordAt (data.take (min size longHeader)) i
  checkRegion data (size + word 2) (word 3)
  checkRegion data (size + word 4) (word 5)
  checkRegion data (size + word 6) (word 7)
  if 0 < word 7 then
    let region := (data.drop (size + word 6)).take (word 7)
    checkGroups (number (region.take 4)) data.length (region.drop 4)

end TypePlaces

end BpfBoot.Object
