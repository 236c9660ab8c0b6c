import BpfBoot.Errno
import BpfBoot.File.Path

/-!
# File trees

The files of a machine are a list of entries, each under its absolute key: the names that lead to it
from the root directory. The order of the list is the order in which entries were made. A path is
looked up as the system does it: symbolic links are followed, at most forty of them, and a name that
is followed by another name must lead to a directory.
-/

namespace BpfBoot

/-- The names that lead to an entry from the root directory. -/
abbrev Key := List Name

/-- What a tree holds under a key. -/
inductive Entry where
  | file (mode : Nat) (data : Bytes)
  | directory (mode : Nat)
  | symlink (target : Bytes)
  deriving DecidableEq, Repr

namespace Entry

def isDirectory : Entry → Bool
  | .directory _ => true
  | _ => false

/-- The permission bits of the entry; a symbolic link has all of them. -/
def mode : Entry → Nat
  | .file mode _ | .directory mode => mode
  | .symlink _ => 0o777

end Entry

structure FileTree where
  entries : List (Key × Entry)
  deriving Repr

namespace FileTree

/-- The tree with nothing but the root directory. -/
def empty : FileTree := ⟨[]⟩

/-- The entry under a key. The root directory is always there. -/
def get? (t : FileTree) (key : Key) : Option Entry :=
  match t.entries.find? (·.1 == key) with
  | some (_, entry) => some entry
  | none => if key.isEmpty then some (.directory 0o755) else none

/-- The tree with an entry put under a key, in place of the entry that was there. -/
def insert (t : FileTree) (key : Key) (entry : Entry) : FileTree :=
  if t.entries.any (·.1 == key) then
    ⟨t.entries.map fun (k, e) => if k == key then (k, entry) else (k, e)⟩
  else ⟨t.entries ++ [(key, entry)]⟩

def erase (t : FileTree) (key : Key) : FileTree :=
  ⟨t.entries.filter (·.1 != key)⟩

/-- The names in a directory, in the order in which their entries were made. -/
def children (t : FileTree) (key : Key) : List Name :=
  t.entries.filterMap fun (k, _) =>
    match k.getLast? with
    | some name => if k.dropLast == key then some name else none
    | none => none

inductive Place where
  | present (key : Key) (entry : Entry)
  /-- To a name that a directory does not hold. -/
  | absent (directory : Key) (name : Name)
  deriving Repr

/-- The number of symbolic links that one look-up follows. -/
def maxLinks : Nat := 40

/-- The number of bytes that a name may have. -/
def maxNameLength : Nat := 255

/-- The number of bytes that a path must stay below. -/
def pathLengthBound : Nat := 4096

/--
Follows names from a directory. `followLast` says whether a symbolic link under the last name is
followed too, `needDirectory` whether the path must lead to a directory if it leads to an entry.
-/
def walk (t : FileTree) (followLast needDirectory : Bool) (links : Nat) (dir : Key)
    (todo : List Name) : Except Errno Place :=
  match todo with
  | [] =>
      match t.get? dir with
      | some entry => .ok (.present dir entry)
      | none => .error .enoent
  | name :: rest =>
      if name == Path.dot then t.walk followLast needDirectory links dir rest
      else if name == Path.dotDot then t.walk followLast needDirectory links dir.dropLast rest
      else if maxNameLength < name.length then .error .enametoolong
      else
        let key := dir ++ [name]
        match t.get? key with
        | none => if rest.isEmpty then .ok (.absent dir name) else .error .enoent
        | some (.directory _) => t.walk followLast needDirectory links key rest
        | some (.file mode data) =>
            if rest.isEmpty && !needDirectory then .ok (.present key (.file mode data))
            else .error .enotdir
        | some (.symlink target) =>
            if rest.isEmpty && !followLast && !needDirectory then
              .ok (.present key (.symlink target))
            else
              match links with
              | 0 => .error .eloop
              | links + 1 =>
                  let path : Path := ⟨target⟩
                  t.walk followLast (needDirectory || (rest.isEmpty && path.endsWithSlash)) links
                    (if path.isAbsolute then [] else dir) (path.names ++ rest)
termination_by (links, todo.length)

/-- Where a path leads, seen from the directory `cwd`. -/
def resolve (t : FileTree) (cwd : Key) (p : Path) (followLast : Bool) : Except Errno Place :=
  if p.bytes.isEmpty then .error .enoent
  else if pathLengthBound ≤ p.bytes.length then .error .enametoolong
  else t.walk followLast p.endsWithSlash maxLinks (if p.isAbsolute then [] else cwd) p.names

end FileTree

end BpfBoot
