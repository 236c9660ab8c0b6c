import BpfBoot.Errno
import BpfBoot.Location
import BpfBoot.Log.Event
import BpfBoot.Text.Space

/-!
# The mount table

A package is mounted twice from one block device: at its active mount point, and at that path followed
by `@` and its version. So the versions are found by way of the device of the active mount.
-/

namespace BpfBoot.Mounts

def logTarget : String := "netbpfload::apex"

/-- A mounted file system. -/
structure Mount where
  device : List Char
  mountPoint : List Char
  deriving DecidableEq, Repr

/-- The mount that a line of the table describes, if it has two fields. -/
def ofLine? (line : List Char) : Option Mount :=
  match Text.wordsList line with
  | device :: mountPoint :: _ => some ⟨device, mountPoint⟩
  | _ => none

def parse (table : String) : List Mount :=
  (Text.linesList table.toList).filterMap ofLine?

/-- The version in the mount point of a package at `base`, if it has one. -/
def version? (base : List Char) (mountPoint : List Char) : Option (List Char) :=
  if (base ++ ['@']).isPrefixOf mountPoint then some (mountPoint.drop (base.length + 1)) else none

/-- The versions that are mounted from the device of the first mount at `base`. -/
def versionsAt (base : List Char) (mounts : List Mount) : List (List Char) :=
  match mounts.find? fun m => m.mountPoint == base with
  | none => []
  | some active =>
      (mounts.filter fun m => m.device == active.device).filterMap fun m =>
        version? base m.mountPoint

/-- The mounted versions of the package that the objects come from. -/
def tetheringVersions (table : String) : List String :=
  (versionsAt tetheringMountPoint.toList (parse table)).map String.ofList

def versionEvents (table : Except IoError String) : List Log.Event :=
  match table with
  | .error e => [⟨.debug, logTarget, "Cannot read " ++ mountTable ++ ": " ++ e.message⟩]
  | .ok table =>
      match tetheringVersions table with
      | [] => [⟨.debug, logTarget, "Tethering APEX version not found"⟩]
      | versions => versions.map fun v =>
          ⟨.info, logTarget, "Loading BPF from Tethering APEX version " ++ v⟩

end BpfBoot.Mounts
