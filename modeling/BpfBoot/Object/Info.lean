import BpfBoot.Elf.File
import BpfBoot.Release
import BpfBoot.Text.Utf8

/-!
# What an object says about itself

An object file may carry sections for the loader: one whose presence makes the object critical, a
range of loader versions, and a license.
-/

namespace BpfBoot.Object

open Elf

/-- What the sections for the loader say. -/
structure ObjectInfo where
  /-- Whether the system cannot do without the object. -/
  critical : Bool
  minVersion : Nat
  maxVersion : Nat
  license : String
  deriving DecidableEq, Repr

namespace ObjectInfo

/-- The name of the section that makes an object critical. -/
def criticalSection : Bytes := Text.Utf8.encode "critical"

/-- The name of the section with the lowest loader version. -/
def minVersionSection : Bytes := Text.Utf8.encode "bpfloader_min_ver"

/-- The name of the section with the bound on the loader version. -/
def maxVersionSection : Bytes := Text.Utf8.encode "bpfloader_max_ver"

def licenseSection : Bytes := Text.Utf8.encode "license"

/-- The number at the start of a section; the default if there is no such section, or too little can
be read from it. -/
def versionIn (file : File) (name : Bytes) (default : Nat) : Nat :=
  match file.sectionNamed? name with
  | none => default
  | some s =>
      match file.data s with
      | .ok data => data.readU32?.getD default
      | .error _ => default

/-- The license; it is empty if there is none or if it is not UTF-8. -/
def licenseIn (file : File) : Except ElfError String :=
  match file.sectionNamed? licenseSection with
  | none => .ok ""
  | some s => do
      match Text.Utf8.decodeUpToNul (← file.data s) with
      | .ok license => return license
      | .error _ => return ""

/-- Reads what an accepted file says. -/
def ofFile (file : File) : Except ElfError ObjectInfo := do
  let license ← licenseIn file
  return {
    critical := (file.sectionNamed? criticalSection).isSome
    minVersion := versionIn file minVersionSection LoaderVersion.defaultMin
    maxVersion := versionIn file maxVersionSection LoaderVersion.defaultMax
    license }

/-- Reads what the bytes of an object file say. -/
def parse (bytes : Bytes) : Except ElfError ObjectInfo := do
  ofFile (← File.parse bytes)

end ObjectInfo

end BpfBoot.Object
