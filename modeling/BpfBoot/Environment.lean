import BpfBoot.Bytes
import BpfBoot.Text.Utf8

/-!
# The environment of a process

An environment is a block of byte strings. An entry gives a value to a name: the name ends before the
first equals sign that is not the first byte. Entries without such a sign give no value, and are not
passed on to other programs.
-/

namespace BpfBoot

/-- The entries of an environment, in order. -/
abbrev Environment := List Bytes

namespace Environment

/-- The sign between a name and its value. -/
def equalsSign : UInt8 := 0x3d

def splitEntry? : Bytes → Option (Bytes × Bytes)
  | [] => none
  | b :: rest =>
      match rest.dropWhile (· != equalsSign) with
      | [] => none
      | _ :: value => some (b :: rest.takeWhile (· != equalsSign), value)

def joinEntry (entry : Bytes × Bytes) : Bytes :=
  entry.1 ++ equalsSign :: entry.2

def bindings (env : Environment) : List (Bytes × Bytes) :=
  env.filterMap splitEntry?

/-- The entries that other programs get. -/
def passedOn (env : Environment) : Environment :=
  env.bindings.map joinEntry

/-- The value of a name; of several, the first one counts. -/
def get? (env : Environment) (name : String) : Option Bytes :=
  env.bindings.lookup (Text.Utf8.encode name)

/-- The value of a name, if it is text. -/
def getText? (env : Environment) (name : String) : Option String :=
  (env.get? name).bind fun value => (Text.Utf8.decode value).toOption

def ofTexts (bindings : List (String × String)) : Environment :=
  bindings.map fun (name, value) => joinEntry (Text.Utf8.encode name, Text.Utf8.encode value)

end Environment

end BpfBoot
