import BpfBoot.Number.Shortest
import BpfBoot.Settings
import BpfBoot.Settings.Error
import BpfBoot.Settings.Tree

/-!
# Reading settings from a tree

A setting may be written as any scalar that can stand for one of its kind: numbers and words for a yes
or no, a number or a yes or no for a text, and so on. A record is a table of its fields, or an array of
them in order; unknown entries of a table are ignored.
-/

namespace BpfBoot.Settings

abbrev Result := Except SettingsError

/-- Where a setting stands: the file that the settings were read from, and the key. -/
structure Place where
  file : String
  key : String
  deriving DecidableEq, Repr

namespace Place

def entry (p : Place) (name : String) : Place :=
  { p with key := if p.key.isEmpty then name else p.key ++ "." ++ name }

def element (p : Place) (index : Nat) : Place :=
  { p with key := p.key ++ "[" ++ Text.decimal index ++ "]" }

end Place

namespace Tree

/-- Whether a part of a tree stands in a file as it is. -/
def isFromFile : Tree → Bool
  | .scalar fromFile _ | .array fromFile _ | .table fromFile _ => fromFile

/-- What a setting is, in the refusal of a scalar. -/
def scalarKind : Tree → String
  | .scalar _ .null => "unit value"
  | .scalar _ (.boolean b) => "boolean `" ++ (if b then "true" else "false") ++ "`"
  | .scalar _ (.integer i) => "64-bit integer `" ++ Text.signedDecimal i ++ "`"
  | .scalar _ (.float x) => "floating point `" ++ x.display ++ "`"
  | .scalar _ (.string s) => "string " ++ Text.quoted s
  | .array .. => "sequence"
  | .table .. => "map"

/-- What a setting is, in the refusal of a record or of a list. -/
def recordKind : Tree → String
  | .scalar _ (.integer i) => "integer `" ++ Text.signedDecimal i ++ "`"
  | .scalar _ (.float x) => "floating point `" ++ x.displayWithPoint ++ "`"
  | t => t.scalarKind

/-- Refuses a setting that is shown as `found`. -/
def refuseAs {α : Type} (t : Tree) (found : String) (p : Place) (expected : String) : Result α :=
  .error (.wrongType found expected p.key (if t.isFromFile then some p.file else none))

/-- Refuses a setting that should be a scalar of another kind. -/
def refuse {α : Type} (t : Tree) (p : Place) (expected : String) : Result α :=
  t.refuseAs t.scalarKind p expected

def yesWords : List String := ["true", "on", "yes"]

def noWords : List String := ["false", "off", "no"]

def boolean (p : Place) (t : Tree) : Result Bool :=
  match t with
  | .scalar _ (.boolean b) => .ok b
  | .scalar _ (.integer i) => .ok (i != 0)
  | .scalar _ (.float x) => .ok (!x.isZero)
  | .scalar _ (.string s) =>
      let word := Text.lower s
      if yesWords.contains word || word == "1" then .ok true
      else if noWords.contains word || word == "0" then .ok false
      else t.refuseAs ("string " ++ Text.quoted word) p "a boolean"
  | _ => t.refuse p "a boolean"

def text (p : Place) (t : Tree) : Result String :=
  match t with
  | .scalar _ (.string s) => .ok s
  | .scalar _ (.boolean b) => .ok (if b then "true" else "false")
  | .scalar _ (.integer i) => .ok (Text.signedDecimal i)
  | .scalar _ (.float x) => .ok x.display
  | _ => t.refuse p "a string"

/-- The bound on natural numbers. -/
def wordBound : Nat := 0x10000000000000000

/-- Reads a natural number of 64 bits. -/
def natural (p : Place) (t : Tree) : Result Nat :=
  match t with
  | .scalar _ (.integer (.ofNat n)) => .ok n
  | .scalar _ (.integer (.negSucc _)) => t.refuse p "an unsigned 64 bit or less integer"
  | .scalar _ (.float x) => .ok (x.clamp (wordBound - 1))
  | .scalar _ (.boolean b) => .ok (if b then 1 else 0)
  | .scalar _ (.string s) =>
      let word := Text.lower s
      if yesWords.contains word then .ok 1
      else if noWords.contains word then .ok 0
      else
        match Text.natBelow? wordBound s.toList with
        | some n => .ok n
        | none => t.refuse p "an integer"
  | _ => t.refuse p "an integer"

/-- The bound on natural numbers of 32 bits. -/
def halfWordBound : Nat := 0x100000000

/-- Reads a natural number of 32 bits. -/
def smallNatural (p : Place) (t : Tree) : Result Nat := do
  let n ← t.natural p
  if n < halfWordBound then return n
  throw (.wrongType ("64-bit unsigned integer `" ++ Text.decimal n ++ "`")
    "an unsigned 32 bit integer" p.key none)

def optional {α : Type} (read : Place → Tree → Result α) (p : Place) (t : Tree) :
    Result (Option α) :=
  match t with
  | .scalar _ .null => .ok none
  | _ => return some (← read p t)

/-- Reads the elements of an array from an index on. -/
def elementsFrom {α : Type} (read : Place → Tree → Result α) (p : Place) (index : Nat) :
    List Tree → Result (List α)
  | [] => .ok []
  | t :: rest => return (← read (p.element index) t) :: (← elementsFrom read p (index + 1) rest)

def list {α : Type} (read : Place → Tree → Result α) (p : Place) (t : Tree) : Result (List α) :=
  match t with
  | .array _ elements => elementsFrom read p 0 elements
  | _ => .error (.other ("invalid type: " ++ t.recordKind ++ ", expected a sequence"))

end Tree

/-- What a record is read from. -/
structure Record where
  /-- The name of the record in messages, and the number of its fields. -/
  name : String
  size : Nat
  place : Place
  tree : Tree

namespace Record

/-- The record in a tree: a table or an array. -/
def ofTree (name : String) (size : Nat) (place : Place) (tree : Tree) : Result Record :=
  match tree with
  | .table .. | .array .. => .ok ⟨name, size, place, tree⟩
  | _ => .error (.other ("invalid type: " ++ tree.recordKind ++ ", expected struct " ++ name))

/-- Reads a field, if the record has it. -/
def field? {α : Type} (r : Record) (index : Nat) (name : String)
    (read : Place → Tree → Result α) : Result (Option α) :=
  match r.tree with
  | .table _ entries =>
      match entries.lookup name with
      | some t => return some (← read (r.place.entry name) t)
      | none => .ok none
  | .array _ elements =>
      match elements[index]? with
      | some t => return some (← read (r.place.element index) t)
      | none => .ok none
  | .scalar .. => .ok none

/-- The number of fields that the record has, if it is an array that lacks some. -/
def shortLength? (r : Record) : Option Nat :=
  match r.tree with
  | .array _ elements => if elements.length < r.size then some elements.length else none
  | _ => none

/-- The refusal of an array that lacks fields. -/
def tooShort {α : Type} (r : Record) (length : Nat) : Result α :=
  .error (.other ("invalid length " ++ Text.decimal length ++ ", expected struct " ++ r.name
    ++ " with " ++ Text.decimal r.size ++ " elements"))

/-- An array must have all fields. -/
def demandAll (r : Record) : Result Unit :=
  match r.shortLength? with
  | some length => r.tooShort length
  | none => .ok ()

/-- A field that must be there. -/
def required {α : Type} (name : String) : Option α → Result α
  | some a => .ok a
  | none => .error (.other ("missing field `" ++ name ++ "`"))

end Record

def logEntry (p : Place) (t : Tree) : Result LogEntry := do
  let r ← Record.ofTree "LogEntry" 7 p t
  let enable ← r.field? 0 "enable" Tree.boolean
  let target ← r.field? 1 "target" Tree.text
  let directory ← r.field? 2 "directory" (Tree.optional Tree.text)
  let fileName ← r.field? 3 "prefix" (Tree.optional Tree.text)
  let rotation ← r.field? 4 "rotation" (Tree.optional Tree.text)
  let maxFiles ← r.field? 5 "max_files" (Tree.optional Tree.natural)
  let format ← r.field? 6 "format" (Tree.optional Tree.text)
  r.demandAll
  return {
    enable := ← Record.required "enable" enable
    target := ← Record.required "target" target
    directory := directory.join
    fileName := fileName.join
    rotation := rotation.join
    maxFiles := maxFiles.join
    format := format.join }

def logsConfig (p : Place) (t : Tree) : Result LogsConfig := do
  let r ← Record.ofTree "LogsConfig" 2 p t
  let default ← r.field? 0 "default" logEntry
  let errors ← r.field? 1 "errors" (Tree.optional logEntry)
  r.demandAll
  return { default := ← Record.required "default" default, errors := errors.join }

def location (p : Place) (t : Tree) : Result Location := do
  let r ← Record.ofTree "LocationEntry" 2 p t
  let dir ← r.field? 0 "dir" Tree.text
  let pinSubdir ← r.field? 1 "prefix" Tree.text
  r.demandAll
  return { dir := ← Record.required "dir" dir, pinSubdir := ← Record.required "prefix" pinSubdir }

def loaderSettings (p : Place) (t : Tree) : Result LoaderSettings := do
  let r ← Record.ofTree "LoaderSettings" 7 p t
  let pinRoot ← r.field? 0 "bpffs_root" Tree.text
  let platformLoader ← r.field? 1 "platform_loader" Tree.text
  let handOff ← r.field? 2 "hand_off" Tree.text
  let requiredFrom ← r.field? 3 "unprivileged_bpf_required_from" Tree.text
  let criticalFailureDelay ← r.field? 4 "critical_failure_delay_secs" Tree.natural
  let gsiWarningDelay ← r.field? 5 "gsi_warning_delay_secs" Tree.natural
  let locations ← r.field? 6 "locations" (Tree.optional (Tree.list location))
  r.demandAll
  return {
    pinRoot := ← Record.required "bpffs_root" pinRoot
    platformLoader := ← Record.required "platform_loader" platformLoader
    handOff := ← Record.required "hand_off" handOff
    unprivilegedRequiredFrom :=
      ← Record.required "unprivileged_bpf_required_from" requiredFrom
    criticalFailureDelay := ← Record.required "critical_failure_delay_secs" criticalFailureDelay
    gsiWarningDelay := ← Record.required "gsi_warning_delay_secs" gsiWarningDelay
    locationList := locations.join }

def deviceOverrides (p : Place) (t : Tree) : Result DeviceOverrides := do
  let r ← Record.ofTree "DeviceOverrides" 2 p t
  let apiLevel ← r.field? 0 "api_level" (Tree.optional Tree.smallNatural)
  let buildType ← r.field? 1 "build_type" (Tree.optional Tree.text)
  return { apiLevel := apiLevel.join, buildType := buildType.join }

def ofTree (file : String) (t : Tree) : Result Settings := do
  let r ← Record.ofTree "LoaderConfig" 3 ⟨file, ""⟩ t
  let logs ← r.field? 0 "logs" logsConfig
  let loader ← r.field? 1 "loader" loaderSettings
  let device ← r.field? 2 "device" deviceOverrides
  return {
    logs := logs.getD standard.logs
    loader := loader.getD standard.loader
    device := device.getD standard.device }

end BpfBoot.Settings
