import BpfBoot.Proofs.Json5.Reading
import BpfBoot.Proofs.Settings.Merging

/-!
# What a configuration says

A document may hold any part of the settings, in any order. What it says is taken key by key: each setting is
what stands under its key, or else the standard setting, and no setting hangs on the key of another one.
-/

namespace BpfBoot

namespace Json5.Item

def get? (item : Item) (key : String) : Option Item :=
  match item with
  | .object members => members.lookup key
  | _ => none

def flag? : Item → Option Bool
  | .flag b => some b
  | _ => none

def text? : Item → Option String
  | .text s => some s
  | _ => none

def number? : Item → Option Nat
  | .number n => some n
  | _ => none

def items? : Item → Option (List Item)
  | .list items => some items
  | _ => none

end Json5.Item

namespace Settings

open Json5 Number

/-! ## Which documents are configurations -/

/-- What may stand at a place of a configuration. -/
inductive Kind where
  | flag
  | text
  | number (bound : Nat)
  | list (each : Kind)
  /-- An object with some of the fields, and with all of the needed ones. -/
  | object (needed : List String) (fields : List (String × Kind))

inductive Fits : Kind → Item → Prop where
  | flag {b : Bool} : Fits .flag (.flag b)
  | text {s : String} : Fits .text (.text s)
  | number {bound n : Nat} (h : n < bound) : Fits (.number bound) (.number n)
  | list {each : Kind} {items : List Item} (h : ∀ item ∈ items, Fits each item) :
      Fits (.list each) (.list items)
  | object {needed : List String} {fields : List (String × Kind)} {members : List (String × Item)}
      (hkeys : (members.map Prod.fst).Nodup) (hneeded : ∀ key ∈ needed, key ∈ members.map Prod.fst)
      (hknown : ∀ key ∈ members.map Prod.fst, key ∈ fields.map Prod.fst)
      (h : ∀ key kind item, fields.lookup key = some kind → members.lookup key = some item → Fits kind item) :
      Fits (.object needed fields) (.object members)

def logFields : List (String × Kind) :=
  [("enable", .flag), ("target", .text), ("directory", .text), ("prefix", .text), ("rotation", .text),
   ("max_files", .number numberBound), ("format", .text)]

def logsFields : List (String × Kind) :=
  [("default", .object [] logFields), ("errors", .object ["enable", "target"] logFields)]

def locationFields : List (String × Kind) :=
  [("dir", .text), ("prefix", .text)]

def loaderFields : List (String × Kind) :=
  [("bpffs_root", .text), ("platform_loader", .text), ("hand_off", .text),
   ("unprivileged_bpf_required_from", .text), ("critical_failure_delay_secs", .number numberBound),
   ("gsi_warning_delay_secs", .number numberBound),
   ("locations", .list (.object ["dir", "prefix"] locationFields))]

def deviceFields : List (String × Kind) :=
  [("api_level", .number Tree.halfWordBound), ("build_type", .text)]

def settingsFields : List (String × Kind) :=
  [("logs", .object [] logsFields), ("loader", .object [] loaderFields), ("device", .object [] deviceFields)]

/-- A configuration: any of the sections, with any of their keys. -/
def IsConfiguration (doc : Item) : Prop :=
  Fits (.object [] settingsFields) doc

/-! ## What they say -/

/-- What a part of a document says under a key. -/
def said (part : Option Item) (key : String) : Option Item :=
  part.bind (·.get? key)

def logEntrySaid (standard : LogEntry) (entry : Option Item) : LogEntry where
  enable := ((said entry "enable").bind Item.flag?).getD standard.enable
  target := ((said entry "target").bind Item.text?).getD standard.target
  directory := ((said entry "directory").bind Item.text?).or standard.directory
  fileName := ((said entry "prefix").bind Item.text?).or standard.fileName
  rotation := ((said entry "rotation").bind Item.text?).or standard.rotation
  maxFiles := ((said entry "max_files").bind Item.number?).or standard.maxFiles
  format := ((said entry "format").bind Item.text?).or standard.format

def locationSaid? (item : Item) : Option Location := do
  return ⟨← (← item.get? "dir").text?, ← (← item.get? "prefix").text?⟩

/-- The list of locations, in the order of the document. -/
def locationsSaid? (item : Item) : Option (List Location) := do
  (← item.items?).mapM locationSaid?

def loaderSaid (standard : LoaderSettings) (part : Option Item) : LoaderSettings where
  pinRoot := ((said part "bpffs_root").bind Item.text?).getD standard.pinRoot
  platformLoader := ((said part "platform_loader").bind Item.text?).getD standard.platformLoader
  handOff := ((said part "hand_off").bind Item.text?).getD standard.handOff
  unprivilegedRequiredFrom :=
    ((said part "unprivileged_bpf_required_from").bind Item.text?).getD standard.unprivilegedRequiredFrom
  criticalFailureDelay :=
    ((said part "critical_failure_delay_secs").bind Item.number?).getD standard.criticalFailureDelay
  gsiWarningDelay := ((said part "gsi_warning_delay_secs").bind Item.number?).getD standard.gsiWarningDelay
  locationList := ((said part "locations").bind locationsSaid?).or standard.locationList

def deviceSaid (standard : DeviceOverrides) (part : Option Item) : DeviceOverrides where
  apiLevel := ((said part "api_level").bind Item.number?).or standard.apiLevel
  buildType := ((said part "build_type").bind Item.text?).or standard.buildType

/-- An entry of the logs that has no standard settings. -/
def unset : LogEntry := ⟨false, "", none, none, none, none, none⟩

/-- The settings that a document says, each under its own key. -/
def saidBy (doc : Item) : Settings where
  logs :=
    { default := logEntrySaid standard.logs.default (said (said (some doc) "logs") "default")
      errors := ((said (said (some doc) "logs") "errors").map fun entry => logEntrySaid unset (some entry)).or
        standard.logs.errors }
  loader := loaderSaid standard.loader (said (some doc) "loader")
  device := deviceSaid standard.device (said (some doc) "device")

/-! ## Reading what stands for an item -/

/-- The tree of a value that stands for the item. -/
def Shows (t : Tree) (item : Item) : Prop :=
  ∃ v, StandsFor v item ∧ t = Tree.ofValue v

section

variable {t : Tree} {p : Place}

theorem boolean_of_shows {b : Bool} (h : Shows t (.flag b)) : t.boolean p = .ok b := by
  obtain ⟨v, hstand, rfl⟩ := h
  cases hstand
  rw [Tree.ofValue]
  rfl

theorem text_of_shows {s : String} (h : Shows t (.text s)) : t.text p = .ok s := by
  obtain ⟨v, hstand, rfl⟩ := h
  cases hstand
  rw [Tree.ofValue]
  rfl

theorem natural_of_shows {n : Nat} (hn : n < Tree.wordBound) (h : Shows t (.number n)) :
    t.natural p = .ok n := by
  obtain ⟨v, hstand, rfl⟩ := h
  cases hstand with
  | number hnatural =>
    cases hnatural with
    | integer =>
      rw [Tree.ofValue]
      rfl
    | @float x hwhole =>
      rw [Tree.ofValue]
      change Except.ok (x.clamp (Tree.wordBound - 1)) = _
      rw [hwhole.clamp (Nat.le_sub_one_of_lt hn)]

theorem smallNatural_of_shows {n : Nat} (hn : n < Tree.halfWordBound) (h : Shows t (.number n)) :
    t.smallNatural p = .ok n := by
  have hword : n < Tree.wordBound := hn.trans (by decide)
  rw [Tree.smallNatural, natural_of_shows hword h]
  exact if_pos hn

/-- What stands for an item is never nothing. -/
theorem optional_of_shows {α : Type} {read : Place → Tree → Result α} {item : Item} {a : α}
    (h : Shows t item) (hread : read p t = .ok a) : Tree.optional read p t = .ok (some a) := by
  have hnull : ∀ fromFile, t ≠ .scalar fromFile .null := by
    obtain ⟨v, hstand, rfl⟩ := h
    cases hstand with
    | number hnatural => cases hnatural <;> simp [Tree.ofValue]
    | _ => simp [Tree.ofValue]
  unfold Tree.optional
  split
  next fromFile => exact absurd rfl (hnull fromFile)
  next => rw [hread]; rfl

end

end Settings

end BpfBoot
