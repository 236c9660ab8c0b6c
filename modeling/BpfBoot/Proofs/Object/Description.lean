import Mathlib.Control.Monad.Basic
import BpfBoot.Proofs.Object.Criticality
import BpfBoot.Proofs.Text.Utf8

/-!
# What an accepted object says about itself

Four names of sections mean something to the loader, and for each of them the first section with that name
counts. What an object says is a function of the data found under these names alone, so it depends neither on
the other sections nor on the format of the file.
-/

namespace BpfBoot.Object

open Elf Text

/-! ## The first section with a name -/

def FirstNamed (sections : List Section) (name : Bytes) (s : Section) : Prop :=
  s.name? = some name
    ∧ ∃ before after, sections = before ++ s :: after ∧ ∀ x ∈ before, x.name? ≠ some name

variable {file : File} {name : Bytes} {s : Section}

theorem sectionNamed?_eq_some_iff : file.sectionNamed? name = some s ↔ FirstNamed file.sections name s := by
  simp only [File.sectionNamed?, List.find?_eq_some_iff_append, FirstNamed, beq_iff_eq,
    Bool.not_eq_true', beq_eq_false_iff_ne]

/-- What is found under a name; the data of the section may lie outside the file. -/
def dataNamed? (file : File) (name : Bytes) : Option (Except ElfError Bytes) :=
  (file.sectionNamed? name).map file.data

theorem dataNamed?_eq_some_iff {found : Except ElfError Bytes} :
    dataNamed? file name = some found ↔ ∃ s, FirstNamed file.sections name s ∧ file.data s = found := by
  simp only [dataNamed?, Option.map_eq_some_iff, sectionNamed?_eq_some_iff]

theorem isSome_dataNamed?_iff :
    (dataNamed? file name).isSome = true ↔ ∃ s ∈ file.sections, s.name? = some name := by
  rw [dataNamed?, Option.isSome_map, isSome_sectionNamed?_iff]

/-! ## What is read from the data -/

def versionFrom (default : Nat) : Option (Except ElfError Bytes) → Nat
  | some (.ok data) => data.readU32?.getD default
  | _ => default

def licenseFrom : Option (Except ElfError Bytes) → Except ElfError String
  | none => .ok ""
  | some (.error e) => .error e
  | some (.ok data) => .ok (((Utf8.decodeUpToNul data).toOption).getD "")

theorem versionIn_eq (file : File) (name : Bytes) (default : Nat) :
    ObjectInfo.versionIn file name default = versionFrom default (dataNamed? file name) := by
  unfold ObjectInfo.versionIn dataNamed? versionFrom
  cases file.sectionNamed? name with
  | none => rfl
  | some s => cases hdata : file.data s <;> simp [hdata]

theorem licenseIn_eq (file : File) :
    ObjectInfo.licenseIn file = licenseFrom (dataNamed? file ObjectInfo.licenseSection) := by
  unfold ObjectInfo.licenseIn dataNamed? licenseFrom
  cases file.sectionNamed? ObjectInfo.licenseSection with
  | none => rfl
  | some s =>
    cases hdata : file.data s with
    | error e => simp [hdata, bind, Except.bind]
    | ok data =>
      cases htext : Utf8.decodeUpToNul data <;>
        simp [hdata, htext, bind, Except.bind, Except.toOption, pure, Except.pure]

/-- The four fields, each from what is found under its name. -/
theorem ofFile_eq (file : File) :
    ObjectInfo.ofFile file = (licenseFrom (dataNamed? file ObjectInfo.licenseSection)).map fun license =>
      { critical := (dataNamed? file ObjectInfo.criticalSection).isSome
        minVersion := versionFrom 0 (dataNamed? file ObjectInfo.minVersionSection)
        maxVersion := versionFrom 0x10000 (dataNamed? file ObjectInfo.maxVersionSection)
        license } := by
  rw [ObjectInfo.ofFile, licenseIn_eq, versionIn_eq, versionIn_eq]
  simp only [dataNamed?, Option.isSome_map]
  cases licenseFrom ((file.sectionNamed? ObjectInfo.licenseSection).map file.data) <;> rfl

theorem readU32?_of_four (b₀ b₁ b₂ b₃ : UInt8) (rest : Bytes) :
    Bytes.readU32? (b₀ :: b₁ :: b₂ :: b₃ :: rest)
      = some (b₀.toNat + 0x100 * b₁.toNat + 0x10000 * b₂.toNat + 0x1000000 * b₃.toNat) := by
  have hlength : 4 ≤ (b₀ :: b₁ :: b₂ :: b₃ :: rest).length := by simp
  rw [Bytes.readU32?, if_pos hlength]
  simp only [List.take_succ_cons, List.take_zero, Bytes.toNatLE, Option.some.injEq]
  omega

theorem readU32?_of_short {data : Bytes} (h : data.length < 4) : data.readU32? = none :=
  if_neg (by omega)

/-! ## The sections for the loader -/

def loaderNames : List Bytes :=
  ["critical", "bpfloader_min_ver", "bpfloader_max_ver", "license"].map Utf8.encode

/-- The sections with one of these names in file order, with what can be read from them. -/
def loaderSections (file : File) : List (Option Bytes × Except ElfError Bytes) :=
  (file.sections.filter fun s => loaderNames.any fun name => s.name? == some name).map
    fun s => (s.name?, file.data s)

theorem dataNamed?_eq_of_mem (file : File) (hname : name ∈ loaderNames) :
    dataNamed? file name = ((loaderSections file).find? (·.1 == some name)).map (·.2) := by
  have htest : ∀ s : Section,
      decide ((loaderNames.any fun other => s.name? == some other) = true ∧ (s.name? == some name) = true)
        = (s.name? == some name) := by
    intro s
    by_cases hs : s.name? = some name
    · simpa [hs] using hname
    · simp [hs]
  rw [loaderSections, List.find?_map, List.find?_filter, Option.map_map, dataNamed?, File.sectionNamed?]
  simp only [Function.comp_def, htest]

theorem ofFile_congr {file file' : File} (h : loaderSections file' = loaderSections file) :
    ObjectInfo.ofFile file' = ObjectInfo.ofFile file := by
  have hfound : ∀ name ∈ loaderNames, dataNamed? file' name = dataNamed? file name := by
    intro name hname
    rw [dataNamed?_eq_of_mem file' hname, dataNamed?_eq_of_mem file hname, h]
  have hlicense := hfound ObjectInfo.licenseSection (by decide)
  have hcritical := hfound ObjectInfo.criticalSection (by decide)
  have hmin := hfound ObjectInfo.minVersionSection (by decide)
  have hmax := hfound ObjectInfo.maxVersionSection (by decide)
  rw [ofFile_eq, ofFile_eq, hlicense, hcritical, hmin, hmax]

/-! ## What an object says -/

/-- The version is written in little-endian order in the first section with the name, whatever the format of the
file is. -/
structure SaysVersion (file : File) (name : Bytes) (default version : Nat) : Prop where
  written : ∀ s b₀ b₁ b₂ b₃ rest, FirstNamed file.sections name s →
    file.data s = .ok (b₀ :: b₁ :: b₂ :: b₃ :: rest) →
      version = b₀.toNat + 0x100 * b₁.toNat + 0x10000 * b₂.toNat + 0x1000000 * b₃.toNat
  missing : (∀ s data, FirstNamed file.sections name s → file.data s = .ok data → data.length < 4) →
    version = default

structure SaysLicense (file : File) (license : String) : Prop where
  written : ∀ s data text, FirstNamed file.sections (Utf8.encode "license") s →
    file.data s = .ok data → Utf8.encode text = data.upToNul → license = text
  missing : (∀ s data text, FirstNamed file.sections (Utf8.encode "license") s →
    file.data s = .ok data → Utf8.encode text ≠ data.upToNul) → license = ""

structure Says (file : File) (info : ObjectInfo) : Prop where
  critical : info.critical = true ↔ ∃ s ∈ file.sections, s.name? = some (Utf8.encode "critical")
  minVersion : SaysVersion file (Utf8.encode "bpfloader_min_ver") 0 info.minVersion
  maxVersion : SaysVersion file (Utf8.encode "bpfloader_max_ver") 0x10000 info.maxVersion
  license : SaysLicense file info.license

/-- What becomes of the bytes of an accepted file. -/
structure Describes (bytes : Bytes) (file : File) : Prop where
  unreadable : ∀ s e, FirstNamed file.sections (Utf8.encode "license") s → file.data s = .error e →
    ObjectInfo.parse bytes = .error e
  readable : (∀ s, FirstNamed file.sections (Utf8.encode "license") s → ∃ data, file.data s = .ok data) →
    ∃ info, ObjectInfo.parse bytes = .ok info ∧ Says file info
  otherSections : ∀ bytes' file', File.parse bytes' = .ok file' →
    loaderSections file' = loaderSections file → ObjectInfo.parse bytes' = ObjectInfo.parse bytes

theorem dataNamed?_of_firstNamed (h : FirstNamed file.sections name s) :
    dataNamed? file name = some (file.data s) :=
  dataNamed?_eq_some_iff.mpr ⟨s, h, rfl⟩

theorem saysVersion_versionFrom (file : File) (name : Bytes) (default : Nat) :
    SaysVersion file name default (versionFrom default (dataNamed? file name)) where
  written s b₀ b₁ b₂ b₃ rest hfirst hdata := by
    rw [dataNamed?_of_firstNamed hfirst, hdata, versionFrom, readU32?_of_four]
    rfl
  missing hshort := by
    cases hfound : dataNamed? file name with
    | none => rfl
    | some found =>
      obtain ⟨s, hfirst, hdata⟩ := dataNamed?_eq_some_iff.mp hfound
      cases found with
      | error e => rfl
      | ok data =>
        rw [versionFrom, readU32?_of_short (hshort s data hfirst hdata)]
        rfl

theorem toOption_decodeUpToNul_eq_some_iff {data : Bytes} {text : String} :
    (Utf8.decodeUpToNul data).toOption = some text ↔ Utf8.encode text = data.upToNul := by
  rw [Utf8.decodeUpToNul, ← Utf8.decode_eq_ok_iff]
  cases Utf8.decode data.upToNul <;> simp [Except.toOption]

theorem saysLicense_of_licenseFrom {license : String}
    (h : licenseFrom (dataNamed? file (Utf8.encode "license")) = .ok license) :
    SaysLicense file license where
  written s data text hfirst hdata htext := by
    rw [dataNamed?_of_firstNamed hfirst, hdata, licenseFrom,
      toOption_decodeUpToNul_eq_some_iff.mpr htext] at h
    exact (Except.ok.inj h).symm
  missing hnone := by
    cases hfound : dataNamed? file (Utf8.encode "license") with
    | none =>
      rw [hfound] at h
      exact (Except.ok.inj h).symm
    | some found =>
      obtain ⟨s, hfirst, hdata⟩ := dataNamed?_eq_some_iff.mp hfound
      cases found with
      | error e =>
        rw [hfound] at h
        cases h
      | ok data =>
        have hno : (Utf8.decodeUpToNul data).toOption = none := by
          refine Option.eq_none_iff_forall_ne_some.mpr fun text htext => ?_
          exact hnone s data text hfirst hdata (toOption_decodeUpToNul_eq_some_iff.mp htext)
        rw [hfound, licenseFrom, hno] at h
        exact (Except.ok.inj h).symm

theorem parse_eq_ofFile {bytes : Bytes} (h : File.parse bytes = .ok file) :
    ObjectInfo.parse bytes = ObjectInfo.ofFile file := by
  rw [ObjectInfo.parse, h]
  rfl

/-- An accepted object says what the first sections with the four names hold, and nothing else matters. -/
theorem parse_describes {bytes : Bytes} {file : File} (h : File.parse bytes = .ok file) :
    Describes bytes file where
  unreadable s e hfirst hdata := by
    have hfound : dataNamed? file ObjectInfo.licenseSection = some (.error e) :=
      (dataNamed?_of_firstNamed hfirst).trans (congrArg some hdata)
    rw [parse_eq_ofFile h, ofFile_eq, hfound]
    rfl
  readable hlicense := by
    have hread : ∃ license, licenseFrom (dataNamed? file ObjectInfo.licenseSection) = .ok license := by
      cases hfound : dataNamed? file ObjectInfo.licenseSection with
      | none => exact ⟨"", rfl⟩
      | some found =>
        obtain ⟨s, hfirst, rfl⟩ := dataNamed?_eq_some_iff.mp hfound
        obtain ⟨data, hdata⟩ := hlicense s hfirst
        exact ⟨_, congrArg (fun found => licenseFrom (some found)) hdata⟩
    obtain ⟨license, hread⟩ := hread
    rw [parse_eq_ofFile h, ofFile_eq, hread]
    exact ⟨_, rfl,
      { critical := isSome_dataNamed?_iff
        minVersion := saysVersion_versionFrom file _ _
        maxVersion := saysVersion_versionFrom file _ _
        license := saysLicense_of_licenseFrom hread }⟩
  otherSections bytes' file' h' hsame := by
    rw [parse_eq_ofFile h, parse_eq_ofFile h', ofFile_congr hsame]

/-! ## A big-endian object -/

def bytesBE (count n : Nat) : Bytes :=
  (Bytes.ofNatLE count n).reverse

/-- A section header of a big-endian 64-bit file. -/
def sectionRecordBE (name type offset size : Nat) : Bytes :=
  [name, type].flatMap (bytesBE 4) ++ [0, 0, offset, size].flatMap (bytesBE 8)
    ++ [0, 0].flatMap (bytesBE 4) ++ [1, 0].flatMap (bytesBE 8)

/-- The names of the sections `.shstrtab`, `bpfloader_min_ver` and `license`, and their data: two versions, and a
license with something behind it that is no text. -/
def describedContents : Bytes :=
  Utf8.encode "\x00.shstrtab\x00bpfloader_min_ver\x00license\x00" ++ [0, 0, 0]
    ++ [46, 0, 0, 0] ++ [47, 0, 0, 0] ++ Utf8.encode "GPL" ++ [0, 0xff, 0xff, 0xff, 0xff]

/-- An object with the minimal version twice, and with other sections before these. -/
def describedObject (others : List Bytes) : Bytes :=
  magic ++ [2, 2, 1] ++ List.replicate 9 0 ++ [1, 247].flatMap (bytesBE 2)
    ++ bytesBE 4 1 ++ [0, 0, 120].flatMap (bytesBE 8) ++ bytesBE 4 0
    ++ [64, 0, 0, 64, 5 + others.length, 1].flatMap (bytesBE 2) ++ describedContents
    ++ sectionRecordBE 0 0 0 0 ++ sectionRecordBE 1 3 64 40 ++ others.flatten
    ++ sectionRecordBE 11 1 104 4 ++ sectionRecordBE 11 1 108 4 ++ sectionRecordBE 29 1 112 8

theorem parse_describes_big_endian :
    ∃ file file', File.parse (describedObject []) = .ok file
      ∧ File.parse (describedObject [sectionRecordBE 1 1 64 4]) = .ok file'
      ∧ file.format.bigEndian = true ∧ file'.sections.length = file.sections.length + 1
      ∧ ObjectInfo.parse (describedObject [sectionRecordBE 1 1 64 4]) = .ok ⟨false, 46, 0x10000, "GPL"⟩ := by
  have hfiles : (do
      let file ← File.parse (describedObject [])
      let file' ← File.parse (describedObject [sectionRecordBE 1 1 64 4])
      return file.format.bigEndian && file'.sections.length == file.sections.length + 1
        && loaderSections file' == loaderSections file) = .ok true := by
    decide +kernel
  have hinfo : ObjectInfo.parse (describedObject []) = .ok ⟨false, 46, 0x10000, "GPL"⟩ := by
    decide +kernel
  cases hparse : File.parse (describedObject []) with
  | error e =>
    rw [hparse] at hfiles
    cases hfiles
  | ok file =>
    cases hparse' : File.parse (describedObject [sectionRecordBE 1 1 64 4]) with
    | error e =>
      rw [hparse, hparse'] at hfiles
      cases hfiles
    | ok file' =>
      rw [hparse, hparse'] at hfiles
      have hchecks := Except.ok.inj hfiles
      simp only [Bool.and_eq_true, beq_iff_eq] at hchecks
      obtain ⟨⟨hbig, hmore⟩, hsame⟩ := hchecks
      exact ⟨file, file', rfl, rfl, hbig, hmore,
        ((parse_describes hparse).otherSections _ file' hparse' hsame).trans hinfo⟩

end BpfBoot.Object
