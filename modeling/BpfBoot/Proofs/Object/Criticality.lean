import BpfBoot.Bpf.Model
import BpfBoot.Object.Loader
import BpfBoot.Proofs.Log.Session

/-!
# Which objects are critical

An object is critical if its file has a section that says so, and an object that cannot be loaded is meant
to be known as critical all the same. There is one gap. The license is read together with the section, and
a license section that lies outside the file makes the whole of what the object says about itself
unreadable, so that the object counts as one that the system can do without. Nothing else in a file that
can be read makes a difference.
-/

namespace BpfBoot

open Log

namespace Elf

/-- An accepted file keeps the bytes that it was read from. -/
theorem File.bytes_of_parse {bytes : Bytes} {file : File} (h : File.parse bytes = .ok file) :
    file.bytes = bytes := by
  have hbind {ε α β : Type} {x : Except ε α} {f : α → Except ε β} {r : β}
      (h : (x >>= f) = .ok r) : ∃ a, f a = .ok r := by
    cases x with
    | error e => cases h
    | ok a => exact ⟨a, h⟩
  obtain ⟨⟨format, header⟩, h⟩ := hbind h
  obtain ⟨_, h⟩ := hbind h
  obtain ⟨headers, h⟩ := hbind h
  obtain ⟨names, h⟩ := hbind h
  obtain ⟨⟨symbolTable, symbols⟩, h⟩ := hbind h
  obtain ⟨_, h⟩ := hbind h
  obtain ⟨_, h⟩ := hbind h
  cases h
  rfl

/-- The section has no bytes in the file, or all of them lie within it. -/
def Section.IsWithin (s : Section) (bytes : Bytes) : Prop :=
  s.header.type = noBitsType ∨ s.header.offset + s.header.size ≤ bytes.length

instance (s : Section) (bytes : Bytes) : Decidable (s.IsWithin bytes) :=
  inferInstanceAs (Decidable (_ ∨ _))

theorem File.data_ok_iff (file : File) (s : Section) :
    (∃ data, file.data s = .ok data) ↔ s.IsWithin file.bytes := by
  unfold File.data sectionBytes Section.IsWithin Bytes.slice?
  by_cases htype : s.header.type = noBitsType
  · simp [htype]
  · by_cases hrange : s.header.offset + s.header.size ≤ file.bytes.length
    · simp [htype, hrange, orThrow]
    · simp [htype, hrange, orThrow]

theorem File.data_of_not_isWithin {file : File} {s : Section} (h : ¬ s.IsWithin file.bytes) :
    file.data s = .error .badSectionData := by
  unfold Section.IsWithin at h
  rw [not_or] at h
  rw [File.data, sectionBytes, if_neg h.1, Bytes.slice?, if_neg h.2]
  rfl

end Elf

namespace Object

open Elf

variable {σ : Type} (host : Host σ) (root p : Path) (version : LoaderVersion) (location : Location)

/-- Whatever becomes of the object itself, the criticality is passed on. -/
theorem critical_loadFile (pinDir : Path) (file : File) (info : ObjectInfo) (s : Session σ) :
    ((loadFile host pinDir p version file info).on s).1.critical = info.critical := by
  unfold loadFile
  split <;> rfl

/-- A license that cannot be read makes all the rest unreadable. -/
theorem ofFile_of_not_isWithin {file : File} {s : Section}
    (hlicense : file.sectionNamed? ObjectInfo.licenseSection = some s)
    (h : ¬ s.IsWithin file.bytes) : ObjectInfo.ofFile file = .error .badSectionData := by
  unfold ObjectInfo.ofFile ObjectInfo.licenseIn
  rw [hlicense]
  simp only
  rw [File.data_of_not_isWithin h]
  rfl

/-- Otherwise everything can be read. -/
theorem ofFile_of_isWithin {file : File}
    (h : ∀ s, file.sectionNamed? ObjectInfo.licenseSection = some s → s.IsWithin file.bytes) :
    ∃ info, ObjectInfo.ofFile file = .ok info
      ∧ info.critical = (file.sectionNamed? ObjectInfo.criticalSection).isSome := by
  have hlicense : ∃ license, ObjectInfo.licenseIn file = .ok license := by
    unfold ObjectInfo.licenseIn
    cases hsection : file.sectionNamed? ObjectInfo.licenseSection with
    | none => exact ⟨"", rfl⟩
    | some s =>
        obtain ⟨data, hdata⟩ := (file.data_ok_iff s).mpr (h s hsection)
        simp only [hdata, bind, Except.bind]
        cases Text.Utf8.decodeUpToNul data with
        | ok license => exact ⟨license, rfl⟩
        | error e => exact ⟨"", rfl⟩
  obtain ⟨license, hlicense⟩ := hlicense
  unfold ObjectInfo.ofFile
  rw [hlicense]
  exact ⟨_, rfl, rfl⟩

theorem isSome_sectionNamed?_iff (file : File) (name : Bytes) :
    (file.sectionNamed? name).isSome = true ↔ ∃ s ∈ file.sections, s.name? = some name := by
  rw [File.sectionNamed?, List.find?_isSome]
  simp only [beq_iff_eq]

/-- What the loader gives back for a file that the reader accepts. -/
theorem value_fileLoader {bytes : Bytes} {file : File} {w : σ}
    (hread : (host.files w).read p = .ok bytes) (hparse : File.parse bytes = .ok file) :
    (fileLoader host root p version location w).value
      = match ObjectInfo.ofFile file with
        | .error e => ⟨false, .error (.elf e)⟩
        | .ok info => ((loadFile host (root.join (.ofString location.pinSubdir)) p version file
            info).on ⟨w, []⟩).1 := by
  rw [fileLoader, Logged.outcome_eq]
  simp only [Logged.on_bind, Logged.on_look, hread, hparse]
  cases ObjectInfo.ofFile file with
  | error e => rfl
  | ok info => rfl

/-- An accepted object is reported as critical just if it has the section that makes it so and its license
does not lie outside the file; with such a license, it fails and passes for an object that the system can do
without. -/
theorem critical_fileLoader_iff {bytes : Bytes} {file : File} {w : σ}
    (hread : (host.files w).read p = .ok bytes) (hparse : File.parse bytes = .ok file) :
    ((fileLoader host root p version location w).value.critical = true
      ↔ (∃ s ∈ file.sections, s.name? = some ObjectInfo.criticalSection)
        ∧ ∀ s, file.sectionNamed? ObjectInfo.licenseSection = some s → s.IsWithin bytes)
    ∧ ((∃ s, file.sectionNamed? ObjectInfo.licenseSection = some s ∧ ¬ s.IsWithin bytes) →
      (fileLoader host root p version location w).value
        = ⟨false, .error (.elf .badSectionData)⟩) := by
  have hbytes := File.bytes_of_parse hparse
  rw [value_fileLoader host root p version location hread hparse]
  by_cases hlicense : ∀ s, file.sectionNamed? ObjectInfo.licenseSection = some s → s.IsWithin bytes
  · rw [← hbytes] at hlicense
    obtain ⟨info, hinfo, hcritical⟩ := ofFile_of_isWithin hlicense
    rw [hbytes] at hlicense
    simp only [hinfo, critical_loadFile, hcritical, isSome_sectionNamed?_iff]
    refine ⟨⟨fun h => ⟨h, hlicense⟩, fun h => h.1⟩, ?_⟩
    rintro ⟨s, hs, houtside⟩
    exact absurd (hlicense s hs) houtside
  · have houtside : ∃ s, file.sectionNamed? ObjectInfo.licenseSection = some s
        ∧ ¬ s.IsWithin bytes := by
      simpa using hlicense
    obtain ⟨s, hs, hs'⟩ := houtside
    have herror := ofFile_of_not_isWithin hs (hbytes ▸ hs')
    rw [herror]
    refine ⟨⟨fun h => ?_, fun h => absurd h.2 hlicense⟩, fun _ => rfl⟩
    cases h

/-! ## A critical object that passes for another -/

/-- A section header of a 64-bit file. -/
def sectionRecord (name type offset size : Nat) : Bytes :=
  [name, type].flatMap (Bytes.ofNatLE 4) ++ [0, 0, offset, size].flatMap (Bytes.ofNatLE 8)
    ++ [0, 0].flatMap (Bytes.ofNatLE 4) ++ [1, 0].flatMap (Bytes.ofNatLE 8)

/-- The names of the sections `.shstrtab`, `critical` and `license`. -/
def sectionNames : Bytes :=
  Text.Utf8.encode "\x00.shstrtab\x00critical\x00license\x00" ++ [0, 0, 0, 0]

/-- A critical object whose license has the given place in the file. -/
def objectWithLicense (offset size : Nat) : Bytes :=
  magic ++ [2, 1, 1] ++ List.replicate 9 0 ++ [1, 247].flatMap (Bytes.ofNatLE 2)
    ++ Bytes.ofNatLE 4 1 ++ [0, 0, 96].flatMap (Bytes.ofNatLE 8) ++ Bytes.ofNatLE 4 0
    ++ [64, 0, 0, 64, 4, 1].flatMap (Bytes.ofNatLE 2) ++ sectionNames
    ++ sectionRecord 0 0 0 0 ++ sectionRecord 1 3 64 32 ++ sectionRecord 11 1 64 0
    ++ sectionRecord 20 1 offset size

/-- A machine with one object file, which is critical and has its license behind its end. -/
def cutOff : Files where
  tree := ⟨[([[0x61, 0x2e, 0x6f]], .file 0o644 (objectWithLicense 4096 4))]⟩
  cwd := []
  umask := 0

/-- The machine with a kernel that grants everything. -/
def cutOffHost : Host Files where
  files := id
  kernel := Bpf.modelKernel .lenient
  processors := 1

theorem read_cutOff : cutOff.read (.ofString "a.o") = .ok (objectWithLicense 4096 4) := by
  have hpath : Path.ofString "a.o" = ⟨[0x61, 0x2e, 0x6f]⟩ := by decide
  have hnames : Path.names ⟨[0x61, 0x2e, 0x6f]⟩ = [[0x61, 0x2e, 0x6f]] := by decide
  have hwalk : cutOff.tree.resolve [] ⟨[0x61, 0x2e, 0x6f]⟩ true
      = .ok (.present [[0x61, 0x2e, 0x6f]] (.file 0o644 (objectWithLicense 4096 4))) := by
    rw [FileTree.resolve, hnames, FileTree.walk]
    rfl
  rw [hpath, Files.read, Files.stat]
  simp only [cutOff] at hwalk ⊢
  rw [hwalk]
  rfl

theorem critical_fileLoader_iff_cutOff :
    ∃ file, File.parse (objectWithLicense 4096 4) = .ok file
      ∧ (∃ s ∈ file.sections, s.name? = some ObjectInfo.criticalSection)
      ∧ (fileLoader cutOffHost (.ofString bpfRoot) (.ofString "a.o") ⟨45⟩
          ⟨"", "tethering/"⟩ cutOff).value
        = ⟨false, .error (.elf .badSectionData)⟩ := by
  have hfile : (match File.parse (objectWithLicense 4096 4) with
      | .ok file => file.sections.any (·.name? == some ObjectInfo.criticalSection)
          && (file.sectionNamed? ObjectInfo.licenseSection).any
            fun s => !decide (s.IsWithin (objectWithLicense 4096 4))
      | .error _ => false) = true := by
    decide +kernel
  cases hparse : File.parse (objectWithLicense 4096 4) with
  | error e =>
      rw [hparse] at hfile
      cases hfile
  | ok file =>
      rw [hparse] at hfile
      simp only [Bool.and_eq_true, List.any_eq_true, beq_iff_eq, Option.any_eq_true,
        Bool.not_eq_true', decide_eq_false_iff_not] at hfile
      exact ⟨file, rfl, hfile.1,
        (critical_fileLoader_iff cutOffHost _ _ _ _ read_cutOff hparse).2 hfile.2⟩

end Object

end BpfBoot
