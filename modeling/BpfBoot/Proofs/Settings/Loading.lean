import BpfBoot.Proofs.File.Tree
import BpfBoot.Proofs.Settings.Decoding
import BpfBoot.Proofs.Text.Utf8

/-!
# Loading the settings

The settings are loaded from one file of a directory that can be named in several ways. Whichever it is, they
are what the file says, and the standard settings for the rest and without a file.
-/

namespace BpfBoot.Settings

open Json5

/-- The path of a file in the directory of the configuration. -/
def pathIn (fs : Files) (dir name : String) : Path :=
  (⟨Path.slash :: ((fs.cwd.intersperse [Path.slash]).flatten)⟩ : Path).join (.ofString (dir ++ "/" ++ name))

/-- What the configuration in a directory says. The file is also looked for under a name with one more
ending. -/
inductive Says (forms : Forms) (fs : Files) (dir : String) : Item → Prop where
  | document {text : String} {doc : Item} (hdoc : Document forms text doc)
      (hread : fs.read (pathIn fs dir configFileName) = .ok (Text.Utf8.encode text)) : Says forms fs dir doc
  | absent (h : ∀ name ∈ [configFileName, configFileName ++ extraEnding], ∀ data,
      fs.read (pathIn fs dir name) ≠ .ok data) : Says forms fs dir (.object [])

/-- The ways to name a directory: as an argument, which counts alone, or in the environment, with a slash at
the end or without one. -/
inductive Names (dir : String) : (given environment : Option String) → Prop where
  | argument (hdir : dir.toList.getLast? ≠ some '/') (environment : Option String) :
      Names dir (some dir) environment
  | argumentSlash (environment : Option String) : Names dir (some (dir ++ "/")) environment
  | environment (hdir : dir.toList.getLast? ≠ some '/') : Names dir none (some dir)
  | environmentSlash : Names dir none (some (dir ++ "/"))
  | standard (hdir : dir ++ "/" = defaultConfigDir) : Names dir none none

theorem directory_of_names {dir : String} {given environment : Option String}
    (h : Names dir given environment) : directory given environment = dir ++ "/" := by
  have hslash : (dir ++ "/").toList.getLast? = some '/' := by simp
  cases h with
  | argument hdir | environment hdir => simp [directory, hdir]
  | argumentSlash | environmentSlash => simp [directory]
  | standard hdir =>
    rw [hdir] at hslash
    simp [directory, hslash, hdir]

theorem findFile?_eq (fs : Files) (dir : String) :
    findFile? fs (dir ++ "/")
      = [configFileName, configFileName ++ extraEnding].findSome? fun name =>
          (regularFile? fs (pathIn fs dir name)).map fun data => (pathIn fs dir name, data) := by
  simp only [findFile?, pathIn, List.findSome?_cons, List.findSome?_nil]

theorem findFile?_of_read {fs : Files} {dir : String} {data : Bytes}
    (h : fs.read (pathIn fs dir configFileName) = .ok data) :
    findFile? fs (dir ++ "/") = some (pathIn fs dir configFileName, data) := by
  rw [findFile?_eq, List.findSome?_cons, regularFile?, h]
  simp only [Except.toOption, Option.map_some]

theorem findFile?_of_absent {fs : Files} {dir : String}
    (h : ∀ name ∈ [configFileName, configFileName ++ extraEnding], ∀ data,
      fs.read (pathIn fs dir name) ≠ .ok data) : findFile? fs (dir ++ "/") = none := by
  rw [findFile?_eq, List.findSome?_eq_none_iff]
  intro name hname
  cases hread : fs.read (pathIn fs dir name) with
  | ok data => exact absurd hread (h name hname data)
  | error e => simp only [regularFile?, hread, Except.toOption, Option.map_none]

theorem load_of_read {fs : Files} {dir text : String} {given environment : Option String}
    (hdirectory : directory given environment = dir ++ "/")
    (hread : fs.read (pathIn fs dir configFileName) = .ok (Text.Utf8.encode text)) :
    load fs given environment = parse ((pathIn fs dir configFileName).relativeTo fs.cwd).display text := by
  have hdecode : Text.Utf8.decode (Text.Utf8.encode text) = .ok text := Text.Utf8.decode_eq_ok_iff.mpr rfl
  unfold load
  rw [hdirectory, findFile?_of_read hread]
  simp only [hdecode]

theorem load_of_absent {fs : Files} {dir : String} {given environment : Option String}
    (hdirectory : directory given environment = dir ++ "/")
    (h : ∀ name ∈ [configFileName, configFileName ++ extraEnding], ∀ data,
      fs.read (pathIn fs dir name) ≠ .ok data) : load fs given environment = withoutFile := by
  unfold load
  rw [hdirectory, findFile?_of_absent h]

theorem locations_loaderSaid {standard : LoaderSettings} (h : standard.locationList = none)
    (part : Option Item) :
    (loaderSaid standard part).locations
      = ((said part "locations").bind locationsSaid?).getD Location.standard := by
  rw [LoaderSettings.locations, loaderSaid, h, Option.or_none]

/-- The settings are what the configuration says, however its directory is named. -/
theorem load_of_says {fs : Files} {dir : String} {given environment : Option String} {doc : Item}
    (hnames : Names dir given environment) (hfile : Says .plain fs dir doc) (hfits : IsConfiguration doc) :
    load fs given environment = .ok (saidBy doc)
      ∧ (saidBy doc).loader.locations
        = ((said (said (some doc) "loader") "locations").bind locationsSaid?).getD Location.standard := by
  have hdirectory := directory_of_names hnames
  refine ⟨?_, locations_loaderSaid rfl _⟩
  cases hfile with
  | document hdoc hread => exact (load_of_read hdirectory hread).trans (parse_of_document hdoc hfits _)
  | absent h => exact (load_of_absent hdirectory h).trans withoutFile_eq

/-! ## Configurations with one number -/

/-- The document with a number under a key of a section. -/
def oneNumber (part key numeral : String) : String :=
  "\x7b" ++ part ++ ":\x7b" ++ key ++ ":" ++ numeral ++ "\x7d\x7d"

/-- A name whose characters stand as they are. -/
def IsPlainName (name : String) : Prop :=
  ∃ c s, name.toList = c :: s ∧ startsName c = true ∧ ∀ d ∈ s, continuesName d = true

theorem isPlainName_loader : IsPlainName "loader" :=
  ⟨'l', _, rfl, by decide +kernel, List.all_eq_true.mp (by decide +kernel)⟩

theorem isPlainName_delay : IsPlainName "gsi_warning_delay_secs" :=
  ⟨'g', _, rfl, by decide +kernel, List.all_eq_true.mp (by decide +kernel)⟩

theorem nameRest_append {s : List Char} (h : ∀ c ∈ s, continuesName c = true) (rest : List Char) :
    NameRest rest s (s ++ rest) := by
  induction s with
  | nil => exact .none
  | cons c s ih =>
    rw [List.forall_mem_cons] at h
    exact .more (.literal h.1) (ih h.2)

theorem key_append {forms : Forms} {name : String} (h : IsPlainName name) (rest : List Char) :
    MemberKey forms rest name.toList (name.toList ++ rest) := by
  obtain ⟨c, s, hname, hc, hs⟩ := h
  rw [hname]
  exact .name (.literal hc) (nameRest_append hs rest)

theorem document_oneNumber {forms : Forms} {part key numeral : String} {n : Nat} (hpart : IsPlainName part)
    (hkey : IsPlainName key) (h : WritesNumber forms n numeral.toList) (hn : n < numberBound) :
    Document forms (oneNumber part key numeral) (.object [(part, .object [(key, .number n)])]) := by
  have hinner : Writes forms (.object [(String.ofList key.toList, .number n)]) _ ['\x7d'] :=
    .object .none (.last (key_append hkey _) .none .none (.number h hn) .none)
  have houter : Writes forms
      (.object [(String.ofList part.toList, .object [(String.ofList key.toList, .number n)])]) _ [] :=
    .object .none (.last (key_append hpart _) .none .none hinner .none)
  rw [String.ofList_toList, String.ofList_toList] at houter
  have htext : (oneNumber part key numeral).toList
      = '\x7b' :: (part.toList ++ ':' :: '\x7b' :: (key.toList ++ ':' ::
          (numeral.toList ++ ['\x7d', '\x7d']))) := by
    simp [oneNumber]
  exact ⟨_, _, htext ▸ .none, houter, .none⟩

theorem fits_single {fields : List (String × Kind)} {key : String} {kind : Kind} {item : Item}
    (hkind : fields.lookup key = some kind) (h : Fits kind item) :
    Fits (.object [] fields) (.object [(key, item)]) := by
  refine .object (List.nodup_singleton key) nofun ?_ ?_
  · obtain ⟨before, after, rfl, -⟩ := List.lookup_eq_some_iff.mp hkind
    simp
  · intro k kind' item' hkind' hitem
    rw [List.lookup_cons, List.lookup_nil] at hitem
    cases hk : k == key with
    | false =>
      rw [hk] at hitem
      cases hitem
    | true =>
      obtain rfl : k = key := by simpa using hk
      rw [hkind] at hkind'
      simp only [beq_self_eq_true, Option.some.injEq] at hkind' hitem
      rw [← hkind', ← hitem]
      exact h

theorem isConfiguration_oneNumber {fields : List (String × Kind)} {part key : String} {bound n : Nat}
    (hpart : settingsFields.lookup part = some (.object [] fields))
    (hkey : fields.lookup key = some (.number bound)) (hn : n < bound) :
    IsConfiguration (.object [(part, .object [(key, .number n)])]) :=
  fits_single hpart (fits_single hkey (.number hn))

theorem read_of_leads {fs : Files} {p : Path} {key : Key} {mode : Nat} {data : Bytes}
    (hnul : p.hasNul = false) (hlength : p.bytes.length < FileTree.pathLengthBound)
    (habsolute : p.isAbsolute = true)
    (h : fs.tree.Leads true p.endsWithSlash FileTree.maxLinks [] p.names (.present key (.file mode data))) :
    fs.read p = .ok data := by
  have hne : p.bytes.isEmpty = false := by
    cases hbytes : p.bytes with
    | nil => simp [Path.isAbsolute, hbytes] at habsolute
    | cons => rfl
  have hresolve : fs.tree.resolve fs.cwd p true = .ok (.present key (.file mode data)) := by
    rw [FileTree.resolve, if_neg (by simp [hne]), if_neg (by omega), if_pos habsolute, h.walk_eq]
  have hstat : fs.stat p = .ok (key, .file mode data) := by
    rw [Files.stat, hnul, hresolve]
    rfl
  rw [Files.read, hnul, hstat]
  rfl

/-- A machine with a configuration in the directory `/cfg`. -/
def configured (text : String) : Files where
  tree := ⟨[([Text.Utf8.encode "cfg"], .directory 0o755),
    ([Text.Utf8.encode "cfg", Text.Utf8.encode configFileName], .file 0o644 (Text.Utf8.encode text))]⟩
  cwd := []
  umask := 0o022

theorem read_configured (text : String) :
    (configured text).read (pathIn (configured text) "/cfg" configFileName) = .ok (Text.Utf8.encode text) := by
  have hpath : pathIn (configured text) "/cfg" configFileName = .ofString "/cfg/netbpfload.json5" :=
    Path.join_of_isAbsolute _ (by decide)
  rw [hpath]
  exact read_of_leads (by decide) (by decide) (by decide)
    (.down ⟨by decide, by decide, by decide⟩ rfl (.file ⟨by decide, by decide, by decide⟩ rfl))

/-- A number of seconds in base sixteen is loaded. -/
theorem load_of_says_hex :
    load (configured (oneNumber "loader" "gsi_warning_delay_secs" "0x10")) none (some "/cfg/")
        = .ok (saidBy (.object [("loader", .object [("gsi_warning_delay_secs", .number 16)])]))
      ∧ (saidBy (.object [("loader", .object [("gsi_warning_delay_secs", .number 16)])])).loader.locations
        = Location.standard := by
  have hdigits : AreHexDigits ['1', '0'] := List.all_eq_true.mp (by decide)
  have hnumber : WritesNumber .plain 16 "0x10".toList :=
    .hex .none (.inl rfl) hdigits (by decide) (by decide) (by decide)
  have hdoc : Document .plain (oneNumber "loader" "gsi_warning_delay_secs" "0x10") _ :=
    document_oneNumber isPlainName_loader isPlainName_delay hnumber (by decide)
  exact load_of_says .environmentSlash (.document hdoc (read_configured _))
    (isConfiguration_oneNumber rfl rfl (by decide))

/-- A number of more than 32 bits in base sixteen is not. -/
theorem not_load_wide_hex :
    Says .all (configured (oneNumber "loader" "gsi_warning_delay_secs" "0x100000000")) "/cfg"
        (.object [("loader", .object [("gsi_warning_delay_secs", .number 0x100000000)])])
      ∧ IsConfiguration (.object [("loader", .object [("gsi_warning_delay_secs", .number 0x100000000)])])
      ∧ load (configured (oneNumber "loader" "gsi_warning_delay_secs" "0x100000000")) (some "/cfg") none
        ≠ .ok (saidBy (.object [("loader", .object [("gsi_warning_delay_secs", .number 0x100000000)])])) := by
  have hdigits : AreHexDigits ['1', '0', '0', '0', '0', '0', '0', '0', '0'] :=
    List.all_eq_true.mp (by decide)
  have hnumber : WritesNumber .all 0x100000000 "0x100000000".toList :=
    .hex .none (.inl rfl) hdigits (by decide) (by decide) (by decide)
  have hdoc : Document .all (oneNumber "loader" "gsi_warning_delay_secs" "0x100000000") _ :=
    document_oneNumber isPlainName_loader isPlainName_delay hnumber (by decide)
  refine ⟨.document hdoc (read_configured _), isConfiguration_oneNumber rfl rfl (by decide), ?_⟩
  have hparse : parse? (oneNumber "loader" "gsi_warning_delay_secs" "0x100000000") = none := by
    rw [← Option.isNone_iff_eq_none]
    decide +kernel
  have hdirectory : directory (some "/cfg") none = "/cfg" ++ "/" :=
    directory_of_names (.argument (by decide) none)
  rw [load_of_read hdirectory (read_configured _), parse, parseEntries, hparse]
  intro hloaded
  cases hloaded

end BpfBoot.Settings
