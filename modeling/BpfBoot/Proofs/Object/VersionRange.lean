import BpfBoot.Proofs.Object.Description
import BpfBoot.Proofs.Object.Directory
import BpfBoot.Proofs.Object.Loading

/-!
# Which objects are meant for the loader

An object names the first loader version that it is meant for and the first one that it is no longer meant
for, and the loader version grows with the API level. Whether an object is loaded hangs on these three numbers
alone. One that is meant for other loaders counts as if its file were not there: it asks nothing of the kernel,
changes nothing, leaves one event, and is no failure of its directory, critical or not. Ranges that meet have
no gap between them and no version in common.
-/

namespace BpfBoot.Object

open Elf Log Text Directory

variable {σ : Type}

/-! ## Ranges of versions -/

/-- The version of the loader on a device with the given API level. -/
def versionAt (apiLevel : Nat) : Nat :=
  42 + (if 33 ≤ apiLevel then 1 else 0) + (if 34 ≤ apiLevel then 1 else 0)
    + (if 35 ≤ apiLevel then 1 else 0)

theorem number_ofApiLevel (apiLevel : Nat) :
    (LoaderVersion.ofApiLevel apiLevel).number = versionAt apiLevel := rfl

theorem versionAt_lt (apiLevel : Nat) : versionAt apiLevel < 0x10000 := by
  unfold versionAt
  repeat' split
  all_goals omega

/-- The object is meant for the loader on a device with the given API level. -/
def IsMeantFor (info : ObjectInfo) (apiLevel : Nat) : Prop :=
  info.minVersion ≤ versionAt apiLevel ∧ versionAt apiLevel < info.maxVersion

theorem isInRange_iff (info : ObjectInfo) (apiLevel : Nat) :
    (LoaderVersion.ofApiLevel apiLevel).isInRange info.minVersion info.maxVersion = true
      ↔ IsMeantFor info apiLevel := by
  rw [LoaderVersion.isInRange, number_ofApiLevel, Bool.and_eq_true, decide_eq_true_iff,
    decide_eq_true_iff]
  exact Iff.rfl

/-- The file says nothing about one end of the range, or too little. -/
def IsSilentOn (file : File) (name : String) : Prop :=
  ∀ s data, FirstNamed file.sections (Utf8.encode name) s → file.data s = .ok data → data.length < 4

/-! ## Outcomes -/

/-- The file under the path can be read and says what `info` says. -/
def Offers (host : Host σ) (w : σ) (p : Path) (bytes : Bytes) (info : ObjectInfo) : Prop :=
  (host.files w).read p = .ok bytes ∧ ObjectInfo.parse bytes = .ok info

/-- The outcome is that of loading the object, and begins with the event that says so. -/
def IsLoaded (host : Host σ) (pinDir p : Path) (bytes : Bytes) (info : ObjectInfo) (w : σ)
    (outcome : Outcome LoadResult σ) : Prop :=
  ∃ file loading, File.parse bytes = .ok file
    ∧ Logged.outcome (addObject host pinDir p file info).run w = loading
    ∧ outcome = ⟨⟨info.critical, loading.value⟩, loading.events, loading.world⟩
    ∧ ∃ later, outcome.events = loadingEvent p info :: later

/-- The loader on a device with the given API level loads the object. -/
def Loads (host : Host σ) (root : Path) (location : Location) (apiLevel : Nat) (w : σ) (p : Path)
    (bytes : Bytes) (info : ObjectInfo) : Prop :=
  IsLoaded host (root.join (.ofString location.pinSubdir)) p bytes info w
    (fileLoader host root p (.ofApiLevel apiLevel) location w)

/-- The outcome for an object that is meant for other loaders: success, and one event that informs about it. -/
def ignored (p : Path) (version : LoaderVersion) (info : ObjectInfo) (w : σ) : Outcome LoadResult σ where
  value := ⟨info.critical, .ok ()⟩
  events :=
    [⟨.info, "netbpfload::elf", "BpfLoader version " ++ Text.decimal version.number
      ++ " ignoring ELF object " ++ p.display ++ " with version range [0x" ++ Text.hex info.minVersion 5
      ++ ", 0x" ++ Text.hex info.maxVersion 5 ++ ")"⟩]
  world := w

theorem exists_file_of_parse {bytes : Bytes} {info : ObjectInfo}
    (h : ObjectInfo.parse bytes = .ok info) :
    ∃ file, File.parse bytes = .ok file ∧ ObjectInfo.ofFile file = .ok info := by
  unfold ObjectInfo.parse at h
  cases hfile : File.parse bytes with
  | error e =>
    rw [hfile] at h
    cases h
  | ok file =>
    rw [hfile] at h
    exact ⟨file, rfl, h⟩

variable {host : Host σ} {root p : Path} {version : LoaderVersion} {location : Location}
  {w : σ} {bytes : Bytes} {info : ObjectInfo} {file : File} {apiLevel : Nat}

theorem fileLoader_eq_of_offers (h : Offers host w p bytes info) (hfile : File.parse bytes = .ok file) :
    fileLoader host root p version location w
      = Logged.outcome (loadFile host (root.join (.ofString location.pinSubdir)) p version file info) w := by
  obtain ⟨hread, hparse⟩ := h
  rw [parse_eq_ofFile hfile] at hparse
  rw [fileLoader, Logged.outcome_eq, Logged.outcome_eq]
  simp only [Logged.on_bind, Logged.on_look, hread, hfile, hparse]

theorem events_addObject (host : Host σ) (pinDir p : Path) (file : File) (info : ObjectInfo) (w : σ) :
    ∃ later, (Logged.outcome (addObject host pinDir p file info).run w).events
      = loadingEvent p info :: later := by
  -- The rest starts in a session that holds the first event, and leaves it where it is.
  have hcontents : (addContents host pinDir p file).run.on ⟨w, [loadingEvent p info]⟩ = _ :=
    Logged.on_eq_of_followsOn (followsOn_addContents host pinDir p file) w
  refine ⟨(Logged.outcome (addContents host pinDir p file).run w).events, ?_⟩
  rw [Logged.outcome_eq, addObject_eq, Logged.on_run_bind]
  change ((addContents host pinDir p file).run.on ⟨w, [loadingEvent p info]⟩).2.events = _
  rw [hcontents]
  rfl

theorem loads_of_isMeantFor (h : Offers host w p bytes info) (hmeant : IsMeantFor info apiLevel) :
    Loads host root location apiLevel w p bytes info := by
  obtain ⟨file, hfile, -⟩ := exists_file_of_parse h.2
  have hevents := events_addObject host (root.join (.ofString location.pinSubdir)) p file info w
  rw [Loads, fileLoader_eq_of_offers h hfile, loadFile, if_pos ((isInRange_iff info apiLevel).mpr hmeant)]
  exact ⟨file, _, hfile, rfl, rfl, hevents⟩

theorem fileLoader_eq_ignored (h : Offers host w p bytes info) (hmeant : ¬ IsMeantFor info apiLevel) :
    fileLoader host root p (.ofApiLevel apiLevel) location w
      = ignored p (.ofApiLevel apiLevel) info w := by
  obtain ⟨file, hfile, -⟩ := exists_file_of_parse h.2
  rw [← isInRange_iff] at hmeant
  rw [fileLoader_eq_of_offers h hfile, loadFile, if_neg hmeant]
  rfl

/-- No object is both loaded and ignored: the first event tells them apart. -/
theorem not_isLoaded_ignored {pinDir : Path} :
    ¬ IsLoaded host pinDir p bytes info w (ignored p version info w) := by
  rintro ⟨_, _, _, _, _, later, hevents⟩
  have hlevel := congrArg (fun events => events.head?.map Event.level) hevents
  cases hlevel

theorem loads_iff (h : Offers host w p bytes info) :
    Loads host root location apiLevel w p bytes info ↔ IsMeantFor info apiLevel := by
  constructor
  · intro hloads
    by_cases hmeant : IsMeantFor info apiLevel
    · exact hmeant
    · rw [Loads, fileLoader_eq_ignored h hmeant] at hloads
      exact absurd hloads not_isLoaded_ignored
  · exact loads_of_isMeantFor h

theorem isMeantFor_of_isSilentOn (h : ObjectInfo.parse bytes = .ok info)
    (hfile : File.parse bytes = .ok file) (hmin : IsSilentOn file "bpfloader_min_ver")
    (hmax : IsSilentOn file "bpfloader_max_ver") (apiLevel : Nat) : IsMeantFor info apiLevel := by
  rw [parse_eq_ofFile hfile, ofFile_eq] at h
  cases hlicense : licenseFrom (dataNamed? file ObjectInfo.licenseSection) with
  | error e =>
    rw [hlicense] at h
    cases h
  | ok license =>
    rw [hlicense] at h
    cases h
    have hlow := (saysVersion_versionFrom file (Utf8.encode "bpfloader_min_ver") 0).missing hmin
    have hhigh := (saysVersion_versionFrom file (Utf8.encode "bpfloader_max_ver") 0x10000).missing hmax
    constructor
    · exact Nat.le_trans (Nat.le_of_eq hlow) (Nat.zero_le _)
    · exact Nat.lt_of_lt_of_eq (versionAt_lt apiLevel) hhigh.symm

/-! ## Directories -/

/-- The attempt changes nothing and is no critical failure. -/
def Attempt.IsIdle (a : Attempt σ) (w : σ) : Prop :=
  a.outcome.world = w ∧ a.outcome.value.criticalFailure? = none

theorem resultOf_of_isIdle {before after : List (Attempt σ)} {a : Attempt σ}
    (h : a.IsIdle (worldAfter w before)) : resultOf (before ++ a :: after) = resultOf (before ++ after) := by
  have hlast : Attempt.lastCriticalFailure? (before ++ a :: after)
      = Attempt.lastCriticalFailure? (before ++ after) := by
    unfold Attempt.lastCriticalFailure?
    rw [List.filterMap_append, List.filterMap_cons, h.2, List.filterMap_append]
  rw [resultOf, hlast, resultOf]

theorem worldAfter_of_isIdle {before after : List (Attempt σ)} {a : Attempt σ}
    (h : a.IsIdle (worldAfter w before)) :
    worldAfter w (before ++ a :: after) = worldAfter w (before ++ after) := by
  have hworld := h.1
  unfold worldAfter at hworld ⊢
  rw [List.foldl_append, List.foldl_cons, hworld, List.foldl_append]

/-- The attempts after an idle one are those that would be made without it. -/
theorem attempts_of_isIdle {loader : ObjectLoader σ} {names : List Name}
    {before after : List (Attempt σ)} {a : Attempt σ}
    (htries : attempts loader version location names w = before ++ a :: after)
    (h : a.IsIdle (worldAfter w before)) :
    attempts loader version location ((before ++ after).map Attempt.name) w = before ++ after := by
  obtain ⟨hbefore, hlater⟩ := attempts_of_eq_append loader version location htries
  rw [List.map_cons, attempts, List.cons.injEq] at hlater
  obtain ⟨ha, hafter⟩ := hlater
  have hworld : (loader (fileIn location a.name) version location (worldAfter w before)).world
      = worldAfter w before := by
    rw [← ha] at h
    exact h.1
  rw [List.map_append, attempts_append, hbefore]
  rw [hworld] at hafter
  rw [hafter]

/-! ## The loader on a device -/

/-- The host with a kernel that keeps the calls that were made. -/
def Host.recording (host : Host σ) : Host (σ × List Bpf.SystemCall) where
  files s := host.files s.1
  kernel := host.kernel.recording
  processors := host.processors
  features s := host.features s.1
  discover s := ((host.discover s.1).1, (host.discover s.1).2, s.2)

/-- How the versions decide on the objects that the loader is asked for. -/
structure SelectsByVersion (host : Host σ) (root : Path) (location : Location) (apiLevel : Nat) :
    Prop where
  loads_iff : ∀ w p bytes info, Offers host w p bytes info →
    (Loads host root location apiLevel w p bytes info ↔ IsMeantFor info apiLevel)
  ignored : ∀ w p bytes info, Offers host w p bytes info → ¬ IsMeantFor info apiLevel →
    fileLoader host root p (.ofApiLevel apiLevel) location w = ignored p (.ofApiLevel apiLevel) info w
  noCalls : ∀ w p bytes info, Offers host w p bytes info → ¬ IsMeantFor info apiLevel →
    ∀ calls, (fileLoader host.recording root p (.ofApiLevel apiLevel) location (w, calls)).world
      = (w, calls)
  /-- The directory comes to what it would come to without the object. -/
  directory : ∀ list w listing, list w (.ofString location.dir) = .ok listing →
    ∀ before a after, attempts (fileLoader host root) (.ofApiLevel apiLevel) location
        (objectFileNames listing) w = before ++ a :: after →
    ∀ bytes info, Offers host (worldAfter w before) (fileIn location a.name) bytes info →
      ¬ IsMeantFor info apiLevel →
    let run := (load list (fileLoader host root) (.ofApiLevel apiLevel) location).outcome w
    (∀ e, ¬ a.FailsCritically e)
      ∧ attempts (fileLoader host root) (.ofApiLevel apiLevel) location
          ((before ++ after).map Attempt.name) w = before ++ after
      ∧ run.value = resultOf (before ++ after) ∧ run.world = worldAfter w (before ++ after)
  /-- Of two objects whose ranges meet, one is loaded and the other one is not. -/
  split : ∀ w p bytes info w' p' bytes' info', Offers host w p bytes info →
    Offers host w' p' bytes' info' → info.maxVersion = info'.minVersion →
    info.minVersion ≤ versionAt apiLevel → versionAt apiLevel < info'.maxVersion →
    (Loads host root location apiLevel w' p' bytes' info'
      ↔ ¬ Loads host root location apiLevel w p bytes info)
  unversioned : ∀ w p bytes info file, Offers host w p bytes info → File.parse bytes = .ok file →
    IsSilentOn file "bpfloader_min_ver" → IsSilentOn file "bpfloader_max_ver" →
      Loads host root location apiLevel w p bytes info

/-- Objects are loaded just if they are meant for the loader, and otherwise it is as if they were not there. -/
theorem fileLoader_selectsByVersion (host : Host σ) (root : Path) (location : Location)
    (apiLevel : Nat) : SelectsByVersion host root location apiLevel where
  loads_iff w p bytes info h := loads_iff h
  ignored w p bytes info h hmeant := fileLoader_eq_ignored h hmeant
  noCalls w p bytes info h hmeant calls := by
    have hoffers : Offers host.recording (w, calls) p bytes info := h
    rw [fileLoader_eq_ignored hoffers hmeant]
    rfl
  directory list w listing hlist before a after htries bytes info h hmeant := by
    obtain ⟨-, hlater⟩ := attempts_of_eq_append _ _ _ htries
    rw [List.map_cons, attempts, List.cons.injEq, fileLoader_eq_ignored h hmeant] at hlater
    have ha : a.outcome
        = ignored (fileIn location a.name) (.ofApiLevel apiLevel) info (worldAfter w before) :=
      congrArg Attempt.outcome hlater.1.symm
    have hidle : a.IsIdle (worldAfter w before) := by
      rw [Attempt.IsIdle, ha]
      exact ⟨rfl, rfl⟩
    have hrun := on_load_of_ok (fileLoader host root) (.ofApiLevel apiLevel) location list ⟨w, []⟩ hlist
    rw [htries] at hrun
    refine ⟨fun e hfails => ?_, attempts_of_isIdle htries hidle, ?_, ?_⟩
    · rw [← Attempt.criticalFailure?_eq_some_iff, hidle.2] at hfails
      cases hfails
    · rw [Logged.outcome_eq, hrun]
      exact resultOf_of_isIdle hidle
    · rw [Logged.outcome_eq, hrun]
      exact worldAfter_of_isIdle hidle
  split w p bytes info w' p' bytes' info' h h' hmeet hlow hhigh := by
    rw [loads_iff h, loads_iff h', IsMeantFor, IsMeantFor, hmeet]
    omega
  unversioned w p bytes info file h hfile hmin hmax :=
    loads_of_isMeantFor h (isMeantFor_of_isSilentOn h.2 hfile hmin hmax apiLevel)

end BpfBoot.Object
