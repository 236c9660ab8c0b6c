import BpfBoot.Proofs.File.Directory

/-!
# Files that grow longer

Bytes are added to the end of the file that a path leads to, and nothing else changes. As long as only the
contents of files change and nothing is taken away, the path leads to the same file.
-/

namespace BpfBoot.Files

open FileTree

variable {fs fs' : Files} {p : Path} {key : Key} {mode : Nat} {data : Bytes}

/-! ## The file of a path -/

/-- The names of the path lead to an entry, links followed. -/
def LeadsTo (fs : Files) (p : Path) (key : Key) (entry : Entry) : Prop :=
  IsTaken p ∧ Leads fs.tree true p.endsWithSlash maxLinks (fs.startOf p) p.names (.present key entry)

/-- The path leads to the file under the key. -/
def FileAt (fs : Files) (p : Path) (key : Key) : Prop :=
  ∃ mode data, fs.LeadsTo p key (.file mode data)

theorem isTaken_of_stat {found : Key × Entry} (h : fs.stat p = .ok found) : IsTaken p := by
  unfold stat resolve at h
  cases hnul : p.hasNul with
  | true =>
    rw [hnul] at h
    cases h
  | false =>
    rw [hnul] at h
    refine ⟨hnul, fun hempty => ?_, Nat.lt_of_not_le fun hlength => ?_⟩
    · rw [hempty] at h
      cases h
    · rw [if_pos hlength] at h
      split at h <;> cases h

theorem stat_eq_ok_iff {entry : Entry} : fs.stat p = .ok (key, entry) ↔ fs.LeadsTo p key entry := by
  have hwalk (hp : IsTaken p) : fs.stat p = .ok (key, entry)
      ↔ Leads fs.tree true p.endsWithSlash maxLinks (fs.startOf p) p.names (.present key entry) := by
    rw [stat_eq hp, ← walk_eq_ok_iff]
    split
    next key' entry' hfound => simp [hfound]
    next hmissing => simp [hmissing]
    next errno hrefused => simp [hrefused]
  exact ⟨fun h => ⟨isTaken_of_stat h, (hwalk (isTaken_of_stat h)).mp h⟩, fun ⟨hp, h⟩ => (hwalk hp).mpr h⟩

theorem openForWriting_eq_ok_iff :
    fs.openForWriting p = .ok (key, mode, data) ↔ fs.LeadsTo p key (.file mode data) := by
  rw [← stat_eq_ok_iff]
  constructor
  · intro h
    unfold openForWriting at h
    split at h
    · cases h
    · split at h
      next key' mode' data' hstat =>
        cases h
        exact hstat
      · cases h
      · cases h
  · intro h
    have hnul : p.hasNul = false := (isTaken_of_stat h).1
    rw [openForWriting, hnul, h]
    rfl

theorem LeadsTo.get?_eq {entry : Entry} (h : fs.LeadsTo p key entry) : fs.tree.get? key = some entry :=
  h.2.get?_eq_some

theorem get?_of_resolve_absent {cwd dir : Key} {name : Name} {followLast : Bool}
    (h : fs.tree.resolve cwd p followLast = .ok (.absent dir name)) : fs.tree.get? (dir ++ [name]) = none := by
  unfold resolve at h
  split at h
  · cases h
  · split at h
    · cases h
    · exact (leads_of_walk h).get?_eq_none

theorem fileAt_of_leadsToFile (h : fs.leadsToFile p = true) : ∃ key, fs.FileAt p key := by
  unfold leadsToFile at h
  split at h
  next key mode data hstat => exact ⟨key, mode, data, stat_eq_ok_iff.mp hstat⟩
  · cases h

/-- A file that was opened is there, whether it was made for that or not. -/
theorem grows_and_fileAt_of_openOrCreate (h : fs.openOrCreate p = .ok (key, mode, data, fs')) :
    fs.Grows fs' ∧ ∃ key, fs'.FileAt p key := by
  unfold openOrCreate at h
  cases hnul : p.hasNul with
  | true =>
    rw [hnul] at h
    cases h
  | false =>
    rw [hnul] at h
    cases hplace : fs.tree.resolve fs.cwd p true with
    | error errno =>
      rw [hplace] at h
      cases h
    | ok place =>
      rw [hplace] at h
      cases place with
      | present key entry =>
        cases entry with
        | file mode data =>
          cases h
          have hstat : fs.stat p = .ok (key, .file mode data) := by
            rw [stat, hnul, hplace]
            rfl
          exact ⟨.refl fs, key, mode, data, stat_eq_ok_iff.mp hstat⟩
        | directory | symlink => cases h
      | absent dir name =>
        obtain ⟨made, hmade, h⟩ : ∃ made : Files, fs.Grows made ∧
            (if made.leadsToFile p = true then
              Except.ok (dir ++ [name], maskMode 0o666 fs.umask, ([] : Bytes), made)
            else .error Errno.eisdir) = .ok (key, mode, data, fs') :=
          ⟨_, grows_insert _ (get?_of_resolve_absent hplace), h⟩
        split at h
        next hfile =>
          cases h
          exact ⟨hmade, fileAt_of_leadsToFile hfile⟩
        · cases h

/-! ## Adding to a file -/

/-- Bytes were added to the end of the file under the key, and nothing else changed. -/
structure Adds (fs fs' : Files) (key : Key) (data : Bytes) : Prop where
  added : ∃ mode old, fs.tree.get? key = some (.file mode old)
    ∧ fs'.tree.get? key = some (.file mode (old ++ data))
  kept : ∀ other, other ≠ key → fs'.tree.get? other = fs.tree.get? other
  cwd : fs'.cwd = fs.cwd
  umask : fs'.umask = fs.umask

theorem adds_insert {old : Bytes} (h : fs.tree.get? key = some (.file mode old)) (data : Bytes) :
    fs.Adds { fs with tree := fs.tree.insert key (.file mode (old ++ data)) } key data where
  added := by
    refine ⟨mode, old, h, ?_⟩
    rw [get?_insert, if_pos rfl]
  kept other hother := by
    rw [get?_insert, if_neg hother]
  cwd := rfl
  umask := rfl

theorem extend_of_fileAt (h : fs.FileAt p key) (data : Bytes) :
    ∃ fs', fs.extend p data = .ok fs' ∧ fs.Adds fs' key data := by
  obtain ⟨mode, old, hleads⟩ := h
  refine ⟨_, ?_, adds_insert hleads.get?_eq data⟩
  rw [extend, openForWriting_eq_ok_iff.mpr hleads]
  rfl

/-! ## Files that are kept -/

/-- The file under the key is there still, and so are all directories and links, though files may hold
something else. -/
structure Keeps (fs fs' : Files) (key : Key) : Prop where
  directory : ∀ dir mode, fs.tree.get? dir = some (.directory mode) →
    ∃ mode', fs'.tree.get? dir = some (.directory mode')
  symlink : ∀ link target, fs.tree.get? link = some (.symlink target) →
    fs'.tree.get? link = some (.symlink target)
  file : ∀ mode data, fs.tree.get? key = some (.file mode data) →
    ∃ mode' data', fs'.tree.get? key = some (.file mode' data')
  cwd : fs'.cwd = fs.cwd

theorem Keeps.refl (fs : Files) (key : Key) : fs.Keeps fs key where
  directory _ mode h := ⟨mode, h⟩
  symlink _ _ h := h
  file mode data h := ⟨mode, data, h⟩
  cwd := rfl

theorem Keeps.trans {fs'' : Files} (h : fs.Keeps fs' key) (h' : fs'.Keeps fs'' key) : fs.Keeps fs'' key where
  directory dir mode hentry :=
    have ⟨mode', hentry'⟩ := h.directory dir mode hentry
    h'.directory dir mode' hentry'
  symlink link target hentry := h'.symlink link target (h.symlink link target hentry)
  file mode data hentry :=
    have ⟨mode', data', hentry'⟩ := h.file mode data hentry
    h'.file mode' data' hentry'
  cwd := h'.cwd.trans h.cwd

theorem Grows.keeps (h : fs.Grows fs') (key : Key) : fs.Keeps fs' key where
  directory dir mode hentry := ⟨mode, h.tree dir _ hentry⟩
  symlink link _ hentry := h.tree link _ hentry
  file mode data hentry := ⟨mode, data, h.tree key _ hentry⟩
  cwd := h.cwd

theorem Adds.keeps (h : fs.Adds fs' key data) (other : Key) : fs.Keeps fs' other := by
  obtain ⟨mode, old, hold, hnew⟩ := h.added
  have hother {k : Key} {entry : Entry} (hentry : fs.tree.get? k = some entry)
      (hfile : ∀ mode data, entry ≠ .file mode data) : fs'.tree.get? k = some entry := by
    rw [h.kept k, hentry]
    rintro rfl
    rw [hold] at hentry
    cases hentry
    exact hfile _ _ rfl
  constructor
  case directory =>
    intro dir mode' hentry
    exact ⟨mode', hother hentry nofun⟩
  case symlink =>
    intro link target hentry
    exact hother hentry nofun
  case file =>
    intro mode' data' hentry
    by_cases hkey : other = key
    · rw [hkey]
      exact ⟨mode, _, hnew⟩
    · rw [h.kept other hkey]
      exact ⟨mode', data', hentry⟩
  case cwd => exact h.cwd

theorem leads_of_keeps (hkeeps : fs.Keeps fs' key) {followLast needDirectory : Bool} {links : Nat} {dir : Key}
    {todo : List Name}
    (h : Leads fs.tree followLast needDirectory links dir todo (.present key (.file mode data))) :
    ∃ mode' data',
      Leads fs'.tree followLast needDirectory links dir todo (.present key (.file mode' data')) := by
  generalize hplace : Place.present key (.file mode data) = place at h
  -- The way leads through directories and links, which stand where they stood, to the one file at its end.
  induction h with
  | here hentry =>
    cases hplace
    obtain ⟨mode', data', hfile⟩ := hkeeps.file _ _ hentry
    exact ⟨mode', data', .here hfile⟩
  | stay _ ih =>
    obtain ⟨mode', data', hleads⟩ := ih hplace
    exact ⟨mode', data', .stay hleads⟩
  | up _ ih =>
    obtain ⟨mode', data', hleads⟩ := ih hplace
    exact ⟨mode', data', .up hleads⟩
  | down hproper hentry _ ih =>
    obtain ⟨_, hdirectory⟩ := hkeeps.directory _ _ hentry
    obtain ⟨mode', data', hleads⟩ := ih hplace
    exact ⟨mode', data', .down hproper hdirectory hleads⟩
  | missing => cases hplace
  | file hproper hentry =>
    cases hplace
    obtain ⟨mode', data', hfile⟩ := hkeeps.file _ _ hentry
    exact ⟨mode', data', .file hproper hfile⟩
  | link => cases hplace
  | follow hproper hentry hlast _ ih =>
    obtain ⟨mode', data', hleads⟩ := ih hplace
    exact ⟨mode', data', .follow hproper (hkeeps.symlink _ _ hentry) hlast hleads⟩

theorem FileAt.of_keeps (hkeeps : fs.Keeps fs' key) (h : fs.FileAt p key) : fs'.FileAt p key := by
  obtain ⟨mode, data, htaken, hleads⟩ := h
  obtain ⟨mode', data', hleads'⟩ := leads_of_keeps hkeeps hleads
  refine ⟨mode', data', htaken, ?_⟩
  rw [startOf, hkeeps.cwd]
  exact hleads'

/-! ## Removed files -/

theorem foldl_remove_eq (keys : List Key) (fs : Files) :
    keys.foldl remove fs = { fs with tree := keys.foldl erase fs.tree } := by
  induction keys generalizing fs with
  | nil => rfl
  | cons key keys ih => exact ih (fs.remove key)

/-- Removed files take nothing else with them. -/
theorem keeps_of_removed {keys : List Key}
    (hfiles : ∀ k ∈ keys, ∃ mode data, fs.tree.get? k = some (.file mode data)) (hkey : key ∉ keys) :
    fs.Keeps (keys.foldl remove fs) key := by
  have hother {k : Key} {entry : Entry} (hk : k ∉ keys) (h : fs.tree.get? k = some entry) :
      (keys.foldl remove fs).tree.get? k = some entry := by
    rw [foldl_remove_eq, get?_foldl_erase hk, h]
  have hneFile {k : Key} {entry : Entry} (h : fs.tree.get? k = some entry)
      (hfile : ∀ mode data, entry ≠ .file mode data) : k ∉ keys := by
    intro hk
    obtain ⟨mode, data, hfound⟩ := hfiles k hk
    rw [h] at hfound
    cases hfound
    exact hfile _ _ rfl
  constructor
  case directory =>
    intro dir mode hentry
    exact ⟨mode, hother (hneFile hentry nofun) hentry⟩
  case symlink =>
    intro link target hentry
    exact hother (hneFile hentry nofun) hentry
  case file =>
    intro mode data hentry
    exact ⟨mode, data, hother hkey hentry⟩
  case cwd => rw [foldl_remove_eq]

end BpfBoot.Files
