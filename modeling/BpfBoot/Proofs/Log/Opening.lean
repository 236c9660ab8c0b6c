import BpfBoot.Proofs.Log.Writing

/-!
# Open channels

A channel that was opened for a file has its file where its path leads. Opening a channel makes files and
directories and takes none away but old files of its own log, so the channel that was opened before it keeps its
file too, unless that is one of them.
-/

namespace BpfBoot.Log

variable {clock : Clock} {fs fs' : Files} {console console' : Console}

namespace LogFile

theorem isFile_of_surplus {f : LogFile} {keys : List Key} (h : f.surplus fs = .ok keys) :
    ∀ k ∈ keys, ∃ mode data, fs.tree.get? k = some (.file mode data) := by
  unfold surplus at h
  cases hlist : fs.list (.ofString f.directory) with
  | error e =>
    rw [hlist] at h
    cases h
  | ok names =>
    rw [hlist] at h
    cases hstat : fs.stat (.ofString f.directory) with
    | error errno =>
      rw [hstat] at h
      cases h
    | ok found =>
      rw [hstat] at h
      cases h
      intro k hk
      obtain ⟨name, hname, rfl⟩ := List.mem_map.mp hk
      have hown := (List.mem_filter.mp (List.mem_of_mem_take hname)).2
      rw [Bool.and_eq_true] at hown
      have hentry := hown.2
      split at hentry
      next mode data hfile => exact ⟨mode, data, hfile⟩
      · cases hentry

theorem keeps_of_prune {f : LogFile} {key : Key} (h : key ∉ (f.surplus fs).toOption.getD []) :
    fs.Keeps (f.prune fs console).1 key := by
  rw [prune]
  cases hsurplus : f.surplus fs with
  | error e => exact .refl fs key
  | ok keys =>
    rw [hsurplus] at h
    exact Files.keeps_of_removed (isFile_of_surplus hsurplus) h

theorem grows_and_fileAt_of_openPath {p : Path} (h : openPath p fs = .ok fs') :
    fs.Grows fs' ∧ ∃ key, fs'.FileAt p key := by
  unfold openPath at h
  split at h
  next hopened =>
    cases h
    exact Files.grows_and_fileAt_of_openOrCreate hopened
  · split at h
    · cases h
    · split at h
      · cases h
      next hmade =>
        split at h
        next hopened =>
          cases h
          obtain ⟨hgrows, hfile⟩ := Files.grows_and_fileAt_of_openOrCreate hopened
          exact ⟨(Files.grows_of_makeDirectories hmade).trans hgrows, hfile⟩
        · cases h

theorem surplus_of_no_own {f : LogFile} {mode : Nat} (hdirectory : f.directory = "/")
    (hroot : fs.tree.get? [] = some (.directory mode))
    (hown : ∀ name ∈ fs.tree.children [], f.isOwn name = false) : f.surplus fs = .ok [] := by
  have hstat : fs.stat (.ofString "/") = .ok ([], .directory mode) :=
    Files.stat_eq_ok_iff.mpr ⟨⟨by decide, by decide, by decide⟩, .here hroot⟩
  have hlist : fs.list (.ofString "/") = .ok (fs.tree.children []) := by
    rw [Files.list, hstat]
    rfl
  have hnone (p : Name → Bool) : (fs.tree.children []).filter (fun name => f.isOwn name && p name) = [] := by
    refine List.filter_eq_nil_iff.mpr fun name hname => ?_
    rw [hown name hname]
    exact Bool.false_ne_true
  unfold surplus
  rw [hdirectory, hlist, hstat]
  simp only [bind, Except.bind, Except.mapError, hnone, List.take_nil]
  rfl

/-- The path is that of a name in the root directory. -/
structure IsInRoot (p : Path) (name : Name) : Prop where
  isTaken : Files.IsTaken p
  isAbsolute : p.isAbsolute = true
  endsWithSlash : p.endsWithSlash = false
  names : p.names = [name]
  isProper : FileTree.IsProper name

/-- A log in the root directory makes its file there. -/
theorem begin_of_missing {f : LogFile} {name : Name} (hpath : IsInRoot (f.pathAt clock) name)
    (hsurplus : f.surplus fs = .ok []) (hmissing : fs.tree.get? [name] = none) (console : Console) :
    let made := { fs with tree := fs.tree.insert [name] (.file (Files.maskMode 0o666 fs.umask) []) }
    f.begin clock fs console = (.ok made, made, console) := by
  intro made
  obtain ⟨htaken, habsolute, hslash, hnames, hname⟩ := hpath
  have hprune : f.prune fs console = (fs, console) := by
    rw [prune, hsurplus]
    rfl
  have hplace : fs.tree.resolve fs.cwd (f.pathAt clock) true = .ok (.absent [] name) := by
    obtain ⟨-, hne, hlength⟩ := htaken
    have hleads : fs.tree.Leads true false FileTree.maxLinks [] [name] (.absent [] name) :=
      .missing hname hmissing
    rw [FileTree.resolve, if_neg (by simpa using hne), if_neg (by omega), if_pos habsolute, hslash, hnames,
      hleads.walk_eq]
  have hfile : made.leadsToFile (f.pathAt clock) = true := by
    have hentry : made.tree.get? [name] = some (.file (Files.maskMode 0o666 fs.umask) []) := by
      rw [FileTree.get?_insert, if_pos rfl]
    have hfound : made.stat (f.pathAt clock) = .ok ([name], .file (Files.maskMode 0o666 fs.umask) []) := by
      refine Files.stat_eq_ok_iff.mpr ⟨htaken, ?_⟩
      rw [hslash, hnames, Files.startOf, if_pos habsolute]
      exact .file hname hentry
    rw [Files.leadsToFile, hfound]
  have hopened : openPath (f.pathAt clock) fs = .ok made := by
    have hcreated : fs.openOrCreate (f.pathAt clock)
        = .ok ([name], Files.maskMode 0o666 fs.umask, [], made) := by
      unfold Files.openOrCreate
      rw [htaken.1, hplace]
      exact if_pos hfile
    rw [openPath, hcreated]
  simp only [LogFile.begin, hprune, hopened]

end LogFile

namespace Channel

theorem IsReady.of_keeps {c : Channel} (h : c.IsReady clock fs) (hkeeps : ∀ key, fs.Keeps fs' key) :
    c.IsReady clock fs' := by
  intro p hp
  obtain ⟨key, hkey⟩ := h p hp
  exact ⟨key, hkey.of_keeps (hkeeps key)⟩

/-- A channel is ready once it is open, and nothing was taken away for that but old files of its log. -/
theorem isReady_and_keeps_of_opened {c opened : Channel}
    (h : c.opened clock fs console = (.ok opened, fs', console')) :
    opened.IsReady clock fs' ∧ ∀ key, key ∉ opened.surplus fs → fs.Keeps fs' key := by
  have hpathless {target : Target} (hnone : path? ⟨target, c.format⟩ clock = none) :
      IsReady ⟨target, c.format⟩ clock fs := by
    intro p hp
    rw [hnone] at hp
    cases hp
  obtain ⟨target, format⟩ := c
  cases target with
  | stderr | stdout | removed =>
    cases h
    exact ⟨hpathless rfl, fun key _ => .refl fs key⟩
  | kernelLog =>
    simp only [Channel.opened] at h
    split at h
    next found hfound =>
      cases h
      refine ⟨?_, fun key _ => .refl fs key⟩
      rintro p ⟨⟩
      obtain ⟨key, mode, data⟩ := found
      exact ⟨key, mode, data, Files.openForWriting_eq_ok_iff.mp hfound⟩
    · cases h
      exact ⟨hpathless rfl, fun key _ => .refl fs key⟩
  | file f =>
    simp only [Channel.opened, LogFile.begin] at h
    cases hmade : LogFile.openPath (f.pathAt clock) (f.prune fs console).1 with
    | error e =>
      rw [hmade] at h
      cases h
    | ok made =>
      rw [hmade] at h
      cases h
      obtain ⟨hgrows, hfile⟩ := LogFile.grows_and_fileAt_of_openPath hmade
      refine ⟨?_, fun key hkey => (LogFile.keeps_of_prune hkey).trans (hgrows.keeps key)⟩
      rintro p ⟨⟩
      exact hfile

theorem without_cases (c : Channel) (keys : List Key) (clock : Clock) (fs : Files) :
    c.without keys clock fs = c
      ∨ c.without keys clock fs = { c with target := .removed } ∧ ∃ key, key ∈ keys := by
  unfold Channel.without
  split
  next key _ _ =>
    split
    next hkey => exact .inr ⟨rfl, key, by simpa using hkey⟩
    · exact .inl rfl
  · exact .inl rfl

/-- A channel that was open is ready without the files that were taken away. -/
theorem IsReady.without {c : Channel} {keys : List Key} (h : c.IsReady clock fs)
    (hkeeps : ∀ key, key ∉ keys → fs.Keeps fs' key) : (c.without keys clock fs).IsReady clock fs' := by
  intro p hp
  unfold Channel.without at hp
  cases hpath : c.path? clock with
  | none =>
    rw [hpath, Option.map_none, hpath] at hp
    cases hp
  | some p' =>
    obtain ⟨key, mode, data, hleads⟩ := h p' hpath
    have hfile : fs.FileAt p' key := ⟨mode, data, hleads⟩
    rw [hpath, Option.map_some, Files.stat_eq_ok_iff.mpr hleads] at hp
    dsimp only at hp
    split at hp
    · cases hp
    next hkey =>
      rw [hpath] at hp
      cases hp
      exact ⟨key, hfile.of_keeps (hkeeps key (by simpa using hkey))⟩

end Channel

theorem openEntry_of_begin {entry : Option LogEntry} {f : LogFile} {format : Format} {made : Files}
    (hc : channelOf? entry = .ok (some ⟨.file f, format⟩))
    (h : f.begin clock fs console = (.ok made, made, console')) :
    openEntry entry clock fs console = (.ok (some ⟨.file f, format⟩), made, console') := by
  simp only [openEntry, hc, Channel.opened, h]

end BpfBoot.Log
