import BpfBoot.PinDirs
import BpfBoot.Proofs.File.Directory

/-!
# Making pin directories

What a call leaves behind is told by the place to which the path of the pin directory leads. Nothing but that
place changes, and only if it was free; the file creation mask is cleared in between and is back whatever
came of the call. So the directories that a series of calls made are there after all calls that follow, and
so is all that was there before the first one.

An entry that is in the way counts as success, and it need not be a directory: a file or a link that leads
nowhere stays where the directory should be, and nothing can be pinned below it.
-/

namespace BpfBoot.PinDirs

open FileTree Files

variable {root : Path} {subdir : String} {fs fs' : Files}

/-! ## One call -/

/-- The permission bits of a new pin directory below `dir`. -/
def modeBelow (fs : Files) (dir : Key) : Nat :=
  { fs with umask := 0 }.newDirectoryMode dir mode

theorem modeBelow_eq {dir : Key}
    (hgroup : ∀ parent, fs.tree.get? dir = some parent → parent.mode &&& setGroupId = 0) :
    modeBelow fs dir = 0o1777 := by
  unfold modeBelow newDirectoryMode
  cases hparent : fs.tree.get? dir with
  | none =>
    change maskMode (mode &&& 0o1777) 0 ||| 0 = 0o1777
    rfl
  | some parent =>
    simp only [hgroup parent hparent]
    rfl

/-- The files with a new pin directory. -/
def withDirectory (fs : Files) (dir : Key) (name : Name) : Files :=
  { fs with tree := fs.tree.insert (dir ++ [name]) (.directory (modeBelow fs dir)) }

theorem get?_withDirectory (fs : Files) (dir : Key) (name : Name) (key : Key) :
    (withDirectory fs dir name).tree.get? key
      = if key = dir ++ [name] then some (.directory (modeBelow fs dir)) else fs.tree.get? key :=
  get?_insert _ _ _ _

theorem grows_withDirectory {dir : Key} {name : Name} (h : fs.tree.get? (dir ++ [name]) = none) :
    fs.Grows (withDirectory fs dir name) :=
  grows_insert _ h

theorem makeUnmasked_eq (p : Path) (fs : Files) :
    makeUnmasked p fs
      = match fs.placeOf p with
        | .ok (.present _ _) => (.error .eexist, fs)
        | .ok (.absent dir name) => (.ok (), withDirectory fs dir name)
        | .error errno => (.error errno, fs) := by
  -- The mask has no part in where a path leads.
  have hplace : { fs with umask := 0 }.placeOf p = fs.placeOf p := rfl
  simp only [makeUnmasked, setUmask, makeDirectory_eq, hplace]
  cases fs.placeOf p with
  | error errno => rfl
  | ok place => cases place <;> rfl

theorem ensure_eq (hname : subdir ≠ "") :
    ensure root subdir fs
      = match fs.placeOf (path root subdir) with
        | .ok (.present _ _) => (.ok (), [], fs)
        | .ok (.absent dir name) =>
            (.ok (), [⟨.debug, logTarget, "Created directory: " ++ (path root subdir).display⟩],
              withDirectory fs dir name)
        | .error errno =>
            (.error ⟨path root subdir, errno⟩,
              [Log.failure (PinDirError.message ⟨path root subdir, errno⟩)], fs) := by
  unfold ensure
  rw [if_neg (by simpa using hname)]
  dsimp only
  rw [makeUnmasked_eq]
  cases hplace : fs.placeOf (path root subdir) with
  | ok place => cases place <;> rfl
  | error errno =>
    have herrno : ¬ (errno == Errno.eexist) = true := by
      rw [beq_iff_eq]
      intro h
      rw [h] at hplace
      exact placeOf_ne_eexist hplace
    dsimp only
    rw [if_neg herrno]

/-- A call for a pin directory, with the files around it. -/
structure Call where
  subdir : String
  before : Files
  result : Except PinDirError Unit
  after : Files

def callOf (root : Path) (fs : Files) (subdir : String) : Call :=
  ⟨subdir, fs, (ensure root subdir fs).1, (ensure root subdir fs).2.2⟩

theorem callOf_nameless (hname : subdir = "") :
    callOf root fs subdir = ⟨subdir, fs, .ok (), fs⟩ := by
  rw [hname]
  rfl

theorem callOf_found {key : Key} {entry : Entry} (hname : subdir ≠ "")
    (hplace : fs.placeOf (path root subdir) = .ok (.present key entry)) :
    callOf root fs subdir = ⟨subdir, fs, .ok (), fs⟩ := by
  rw [callOf, ensure_eq hname, hplace]

theorem callOf_free {dir : Key} {name : Name} (hname : subdir ≠ "")
    (hplace : fs.placeOf (path root subdir) = .ok (.absent dir name)) :
    callOf root fs subdir = ⟨subdir, fs, .ok (), withDirectory fs dir name⟩ := by
  rw [callOf, ensure_eq hname, hplace]

theorem callOf_refused {errno : Errno} (hname : subdir ≠ "")
    (hplace : fs.placeOf (path root subdir) = .error errno) :
    callOf root fs subdir = ⟨subdir, fs, .error ⟨path root subdir, errno⟩, fs⟩ := by
  rw [callOf, ensure_eq hname, hplace]

theorem callOf_cases (root : Path) (fs : Files) (subdir : String) :
    (subdir = "" ∧ callOf root fs subdir = ⟨subdir, fs, .ok (), fs⟩)
      ∨ (subdir ≠ "" ∧ ∃ key entry, fs.placeOf (path root subdir) = .ok (.present key entry)
        ∧ callOf root fs subdir = ⟨subdir, fs, .ok (), fs⟩)
      ∨ (subdir ≠ "" ∧ ∃ dir name, fs.placeOf (path root subdir) = .ok (.absent dir name)
        ∧ callOf root fs subdir = ⟨subdir, fs, .ok (), withDirectory fs dir name⟩)
      ∨ (subdir ≠ "" ∧ ∃ errno, fs.placeOf (path root subdir) = .error errno
        ∧ callOf root fs subdir = ⟨subdir, fs, .error ⟨path root subdir, errno⟩, fs⟩) := by
  by_cases hname : subdir = ""
  · exact .inl ⟨hname, callOf_nameless hname⟩
  · cases hplace : fs.placeOf (path root subdir) with
    | error errno => exact .inr (.inr (.inr ⟨hname, errno, rfl, callOf_refused hname hplace⟩))
    | ok place =>
      cases place with
      | present key entry => exact .inr (.inl ⟨hname, key, entry, rfl, callOf_found hname hplace⟩)
      | absent dir name => exact .inr (.inr (.inl ⟨hname, dir, name, rfl, callOf_free hname hplace⟩))

/-- The call put a directory where the path of the pin directory led to a missing name. -/
structure Call.Makes (root : Path) (c : Call) (dir : Key) (name : Name) (bits : Nat) : Prop where
  named : c.subdir ≠ ""
  succeeds : c.result = .ok ()
  missing : c.before.placeOf (path root c.subdir) = .ok (.absent dir name)
  found : c.after.placeOf (path root c.subdir) = .ok (.present (dir ++ [name]) (.directory bits))
  unmasked : (∀ parent, c.before.tree.get? dir = some parent → parent.mode &&& setGroupId = 0) →
    bits = 0o1777

theorem makes_of_placeOf_absent {dir : Key} {name : Name} (hname : subdir ≠ "")
    (hplace : fs.placeOf (path root subdir) = .ok (.absent dir name)) :
    (callOf root fs subdir).Makes root dir name (modeBelow fs dir) := by
  have hgrows : fs.Grows (withDirectory fs dir name) :=
    grows_withDirectory (get?_of_placeOf_absent hplace)
  have hdirectory : (withDirectory fs dir name).tree.get? (Place.absent dir name).key
      = some (.directory (modeBelow fs dir)) := by
    rw [Place.key, get?_withDirectory, if_pos rfl]
  rw [callOf_free hname hplace]
  exact ⟨hname, rfl, hplace, placeOf_of_directory hgrows hplace hdirectory, modeBelow_eq⟩

/-! ## Calls in turn -/

/-- The calls for pin directories in turn. They go on after one that failed. -/
def calls (root : Path) : Files → List String → List Call
  | _, [] => []
  | fs, subdir :: rest =>
      callOf root fs subdir :: calls root (callOf root fs subdir).after rest

/-- What a series of calls did to the files. -/
structure Leaves (root : Path) (run : List Call) (fs fs' : Files) : Prop where
  grows : fs.Grows fs'
  kept : ∀ c ∈ run, c.after.Grows fs'
  new : ∀ key entry, fs'.tree.get? key = some entry → fs.tree.get? key = none →
    ∃ c ∈ run, ∃ dir name bits, c.Makes root dir name bits ∧ key = dir ++ [name]
      ∧ entry = .directory bits

theorem leaves_nil (root : Path) (fs : Files) : Leaves root [] fs fs where
  grows := .refl fs
  kept := nofun
  new key entry hentry hnone := by
    rw [hnone] at hentry
    cases hentry

theorem leaves_of_after_eq {c : Call} (h : c.after = fs) : Leaves root [c] fs c.after where
  grows := by
    rw [h]
    exact .refl fs
  kept c' hc' := by
    rw [List.mem_singleton.mp hc']
    exact .refl _
  new key entry hentry hnone := by
    rw [h, hnone] at hentry
    cases hentry

theorem leaves_of_placeOf_absent {dir : Key} {name : Name} (hname : subdir ≠ "")
    (hplace : fs.placeOf (path root subdir) = .ok (.absent dir name)) :
    Leaves root [callOf root fs subdir] fs (callOf root fs subdir).after where
  grows := by
    rw [callOf_free hname hplace]
    exact grows_withDirectory (get?_of_placeOf_absent hplace)
  kept c hc := by
    rw [List.mem_singleton.mp hc]
    exact .refl _
  new key entry hentry hnone := by
    rw [callOf_free hname hplace, get?_withDirectory] at hentry
    by_cases hkey : key = dir ++ [name]
    · rw [if_pos hkey] at hentry
      cases hentry
      exact ⟨_, List.mem_singleton_self _, dir, name, _, makes_of_placeOf_absent hname hplace, hkey, rfl⟩
    · rw [if_neg hkey, hnone] at hentry
      cases hentry

theorem leaves_callOf (root : Path) (fs : Files) (subdir : String) :
    Leaves root [callOf root fs subdir] fs (callOf root fs subdir).after := by
  rcases callOf_cases root fs subdir with
    ⟨-, hcall⟩ | ⟨-, _, _, -, hcall⟩ | ⟨hname, _, _, hplace, -⟩ | ⟨-, _, -, hcall⟩
  · exact leaves_of_after_eq (congrArg Call.after hcall)
  · exact leaves_of_after_eq (congrArg Call.after hcall)
  · exact leaves_of_placeOf_absent hname hplace
  · exact leaves_of_after_eq (congrArg Call.after hcall)

theorem Leaves.trans {run run' : List Call} {fs'' : Files} (h : Leaves root run fs fs')
    (h' : Leaves root run' fs' fs'') : Leaves root (run ++ run') fs fs'' where
  grows := h.grows.trans h'.grows
  kept c hc := by
    rcases List.mem_append.mp hc with hc | hc
    · exact (h.kept c hc).trans h'.grows
    · exact h'.kept c hc
  new key entry hentry hnone := by
    cases hmid : fs'.tree.get? key with
    | none =>
      obtain ⟨c, hc, hmakes⟩ := h'.new key entry hentry hmid
      exact ⟨c, List.mem_append_right run hc, hmakes⟩
    | some entry' =>
      have hsame := (h'.grows.tree key entry' hmid).symm.trans hentry
      cases hsame
      obtain ⟨c, hc, hmakes⟩ := h.new key entry hmid hnone
      exact ⟨c, List.mem_append_left run' hc, hmakes⟩

/-- A series of calls that is cut anywhere goes on from the files that its first part left. -/
theorem exists_leaves_of_calls {earlier later : List Call} {subdirs : List String}
    (h : calls root fs subdirs = earlier ++ later) :
    ∃ fs' rest, later = calls root fs' rest ∧ Leaves root earlier fs fs' := by
  -- One call after the other is moved to the first part, and adds what it did to what the others did.
  induction earlier generalizing fs subdirs with
  | nil => exact ⟨fs, subdirs, h.symm, leaves_nil root fs⟩
  | cons c earlier ih =>
    cases subdirs with
    | nil => cases h
    | cons subdir subdirs =>
      rw [calls, List.cons_append, List.cons.injEq] at h
      obtain ⟨rfl, hrest⟩ := h
      obtain ⟨fs', rest, hlater, hleaves⟩ := ih hrest
      exact ⟨fs', rest, hlater, (leaves_callOf root fs subdir).trans hleaves⟩

theorem exists_leaves_of_calls_cons {earlier later : List Call} {c : Call} {subdirs : List String}
    (h : calls root fs subdirs = earlier ++ c :: later) :
    ∃ fs', c = callOf root fs' c.subdir ∧ Leaves root earlier fs fs' := by
  obtain ⟨fs', rest, hlater, hleaves⟩ := exists_leaves_of_calls h
  cases rest with
  | nil => cases hlater
  | cons subdir rest =>
    obtain ⟨rfl, -⟩ := List.cons.inj hlater
    exact ⟨fs', rfl, hleaves⟩

theorem exists_grows_of_mem_calls {c : Call} {subdirs : List String}
    (h : c ∈ calls root fs subdirs) :
    ∃ fs', c = callOf root fs' c.subdir ∧ fs.Grows fs' := by
  obtain ⟨earlier, later, hrun⟩ := List.append_of_mem h
  obtain ⟨fs', hcall, hleaves⟩ := exists_leaves_of_calls_cons hrun
  exact ⟨fs', hcall, hleaves.grows⟩

/-- What a call that succeeded asked for is found by all calls after it. -/
theorem placeOf_of_callOf_ok (hname : subdir ≠ "") (hok : (callOf root fs subdir).result = .ok ())
    (hgrows : (callOf root fs subdir).after.Grows fs') :
    ∃ key entry, fs'.placeOf (path root subdir) = .ok (.present key entry) := by
  rcases callOf_cases root fs subdir with
    ⟨hnameless, -⟩ | ⟨-, key, entry, hplace, hcall⟩ | ⟨-, dir, name, hplace, -⟩ | ⟨-, errno, -, hcall⟩
  · exact absurd hnameless hname
  · rw [hcall] at hgrows
    exact ⟨key, entry, placeOf_of_present hgrows hplace⟩
  · have hfound := (makes_of_placeOf_absent hname hplace).found
    exact ⟨_, _, placeOf_of_present hgrows hfound⟩
  · rw [hcall] at hok
    cases hok

theorem callOf_error_iff (e : PinDirError) :
    (callOf root fs subdir).result = .error e
      ↔ subdir ≠ "" ∧ e.path = path root subdir ∧ e.errno ≠ .eexist
        ∧ fs.makeDirectory e.path mode = .error e.errno := by
  rw [makeDirectory_error_iff]
  constructor
  · intro h
    rcases callOf_cases root fs subdir with
      ⟨-, hcall⟩ | ⟨-, _, _, -, hcall⟩ | ⟨-, _, _, -, hcall⟩ | ⟨hname, errno, hplace, hcall⟩
    · rw [hcall] at h
      cases h
    · rw [hcall] at h
      cases h
    · rw [hcall] at h
      cases h
    · rw [hcall] at h
      cases h
      exact ⟨hname, rfl, hplace⟩
  · rintro ⟨hname, hpath, hplace⟩
    rw [hpath] at hplace
    rw [callOf_refused hname hplace, ← hpath]

theorem after_callOf_of_error {e : PinDirError} (h : (callOf root fs subdir).result = .error e) :
    (callOf root fs subdir).after = fs := by
  obtain ⟨hname, hpath, hmake⟩ := (callOf_error_iff e).mp h
  have hplace := makeDirectory_error_iff.mp hmake
  rw [hpath] at hplace
  rw [callOf_refused hname hplace]

/-- What holds of a series of calls that starts with the files `fs`. -/
structure Harmless (root : Path) (fs : Files) (run : List Call) : Prop where
  mask : ∀ c ∈ run, c.before.umask = fs.umask ∧ c.after.umask = fs.umask
  kept : ∀ c ∈ run, fs.tree.IsWithin c.after.tree ∧ c.before.tree.IsWithin c.after.tree
  new : ∀ earlier c later, run = earlier ++ c :: later →
    ∀ key entry, c.after.tree.get? key = some entry → fs.tree.get? key = none →
      ∃ maker ∈ earlier ++ [c], ∃ dir name bits, maker.Makes root dir name bits
        ∧ key = dir ++ [name] ∧ entry = .directory bits
  made : ∀ c ∈ run, c.subdir ≠ "" → ∀ dir name,
    c.before.placeOf (path root c.subdir) = .ok (.absent dir name) →
      ∃ bits, c.Makes root dir name bits
  fails : ∀ c ∈ run, ∀ e, c.result = .error e
    ↔ c.subdir ≠ "" ∧ e.path = path root c.subdir ∧ e.errno ≠ .eexist
      ∧ c.before.makeDirectory e.path 0o1777 = .error e.errno
  failed : ∀ c ∈ run, ∀ e, c.result = .error e → c.after = c.before
  repeated : ∀ earlier c later, run = earlier ++ c :: later →
    ∀ first ∈ earlier, first.subdir = c.subdir → first.result = .ok () →
      c.result = .ok () ∧ c.after = c.before
  nameless : ∀ c ∈ run, c.subdir = "" → c.result = .ok () ∧ c.after = c.before
  absolute : ∀ c ∈ run, (Path.ofString c.subdir).isAbsolute = true →
    path root c.subdir = .ofString c.subdir

/-- Calls for pin directories add these directories to the files, and do nothing else to them. -/
theorem calls_harmless (root : Path) (fs : Files) (subdirs : List String) :
    Harmless root fs (calls root fs subdirs) where
  mask c hc := by
    obtain ⟨fs', hcall, hgrows⟩ := exists_grows_of_mem_calls hc
    have hafter := (leaves_callOf root fs' c.subdir).grows
    rw [hcall]
    exact ⟨hgrows.umask, (hgrows.trans hafter).umask⟩
  kept c hc := by
    obtain ⟨fs', hcall, hgrows⟩ := exists_grows_of_mem_calls hc
    have hafter := (leaves_callOf root fs' c.subdir).grows
    rw [hcall]
    exact ⟨(hgrows.trans hafter).tree, hafter.tree⟩
  new earlier c later hrun := by
    obtain ⟨fs', hcall, hleaves⟩ := exists_leaves_of_calls_cons hrun
    have hall := hleaves.trans (leaves_callOf root fs' c.subdir)
    rw [← hcall] at hall
    exact hall.new
  made c hc hname dir name hplace := by
    obtain ⟨fs', hcall, -⟩ := exists_grows_of_mem_calls hc
    rw [hcall] at hplace ⊢
    exact ⟨_, makes_of_placeOf_absent hname hplace⟩
  fails c hc e := by
    obtain ⟨fs', hcall, -⟩ := exists_grows_of_mem_calls hc
    rw [hcall]
    exact callOf_error_iff e
  failed c hc e he := by
    obtain ⟨fs', hcall, -⟩ := exists_grows_of_mem_calls hc
    rw [hcall] at he ⊢
    exact after_callOf_of_error he
  repeated earlier c later hrun first hfirst hsubdir hok := by
    obtain ⟨fs', hcall, hleaves⟩ := exists_leaves_of_calls_cons hrun
    have hmem : first ∈ calls root fs subdirs := by
      rw [hrun]
      exact List.mem_append_left _ hfirst
    obtain ⟨fs₀, hcall₀, -⟩ := exists_grows_of_mem_calls hmem
    have hkept := hleaves.kept first hfirst
    rw [hsubdir] at hcall₀
    rw [hcall₀] at hok hkept
    rw [hcall]
    by_cases hname : c.subdir = ""
    · rw [callOf_nameless hname]
      exact ⟨rfl, rfl⟩
    · -- What the first call asked for has been there since, so the later one finds it in the way.
      obtain ⟨key, entry, hplace⟩ := placeOf_of_callOf_ok hname hok hkept
      rw [callOf_found hname hplace]
      exact ⟨rfl, rfl⟩
  nameless c hc hname := by
    obtain ⟨fs', hcall, -⟩ := exists_grows_of_mem_calls hc
    rw [hcall, callOf_nameless hname]
    exact ⟨rfl, rfl⟩
  absolute c _ habsolute := Path.join_of_isAbsolute root habsolute

/-! ## Entries in the way -/

/-- Under the path stands what is no directory and leads to none. -/
inductive Obstructed (fs : Files) (p : Path) : Prop where
  | file {key : Key} {bits : Nat} {data : Bytes} :
      fs.placeOf p = .ok (.present key (.file bits data)) → Obstructed fs p
  | link {key : Key} {target : Bytes} :
      fs.placeOf p = .ok (.present key (.symlink target)) → fs.leadsToDirectory p = false →
      Obstructed fs p

theorem leadsToDirectory_of_obstructed {p : Path} (h : Obstructed fs p) :
    fs.leadsToDirectory p = false := by
  cases h with
  | file hplace => exact leadsToDirectory_of_file hplace
  | link _ hleads => exact hleads

theorem not_obstructed_iff {p : Path} {key : Key} {entry : Entry}
    (hplace : fs.placeOf p = .ok (.present key entry)) :
    ¬ Obstructed fs p ↔ fs.leadsToDirectory p = true := by
  constructor
  · intro hfree
    cases entry with
    | file bits data => exact absurd (.file hplace) hfree
    | directory bits =>
      have hentry : fs.tree.get? (Place.present key (.directory bits)).key = some (.directory bits) :=
        get?_of_placeOf_present hplace
      exact leadsToDirectory_of_directory (.refl fs) hplace hentry
    | symlink target =>
      cases hleads : fs.leadsToDirectory p with
      | true => rfl
      | false => exact absurd (.link hplace hleads) hfree
  · intro hleads hobstructed
    rw [leadsToDirectory_of_obstructed hobstructed] at hleads
    cases hleads

/-- A call that succeeded leaves a directory under the path, unless something else was there already; and that
it leaves as it is. -/
theorem callOf_leadsToDirectory_iff (hname : subdir ≠ "")
    (hok : (callOf root fs subdir).result = .ok ()) :
    ((callOf root fs subdir).after.leadsToDirectory (path root subdir) = true
        ↔ ¬ Obstructed fs (path root subdir))
      ∧ (Obstructed fs (path root subdir) → (callOf root fs subdir).after = fs) := by
  rcases callOf_cases root fs subdir with
    ⟨hnameless, -⟩ | ⟨-, key, entry, hplace, hcall⟩ | ⟨-, dir, name, hplace, hcall⟩ | ⟨-, errno, -, hcall⟩
  · exact absurd hnameless hname
  · rw [hcall]
    exact ⟨(not_obstructed_iff hplace).symm, fun _ => rfl⟩
  · have hfree : ¬ Obstructed fs (path root subdir) := by
      intro hobstructed
      cases hobstructed with
      | file h => cases hplace.symm.trans h
      | link h _ => cases hplace.symm.trans h
    have hmade : (callOf root fs subdir).after.leadsToDirectory (path root subdir) = true := by
      have hgrows := (leaves_callOf root fs subdir).grows
      rw [hcall] at hgrows ⊢
      apply leadsToDirectory_of_directory hgrows hplace
      exact (get?_withDirectory fs dir name _).trans (if_pos rfl)
    exact ⟨iff_of_true hmade hfree, fun hobstructed => absurd hobstructed hfree⟩
  · rw [hcall] at hok
    cases hok

/-- A machine on which a file has the name of a pin directory. -/
def occupied : Files where
  tree := ⟨[([Text.Utf8.encode "bpf"], .directory 0o755),
    ([Text.Utf8.encode "bpf", Text.Utf8.encode "tethering"], .file 0o644 [])]⟩
  cwd := []
  umask := 0o022

theorem placeOf_occupied :
    occupied.placeOf (path (.ofString "/bpf") "tethering")
      = .ok (.present [Text.Utf8.encode "bpf", Text.Utf8.encode "tethering"] (.file 0o644 [])) := by
  rw [placeOf_eq_ok_iff]
  refine ⟨⟨rfl, by decide, by decide⟩, ?_⟩
  exact .down ⟨by decide, by decide, by decide⟩ rfl (.file ⟨by decide, by decide, by decide⟩ rfl)

/-- The call succeeds and there is no directory. -/
theorem callOf_occupied :
    ("tethering" ≠ "" ∧ (callOf (.ofString "/bpf") occupied "tethering").result = .ok ())
      ∧ (callOf (.ofString "/bpf") occupied "tethering").after.leadsToDirectory
          (path (.ofString "/bpf") "tethering") = false := by
  have hname : "tethering" ≠ "" := by decide
  have hok : (callOf (.ofString "/bpf") occupied "tethering").result = .ok () := by
    rw [callOf_found hname placeOf_occupied]
  refine ⟨⟨hname, hok⟩, ?_⟩
  rw [← Bool.not_eq_true]
  intro hleads
  exact (callOf_leadsToDirectory_iff hname hok).1.mp hleads (.file placeOf_occupied)

end BpfBoot.PinDirs
