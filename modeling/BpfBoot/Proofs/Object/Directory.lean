import BpfBoot.Bootstrap
import BpfBoot.Proofs.Log.Session

/-!
# Loading a directory, object by object

The loader is asked for the object files of a listing in the byte order of their names, each of them
once, whatever became of the earlier ones. Everything about the run is read off the answers it gave: the
result is the last critical failure among them, and each answer leaves one report.

The answers are a list of attempts. A loader that also takes notes gives the same answers, so what is
known about the attempts of a loader is known about those of the loader that is watched.
-/

namespace BpfBoot

/-! ## Byte order -/

theorem Name.le_iff (a b : Name) : Name.le a b = true ↔ a ≤ b := by
  induction a generalizing b with
  | nil => simp [Name.le]
  | cons x a ih =>
      cases b with
      | nil => simp [Name.le]
      | cons y b =>
          rw [List.cons_le_cons_iff, ← ih b]
          simp [Name.le]

theorem Name.le_trans (a b c : Name) (hab : Name.le a b = true) (hbc : Name.le b c = true) :
    Name.le a c = true := by
  rw [Name.le_iff] at *
  exact List.le_trans hab hbc

theorem Name.le_total (a b : Name) : (Name.le a b || Name.le b a) = true := by
  rw [Bool.or_eq_true, Name.le_iff, Name.le_iff]
  exact List.le_total a b

theorem Name.le_antisymm {a b : Name} (hab : Name.le a b = true) (hba : Name.le b a = true) :
    a = b := by
  rw [Name.le_iff] at hab hba
  exact List.le_antisymm hab hba

namespace Object

open Log

theorem isObjectFile_iff (name : Name) : isObjectFile name = true ↔ [0x2e, 0x6f] <:+ name :=
  List.isSuffixOf_iff_suffix

theorem filter_isObjectFile (listing : List Name) :
    listing.filter isObjectFile = listing.filter fun name => [0x2e, 0x6f] <:+ name := by
  apply List.filter_congr
  intro name _
  rw [Bool.eq_iff_iff, isObjectFile_iff, decide_eq_true_iff]

theorem objectFileNames_eq (listing : List Name) :
    objectFileNames listing
      = (listing.filter fun name => [0x2e, 0x6f] <:+ name).mergeSort fun a b => a ≤ b := by
  have horder : Name.le = fun a b => decide (a ≤ b) := by
    funext a b
    rw [Bool.eq_iff_iff, Name.le_iff, decide_eq_true_iff]
  rw [objectFileNames, filter_isObjectFile, horder]

theorem objectFileNames_perm (listing : List Name) :
    (objectFileNames listing).Perm (listing.filter isObjectFile) :=
  List.mergeSort_perm _ _

theorem mem_objectFileNames {listing : List Name} {name : Name} :
    name ∈ objectFileNames listing ↔ name ∈ listing ∧ [0x2e, 0x6f] <:+ name := by
  rw [(objectFileNames_perm listing).mem_iff, List.mem_filter, isObjectFile_iff]

theorem objectFileNames_pairwise_le (listing : List Name) :
    (objectFileNames listing).Pairwise (· ≤ ·) := by
  have h := List.pairwise_mergeSort Name.le_trans Name.le_total (listing.filter isObjectFile)
  exact h.imp fun hab => (Name.le_iff _ _).mp hab

/-- No name stands twice in a directory, so the order is strict there. -/
theorem objectFileNames_pairwise_lt {listing : List Name} (h : listing.Nodup) :
    (objectFileNames listing).Pairwise (· < ·) := by
  have hnodup : (objectFileNames listing).Nodup :=
    (objectFileNames_perm listing).nodup_iff.mpr (h.filter _)
  refine ((objectFileNames_pairwise_le listing).and hnodup).imp ?_
  rintro a b ⟨hle, hne⟩
  exact (List.le_iff_lt_or_eq.mp hle).resolve_right hne

/-- The order of a listing does not matter. -/
theorem objectFileNames_congr {listing listing' : List Name} (h : listing.Perm listing') :
    objectFileNames listing = objectFileNames listing' := by
  apply List.Perm.eq_of_pairwise (fun a b _ _ => Name.le_antisymm)
  · exact List.pairwise_mergeSort Name.le_trans Name.le_total _
  · exact List.pairwise_mergeSort Name.le_trans Name.le_total _
  · exact (objectFileNames_perm listing).trans
      ((h.filter _).trans (objectFileNames_perm listing').symm)

/-! ## Attempts -/

/-- The failure of a critical object. -/
def LoadResult.criticalFailure? (load : LoadResult) : Option ObjectError :=
  match load.result with
  | .ok () => none
  | .error e => if load.critical then some e else none

theorem LoadResult.criticalFailure?_eq_none_iff {load : LoadResult} :
    load.criticalFailure? = none ↔ (load.critical = true → load.result = .ok ()) := by
  unfold criticalFailure?
  cases load.result with
  | ok _ => simp
  | error e => simp

/-- An attempt to load an object file: its name, and what the loader gave back. -/
structure Attempt (σ : Type) where
  name : Name
  outcome : Outcome LoadResult σ

variable {σ τ : Type}

namespace Attempt

/-- The object is critical, and it was not loaded. -/
def FailsCritically (a : Attempt σ) (e : ObjectError) : Prop :=
  a.outcome.value.critical = true ∧ a.outcome.value.result = .error e

theorem criticalFailure?_eq_some_iff {a : Attempt σ} {e : ObjectError} :
    a.outcome.value.criticalFailure? = some e ↔ a.FailsCritically e := by
  unfold LoadResult.criticalFailure? FailsCritically
  cases a.outcome.value.result with
  | ok _ => simp
  | error e' => simp

/-- The failure of the last critical object that was not loaded. -/
def lastCriticalFailure? (tries : List (Attempt σ)) : Option ObjectError :=
  (tries.filterMap fun a => a.outcome.value.criticalFailure?).getLast?

@[simp] theorem lastCriticalFailure?_nil :
    lastCriticalFailure? ([] : List (Attempt σ)) = none := rfl

theorem lastCriticalFailure?_cons (a : Attempt σ) (tries : List (Attempt σ)) :
    lastCriticalFailure? (a :: tries)
      = (lastCriticalFailure? tries).or a.outcome.value.criticalFailure? := by
  unfold lastCriticalFailure?
  rw [List.filterMap_cons]
  cases a.outcome.value.criticalFailure? with
  | none => simp
  | some e =>
      simp only [List.getLast?_cons]
      cases (tries.filterMap fun a => a.outcome.value.criticalFailure?).getLast? <;> simp

theorem lastCriticalFailure?_eq_none_iff {tries : List (Attempt σ)} :
    lastCriticalFailure? tries = none ↔ ∀ a ∈ tries, ∀ e, ¬ a.FailsCritically e := by
  rw [lastCriticalFailure?, List.getLast?_eq_none_iff, List.filterMap_eq_nil_iff]
  simp only [Option.eq_none_iff_forall_ne_some, ne_eq, criticalFailure?_eq_some_iff]

/-- No later object failed critically. -/
theorem exists_of_lastCriticalFailure?_eq_some {tries : List (Attempt σ)} {e : ObjectError}
    (h : lastCriticalFailure? tries = some e) :
    ∃ before a after, tries = before ++ a :: after ∧ a.FailsCritically e
      ∧ ∀ b ∈ after, ∀ e, ¬ b.FailsCritically e := by
  induction tries with
  | nil => simp at h
  | cons a tries ih =>
      rw [lastCriticalFailure?_cons] at h
      cases hlater : lastCriticalFailure? tries with
      | none =>
          rw [hlater, Option.none_or] at h
          exact ⟨[], a, tries, rfl, criticalFailure?_eq_some_iff.mp h,
            lastCriticalFailure?_eq_none_iff.mp hlater⟩
      | some e' =>
          rw [hlater, Option.some_or] at h
          obtain ⟨before, c, after, rfl, hc, hafter⟩ := ih (hlater.trans h)
          exact ⟨a :: before, c, after, rfl, hc, hafter⟩

def report (a : Attempt σ) (dir : Path) : Event :=
  match a.outcome.value.result with
  | .ok () => Directory.loadedEvent (dir.join ⟨a.name⟩)
  | .error e => Directory.failedEvent (dir.join ⟨a.name⟩) a.outcome.value.critical e

end Attempt

namespace Directory

variable (loader : ObjectLoader σ) (version : LoaderVersion) (location : Location)

def fileIn (location : Location) (name : Name) : Path :=
  (Path.ofString location.dir).join ⟨name⟩

/-- The attempts of a loader that is asked for files one after the other. -/
def attempts : List Name → σ → List (Attempt σ)
  | [], _ => []
  | name :: rest, w =>
      let outcome := loader (fileIn location name) version location w
      ⟨name, outcome⟩ :: attempts rest outcome.world

/-- The world after some attempts that began in the world `w`. -/
def worldAfter (w : σ) (tries : List (Attempt σ)) : σ :=
  tries.foldl (fun _ a => a.outcome.world) w

/-- What some attempts leave in the log. -/
def eventsOf (tries : List (Attempt σ)) : List Event :=
  tries.flatMap fun a => a.outcome.events ++ [a.report (.ofString location.dir)]

theorem attempts_names (names : List Name) (w : σ) :
    (attempts loader version location names w).map Attempt.name = names := by
  induction names generalizing w with
  | nil => rfl
  | cons name rest ih => simp [attempts, ih]

/-- Attempts that are cut anywhere are the attempts for the names on each side of the cut. -/
theorem attempts_of_eq_append {names : List Name} {w : σ} {before later : List (Attempt σ)}
    (h : attempts loader version location names w = before ++ later) :
    attempts loader version location (before.map Attempt.name) w = before
      ∧ attempts loader version location (later.map Attempt.name) (worldAfter w before) = later := by
  induction before generalizing names w with
  | nil =>
      refine ⟨rfl, ?_⟩
      rw [List.nil_append] at h
      rw [← h, attempts_names]
      rfl
  | cons a before ih =>
      cases names with
      | nil => cases h
      | cons name rest =>
          rw [attempts, List.cons_append, List.cons.injEq] at h
          obtain ⟨rfl, hrest⟩ := h
          obtain ⟨hbefore, hlater⟩ := ih hrest
          exact ⟨congrArg _ hbefore, hlater⟩

theorem attempts_append (names names' : List Name) (w : σ) :
    attempts loader version location (names ++ names') w
      = attempts loader version location names w
        ++ attempts loader version location names'
            (worldAfter w (attempts loader version location names w)) := by
  induction names generalizing w with
  | nil => rfl
  | cons name rest ih =>
      rw [List.cons_append, attempts, attempts, ih]
      rfl

/-- Each outcome is one that the loader gives in some world. -/
theorem exists_outcome_of_mem_attempts {names : List Name} {w : σ} {a : Attempt σ}
    (ha : a ∈ attempts loader version location names w) :
    ∃ w', loader (fileIn location a.name) version location w' = a.outcome := by
  induction names generalizing w with
  | nil => cases ha
  | cons name rest ih =>
      rcases List.mem_cons.mp ha with rfl | ha
      · exact ⟨w, rfl⟩
      · exact ih ha

theorem on_loadOne (name : Name) (s : Session σ) :
    (loadOne loader version location (fileIn location name)).on s
      = let a : Attempt σ := ⟨name, loader (fileIn location name) version location s.world⟩
        (a.outcome.value.criticalFailure?,
          ⟨a.outcome.world, s.events ++ (a.outcome.events ++ [a.report (.ofString location.dir)])⟩) := by
  simp only [loadOne, Logged.on_bind, Logged.on_follow, LoadResult.criticalFailure?,
    Attempt.report]
  cases (loader (fileIn location name) version location s.world).value.result with
  | ok _ => simp [fileIn]
  | error e =>
      simp only [fileIn, Logged.on_bind, Logged.on_report, Logged.on_pure, List.append_assoc]
      rfl

/-- Loading files one after the other is read off the attempts. -/
theorem on_loadEach (last : Option ObjectError) (names : List Name) (s : Session σ) :
    (loadEach loader version location last (names.map (fileIn location))).on s
      = let tries := attempts loader version location names s.world
        ((Attempt.lastCriticalFailure? tries).or last,
          ⟨worldAfter s.world tries, s.events ++ eventsOf location tries⟩) := by
  induction names generalizing last s with
  | nil => simp [loadEach, attempts, worldAfter, eventsOf]
  | cons name rest ih =>
      simp only [List.map_cons, loadEach, Logged.on_bind, on_loadOne, ih, attempts]
      rw [Attempt.lastCriticalFailure?_cons, Option.or_assoc]
      simp [worldAfter, eventsOf]

end Directory

/-! ## Loaders that take notes -/

/-- A loader that also takes notes of what it is asked and of what it gives back. -/
def ObjectLoader.noting (loader : ObjectLoader σ)
    (note : Path → LoaderVersion → Location → LoadResult → τ → τ) : ObjectLoader (σ × τ) :=
  fun p version location w =>
    let outcome := loader p version location w.1
    ⟨outcome.value, outcome.events, (outcome.world, note p version location outcome.value w.2)⟩

theorem ObjectLoader.recording_eq_noting (loader : ObjectLoader σ) :
    loader.recording
      = loader.noting fun p version location _ requests =>
          .loadObject p version location :: requests := rfl

/-- An attempt without the notes that were taken of it. -/
def Attempt.plain (a : Attempt (σ × τ)) : Attempt σ :=
  ⟨a.name, ⟨a.outcome.value, a.outcome.events, a.outcome.world.1⟩⟩

theorem Attempt.lastCriticalFailure?_map_plain (tries : List (Attempt (σ × τ))) :
    lastCriticalFailure? (tries.map plain) = lastCriticalFailure? tries := by
  unfold lastCriticalFailure?
  rw [List.filterMap_map]
  rfl

namespace Directory

variable (loader : ObjectLoader σ) (version : LoaderVersion) (location : Location)
  (note : Path → LoaderVersion → Location → LoadResult → τ → τ)

/-- The notes of some attempts, after the notes `t`. -/
def notesOf (t : τ) (tries : List (Attempt σ)) : τ :=
  tries.foldl (fun t a => note (fileIn location a.name) version location a.outcome.value t) t

theorem eventsOf_map_plain (tries : List (Attempt (σ × τ))) :
    eventsOf location (tries.map Attempt.plain) = eventsOf location tries := by
  unfold eventsOf
  rw [List.flatMap_map]
  rfl

/-- Taking notes does not change what happens. -/
theorem attempts_noting (names : List Name) (w : σ) (t : τ) :
    (attempts (loader.noting note) version location names (w, t)).map Attempt.plain
      = attempts loader version location names w := by
  induction names generalizing w t with
  | nil => rfl
  | cons name rest ih =>
      rw [attempts, attempts, List.map_cons]
      exact congrArg _ (ih _ _)

theorem worldAfter_noting (names : List Name) (w : σ) (t : τ) :
    worldAfter (w, t) (attempts (loader.noting note) version location names (w, t))
      = (worldAfter w (attempts loader version location names w),
          notesOf version location note t (attempts loader version location names w)) := by
  induction names generalizing w t with
  | nil => rfl
  | cons name rest ih =>
      rw [attempts, attempts]
      exact ih _ _

theorem notesOf_requests (requests : List Request) (tries : List (Attempt σ)) :
    (notesOf version location (fun p version location _ requests =>
        .loadObject p version location :: requests) requests tries).reverse
      = requests.reverse ++ tries.map fun a =>
          .loadObject (fileIn location a.name) version location := by
  induction tries generalizing requests with
  | nil => simp [notesOf]
  | cons a rest ih =>
      simp only [notesOf, List.foldl_cons, List.map_cons] at ih ⊢
      rw [ih, List.reverse_cons, List.append_assoc]
      rfl

/-! ## Whole directories -/

/-- The result of a directory whose object files were attempted. -/
def resultOf (tries : List (Attempt σ)) : Except ObjectError Unit :=
  match Attempt.lastCriticalFailure? tries with
  | some e => .error e
  | none => .ok ()

theorem on_load_of_error (list : σ → Path → Except IoError (List Name)) (s : Session σ) {e : IoError}
    (h : list s.world (.ofString location.dir) = .error e) :
    (load list loader version location).on s
      = (.ok (), ⟨s.world, s.events ++ [skippedEvent (.ofString location.dir) e]⟩) := by
  simp [load, loadListing, h]

theorem on_load_of_ok (list : σ → Path → Except IoError (List Name)) (s : Session σ)
    {listing : List Name} (h : list s.world (.ofString location.dir) = .ok listing) :
    (load list loader version location).on s
      = let tries := attempts loader version location (objectFileNames listing) s.world
        (resultOf tries, ⟨worldAfter s.world tries, s.events ++ eventsOf location tries⟩) := by
  have hpaths : ((objectFileNames listing).map fun name =>
      (Path.ofString location.dir).join ⟨name⟩) = (objectFileNames listing).map (fileIn location) :=
    rfl
  simp only [load, loadListing, Logged.on_bind, Logged.on_look, h, hpaths, on_loadEach,
    Option.or_none, resultOf]
  cases Attempt.lastCriticalFailure? (attempts loader version location (objectFileNames listing)
    s.world)
  all_goals rfl

theorem on_load_noting_of_ok (list : σ → Path → Except IoError (List Name)) (w : σ) (t : τ)
    (events : List Event) {listing : List Name}
    (h : list w (.ofString location.dir) = .ok listing) :
    (load (fun s => list s.1) (loader.noting note) version location).on ⟨(w, t), events⟩
      = let tries := attempts loader version location (objectFileNames listing) w
        (resultOf tries, ⟨(worldAfter w tries, notesOf version location note t tries),
          events ++ eventsOf location tries⟩) := by
  rw [on_load_of_ok _ _ _ (fun s => list s.1) ⟨(w, t), events⟩ h]
  simp only
  rw [worldAfter_noting, ← eventsOf_map_plain, resultOf, ← Attempt.lastCriticalFailure?_map_plain,
    attempts_noting, resultOf]

/-- What a run over a directory with the given entries amounts to. `run` is the run with a loader whose
requests are kept; `tries` are the attempts of that loader. -/
structure LoadsAll (listing : List Name) (tries : List (Attempt σ))
    (run : Outcome (Except ObjectError Unit) (σ × List Request)) : Prop where
  /-- There is one attempt for each entry that ends in `.o`, whatever became of the others. -/
  entries : (tries.map Attempt.name).Perm (listing.filter fun name => [0x2e, 0x6f] <:+ name)
  ascending : (tries.map Attempt.name).Pairwise (· ≤ ·)
  /-- The order is strict, as the entries of a directory have different names. -/
  strictlyAscending : listing.Nodup → (tries.map Attempt.name).Pairwise (· < ·)
  /-- The attempts are all that the loader was asked for. -/
  requests : run.world.2.reverse = tries.map fun a =>
    .loadObject (fileIn location a.name) version location
  fails_iff : (∃ e, run.value = .error e) ↔ ∃ a ∈ tries, ∃ e, a.FailsCritically e
  /-- The failure is that of the greatest name. -/
  greatest : ∀ e, run.value = .error e → ∃ a ∈ tries, a.FailsCritically e
    ∧ ∀ b ∈ tries, (∃ e', b.FailsCritically e') → b.name ≤ a.name
  /-- Each attempt is reported after what it reported itself: for debugging if the object was loaded, and else
  on the error channel. -/
  events : run.events = tries.flatMap fun a => a.outcome.events ++
    [match a.outcome.value.result with
      | .ok () => ⟨.debug, "netbpfload::loader", "Loaded object: " ++ (fileIn location a.name).display⟩
      | .error e => ⟨.error, "error", "Failed to load object: " ++ (fileIn location a.name).display
          ++ ", critical: " ++ (if a.outcome.value.critical then "true" else "false")
          ++ ", ret: " ++ e.message⟩]

theorem resultOf_error_iff {tries : List (Attempt σ)} :
    (∃ e, resultOf tries = .error e) ↔ ∃ a ∈ tries, ∃ e, a.FailsCritically e := by
  unfold resultOf
  cases h : Attempt.lastCriticalFailure? tries with
  | none =>
      have hnone := Attempt.lastCriticalFailure?_eq_none_iff.mp h
      constructor
      · rintro ⟨e, he⟩
        cases he
      · rintro ⟨a, ha, e, he⟩
        exact absurd he (hnone a ha e)
  | some e =>
      obtain ⟨before, a, after, rfl, ha, -⟩ := Attempt.exists_of_lastCriticalFailure?_eq_some h
      exact ⟨fun _ => ⟨a, by simp, e, ha⟩, fun _ => ⟨e, rfl⟩⟩

theorem resultOf_greatest {tries : List (Attempt σ)} {e : ObjectError}
    (hsorted : (tries.map Attempt.name).Pairwise (· ≤ ·)) (h : resultOf tries = .error e) :
    ∃ a ∈ tries, a.FailsCritically e
      ∧ ∀ b ∈ tries, (∃ e', b.FailsCritically e') → b.name ≤ a.name := by
  unfold resultOf at h
  cases hlast : Attempt.lastCriticalFailure? tries with
  | none => rw [hlast] at h; cases h
  | some e' =>
      rw [hlast] at h
      cases h
      obtain ⟨before, a, after, rfl, ha, hafter⟩ :=
        Attempt.exists_of_lastCriticalFailure?_eq_some hlast
      refine ⟨a, by simp, ha, ?_⟩
      rintro b hb ⟨e', he'⟩
      rw [List.map_append, List.pairwise_append] at hsorted
      rcases List.mem_append.mp hb with hb | hb
      · exact hsorted.2.2 _ (List.mem_map_of_mem hb) _ (by simp)
      · rcases List.mem_cons.mp hb with rfl | hb
        · exact List.le_refl _
        · exact absurd he' (hafter b hb e')

/-- A run over the directory of a location with a loader whose requests are kept. -/
def watched (list : σ → Path → Except IoError (List Name)) (w : σ) :
    Outcome (Except ObjectError Unit) (σ × List Request) :=
  (load (fun s => list s.1) loader.recording version location).outcome (w, [])

theorem watched_of_ok {list : σ → Path → Except IoError (List Name)} {w : σ} {listing : List Name}
    (h : list w (.ofString location.dir) = .ok listing) :
    watched loader version location list w
      = let tries := attempts loader version location (objectFileNames listing) w
        ⟨resultOf tries, eventsOf location tries,
          (worldAfter w tries, notesOf version location (fun p version location _ requests =>
            .loadObject p version location :: requests) [] tries)⟩ := by
  rw [watched, ObjectLoader.recording_eq_noting, Logged.outcome_eq,
    on_load_noting_of_ok _ _ _ _ _ _ _ _ h]
  simp

theorem loadsAll_watched {list : σ → Path → Except IoError (List Name)} {w : σ}
    {listing : List Name} (h : list w (.ofString location.dir) = .ok listing) :
    LoadsAll version location listing
      (attempts loader version location (objectFileNames listing) w)
      (watched loader version location list w) := by
  rw [watched_of_ok _ _ _ h]
  have hnames := attempts_names loader version location (objectFileNames listing) w
  have hsorted : ((attempts loader version location (objectFileNames listing) w).map
      Attempt.name).Pairwise (· ≤ ·) := by
    rw [hnames]
    exact objectFileNames_pairwise_le listing
  refine ⟨?entries, hsorted, ?strictlyAscending, ?requests, resultOf_error_iff,
    fun e he => resultOf_greatest hsorted he, ?events⟩
  case entries =>
    rw [hnames, ← filter_isObjectFile]
    exact objectFileNames_perm listing
  case strictlyAscending =>
    intro hnodup
    rw [hnames]
    exact objectFileNames_pairwise_lt hnodup
  case requests => exact notesOf_requests version location [] _
  case events => rfl

/-- A directory is loaded object by object, in byte order and to its end, and fails with the last of its
critical failures; in which order the listing names the files makes no difference to anything. A directory
that cannot be listed holds nothing. -/
theorem load_attempts_every_object_file (list : σ → Path → Except IoError (List Name)) (w : σ) :
    (∀ e, list w (.ofString location.dir) = .error e →
      watched loader version location list w
        = ⟨.ok (), [⟨.debug, "netbpfload::loader",
            "Skipping " ++ (Path.ofString location.dir).display ++ ": " ++ e.message⟩], (w, [])⟩)
    ∧ (∀ listing, list w (.ofString location.dir) = .ok listing →
      LoadsAll version location listing
        (attempts loader version location (objectFileNames listing) w)
        (watched loader version location list w))
    ∧ (∀ list' listing listing', list w (.ofString location.dir) = .ok listing →
      list' w (.ofString location.dir) = .ok listing' → listing.Perm listing' →
        watched loader version location list w = watched loader version location list' w) := by
  refine ⟨?unlisted, ?listed, ?reordered⟩
  case unlisted =>
    intro e h
    rw [watched, Logged.outcome_eq, on_load_of_error _ _ _ (fun s => list s.1) ⟨(w, []), []⟩ h]
    rfl
  case listed =>
    intro listing h
    exact loadsAll_watched loader version location h
  case reordered =>
    intro list' listing listing' h h' hperm
    rw [watched_of_ok _ _ _ h, watched_of_ok _ _ _ h', objectFileNames_congr hperm]

theorem load_attempts_every_object_file_refusing :
    let refusing : ObjectLoader Nat := fun p _ _ count =>
      ⟨⟨true, .error (.unusable p)⟩, [], count + 1⟩
    let run (listing : Except IoError (List Name)) :=
      watched refusing ⟨44⟩ ⟨"bpf/", "net/"⟩ (fun _ _ => listing) 0
    let names : List Name := [[0x62, 0x2e, 0x6f], [0x63], [0x61, 0x2e, 0x6f]]
    run (.error (.os .enoent))
        = ⟨.ok (), [⟨.debug, "netbpfload::loader",
            "Skipping " ++ (Path.ofString "bpf/").display ++ ": " ++ (IoError.os .enoent).message⟩], (0, [])⟩
      ∧ LoadsAll ⟨44⟩ ⟨"bpf/", "net/"⟩ names
        (attempts refusing ⟨44⟩ ⟨"bpf/", "net/"⟩ (objectFileNames names) 0) (run (.ok names))
      ∧ run (.ok names) = run (.ok names.reverse) :=
  ⟨(load_attempts_every_object_file _ _ _ (fun _ _ => .error (.os .enoent)) 0).1 _ rfl,
    (load_attempts_every_object_file _ _ _ (fun _ _ => .ok _) 0).2.1 _ rfl,
    (load_attempts_every_object_file _ _ _ (fun _ _ => .ok _) 0).2.2 _ _ _ rfl rfl
      (List.reverse_perm _).symm⟩

end Directory

end Object

end BpfBoot
