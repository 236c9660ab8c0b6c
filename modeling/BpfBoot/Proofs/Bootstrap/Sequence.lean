import BpfBoot.Proofs.Bootstrap.Agenda
import BpfBoot.Proofs.Kernel.Support
import BpfBoot.Proofs.Object.Directory

/-!
# The order of the boot sequence

The boot sequence follows one agenda, which depends on the device, on the settings and on what the
directories hold, but on no reply: two init scripts are looked for, the checks are made, the switches are
set, the pin directories are made, the locations are loaded and BPF is tested. Each step fulfils its own
part of the agenda, and the whole follows from the rule for steps that are taken one after the other.
-/

namespace BpfBoot

open Log

namespace Exchange

def confirms : Exchange → Bool
  | .fileExists _ (.ok true) => true
  | _ => false

/-- The failure of a critical object. -/
def criticalFailure? : Exchange → Option Object.ObjectError
  | .loadObject _ _ _ load => load.criticalFailure?
  | _ => none

end Exchange

namespace Bootstrap

variable {σ : Type} (b : Bootstrap σ) (contents : Path → Except IoError (List Name))

/-! ## The agenda -/

/-- Exactly one of the two init scripts is there. -/
def scriptStage : Stage where
  requests := [.fileExists (.ofString bpfLoaderScript), .fileExists (.ofString netBpfLoadScript)]
  verdict xs :=
    match xs.countP Exchange.confirms with
    | 0 => some .missingInitScripts
    | 1 => none
    | _ => some .duplicateInitScripts
  parting := []

/-- The kernel is new enough for a release. -/
def floorStage (floor : Floor) : Stage :=
  .gate (floor.apiLevel ≤ b.caps.apiLevel ∧ b.caps.kernel < floor.required)
    (.kernelTooOld floor.release floor.required)

/-- The kernel is one that Android V supports. Under a generic system image it need not be, but then the
sequence pauses. -/
def supportStages : List Stage :=
  .gate (¬ b.caps.kernel.IsMaintained ∧ b.caps.gsi = false) (.unsupportedKernel b.caps.kernel) ::
    if ¬ b.caps.kernel.IsMaintained ∧ b.caps.gsi = true then
      [.demand (.sleep b.settings.gsiWarningDelay)]
    else []

/-- The release and the kernel fit each other. -/
def versionStages : List Stage :=
  .gate (b.caps.isAtLeastT = false) (.belowT b.caps.apiLevel) :: (floors.map (floorStage b)
    ++ if b.caps.isAtLeastV = true then
        .gate (b.caps.arch.isX86 = true ∧ b.caps.kernel64Bit = false) .kernel32BitOnX86
          :: supportStages b
      else [])

/-- New kernels run programs of 64 bits. -/
def bitnessStage : Stage :=
  .gate (b.caps.userspace32Bit = true ∧ b.caps.kernel.isAtLeast 6 2 0 = true) .userspace32Bit

def buildTypeStage : Stage :=
  .gate (b.caps.buildType = .unknown) (.unknownBuildType b.caps.rawBuildType)

def switchStages : List Stage :=
  (if b.caps.isAtLeastV = true then
    [.demand (.writeSwitch (.ofString unprivilegedBpfDisabled) "0\n")] else [])
    ++ if b.caps.isAtLeastU = true then
      [.demand (.writeSwitch (.ofString bpfJitEnable) "1\n"),
        .demand (.writeSwitch (.ofString bpfJitKallsyms) "1\n")]
    else []

def pinDirStages : List Stage :=
  (pinSubdirs b).map fun subdir => .demand (.makePinDir subdir)

def version : LoaderVersion :=
  .ofApiLevel b.caps.apiLevel

/-- What is asked of the object loader for a location: the names that end in `.o`, in byte order. -/
def loadRequests (location : Location) : List Request :=
  match contents (.ofString location.dir) with
  | .ok listing =>
      ((listing.filter fun name => [0x2e, 0x6f] <:+ name).mergeSort fun a b => a ≤ b).map fun name =>
        .loadObject (Object.Directory.fileIn location name) (version b) location
  | .error _ => []

def lastCriticalFailure? (xs : List Exchange) : Option Object.ObjectError :=
  (xs.filterMap Exchange.criticalFailure?).getLast?

/-- All objects of a location are loaded. If critical ones fail, the report is left on the screen for a
while. -/
def loadStage (location : Location) : Stage where
  requests := loadRequests b contents location
  verdict xs := (lastCriticalFailure? xs).map (.criticalLoad location.dir)
  parting := [.sleep b.settings.criticalFailureDelay]

def agenda : List Stage :=
  scriptStage :: (versionStages b ++ bitnessStage b :: buildTypeStage b :: (switchStages b
    ++ (pinDirStages b ++ (b.locations.map (loadStage b contents) ++ [.demand .selfTest]))))

/-! ## Checks -/

variable {b contents}

theorem gives_fileExists (path : Path) (w : σ) :
    b.Gives (.fileExists path (b.platform.fileExists path w).value) := ⟨w, rfl⟩

theorem follows_scriptStage (has has' : Bool) :
    b.Follows [scriptStage] [.fileExists (.ofString bpfLoaderScript) (.ok has),
        .fileExists (.ofString netBpfLoadScript) (.ok has')]
      (if has == has' then
        .error (if has then .duplicateInitScripts else .missingInitScripts) else .ok ()) := by
  have hcomplete : b.Completes scriptStage.requests
      [.fileExists (.ofString bpfLoaderScript) (.ok has),
        .fileExists (.ofString netBpfLoadScript) (.ok has')] := ⟨rfl, by simp [fatal?]⟩
  cases has <;> cases has'
  · exact .failed hcomplete rfl Completes.nil
  · exact .pass hcomplete rfl .nil
  · exact .pass hcomplete rfl .nil
  · exact .failed hcomplete rfl Completes.nil

theorem fulfils_checkInitScripts :
    b.Fulfils [scriptStage] (checkInitScripts b) (checkInitScripts b.transcribing) := by
  refine Transcribes.attempt_bind _ (.fileExists (.ofString bpfLoaderScript)) _
    (gives_fileExists _) (fun has => ?second) fun errno => ?refused
  case refused =>
    have hrefused : b.Follows [scriptStage]
        ([] ++ [.fileExists (.ofString bpfLoaderScript) (.error errno)])
        (.error (.access (.ofString bpfLoaderScript) errno)) :=
      .refused rfl Completes.nil rfl
    exact hrefused
  refine Transcribes.attempt_bind _ (.fileExists (.ofString netBpfLoadScript)) _
    (gives_fileExists _) (fun has' => ?verdict) fun errno => ?refused
  case refused =>
    have hfound : b.Completes [.fileExists (.ofString bpfLoaderScript)]
        [.fileExists (.ofString bpfLoaderScript) (.ok has)] :=
      Completes.singleton (x := .fileExists _ (.ok has)) rfl
    have hrefused : b.Follows [scriptStage]
        ([.fileExists (.ofString bpfLoaderScript) (.ok has)]
          ++ [.fileExists (.ofString netBpfLoadScript) (.error errno)])
        (.error (.access (.ofString netBpfLoadScript) errno)) :=
      .refused rfl hfound rfl
    exact hrefused
  -- both replies are there, and what is thrown after them depends on nothing else
  have hverdict := follows_scriptStage (b := b) has has'
  apply Transcribes.note_bind
  cases has <;> cases has'
  · exact Transcribes.throw _ hverdict
  · exact Transcribes.pure () hverdict
  · exact Transcribes.pure () hverdict
  · exact Transcribes.throw _ hverdict

theorem fulfils_reportMounts : b.Fulfils [] (reportMounts b) (reportMounts b.transcribing) :=
  Fulfils.bind (Fulfils.look b.platform.mounts) fun table =>
    Fulfils.notes id (Mounts.versionEvents table)

theorem fulfils_checkFloors (floors : List Floor) :
    b.Fulfils (floors.map (floorStage b)) (checkFloors b floors)
      (checkFloors b.transcribing floors) := by
  induction floors with
  | nil => exact Fulfils.pure ()
  | cons floor rest ih => exact Fulfils.gate Iff.rfl fun _ => ih

/-- The check of an unsupported kernel and the pause after it, one after the other. -/
private theorem ite_excused {α : Type} (test excused : Prop) [Decidable test] [Decidable excused]
    (pause refuse skip : α) :
    (if test then if excused then pause else refuse else skip)
      = if test ∧ ¬ excused then refuse else if test ∧ excused then pause else skip := by
  by_cases htest : test
  · by_cases hexcused : excused <;> simp [htest, hexcused]
  · simp [htest]

theorem fulfils_checkKernelSupport :
    b.Fulfils (supportStages b) (checkKernelSupport b) (checkKernelSupport b.transcribing) := by
  refine Fulfils.bind (Fulfils.notes warning (kernelWarnings b.caps.kernel)) fun _ => ?_
  have hpause : b.Fulfils [.demand (.sleep b.settings.gsiWarningDelay)]
      (ask (b.platform.sleep b.settings.gsiWarningDelay))
      (ask (b.transcribing.platform.sleep b.settings.gsiWarningDelay)) :=
    Fulfils.ask _ (fun _ => .sleep b.settings.gsiWarningDelay) _ (fun _ => rfl) (fun w => ⟨w, rfl⟩)
      fun _ => rfl
  rw [ite_excused, ite_excused]
  apply Fulfils.gate
  · simp [← kernelWarnings_eq_nil_iff]
  intro _
  apply Fulfils.when
  · simp [← kernelWarnings_eq_nil_iff]
  intro _
  apply Transcribes.note_bind
  exact hpause

theorem fulfils_checkVersions :
    b.Fulfils (versionStages b) (checkVersions b) (checkVersions b.transcribing) := by
  -- what is thrown does not reach the steps after it, so a check is a gate in front of these
  apply Fulfils.gate (by simp)
  intro _
  apply Fulfils.bind (fulfils_checkFloors floors)
  intro _
  apply Fulfils.when Iff.rfl
  intro _
  apply Fulfils.gate (by simp)
  intro _
  exact fulfils_checkKernelSupport

theorem fulfils_checkBitness :
    b.Fulfils [bitnessStage b] (checkBitness b) (checkBitness b.transcribing) :=
  Fulfils.gate (by simp) fun _ => Fulfils.pure ()

theorem fulfils_checkBuildType :
    b.Fulfils [buildTypeStage b] (checkBuildType b) (checkBuildType b.transcribing) :=
  Fulfils.gate (by simp [BuildType.isUndefined]) fun _ => Fulfils.pure ()

/-! ## Preparations -/

theorem gives_writeSwitch (path : Path) (value : String) (w : σ) :
    b.Gives (.writeSwitch path value (b.platform.writeSwitch path value w).value) := ⟨w, rfl⟩

theorem fulfils_setSwitch (path value : String)
    (hpath : Path.ofString path ≠ .ofString unprivilegedBpfDisabled) :
    b.Fulfils [.demand (.writeSwitch (.ofString path) value)] (setSwitch b path value)
      (setSwitch b.transcribing path value) :=
  Fulfils.demand _ _ (.writeSwitch (.ofString path) value) _ (fun _ => rfl)
    (gives_writeSwitch _ _) (fun _ => rfl) fun _ => if_neg fun h => hpath h.1

theorem fulfils_closeToUnprivileged :
    b.Fulfils [.demand (.writeSwitch (.ofString unprivilegedBpfDisabled) "0\n")]
      (closeToUnprivileged b) (closeToUnprivileged b.transcribing) := by
  let exchange : Except SysctlError Unit → Exchange :=
    .writeSwitch (.ofString unprivilegedBpfDisabled) "0\n"
  refine Transcribes.ask_bind exchange _ (gives_writeSwitch _ _) fun reply => ?_
  cases reply with
  | ok _ =>
      have hfollows : b.Follows [.demand (exchange (.ok ())).request] [exchange (.ok ())] (.ok ()) :=
        .demand rfl
      exact Transcribes.pure () hfollows
  | error e =>
      apply Transcribes.ite
      · intro hkernel
        have hfatal : b.fatal? (exchange (.error e)) = some (.sysctl e) :=
          if_neg fun h => Nat.not_le_of_lt h.2 hkernel
        have hfollows : b.Follows [.demand (exchange (.error e)).request] [exchange (.error e)]
            (.error (.sysctl e)) := .demand_refused hfatal
        exact Transcribes.throw _ hfollows
      -- an old kernel: the refusal is tolerated, and the stage is passed all the same
      · intro hkernel
        have hharmless : b.fatal? (exchange (.error e)) = none :=
          if_pos ⟨rfl, Nat.lt_of_not_le hkernel⟩
        have hfollows : b.Follows [.demand (exchange (.error e)).request] [exchange (.error e)]
            (.ok ()) := .demand hharmless
        exact Transcribes.note _ hfollows

theorem fulfils_configureSwitches :
    b.Fulfils (switchStages b) (configureSwitches b) (configureSwitches b.transcribing) := by
  apply Fulfils.when_bind Iff.rfl
  · intro _
    exact fulfils_closeToUnprivileged
  · apply Fulfils.when Iff.rfl
    intro _
    exact Fulfils.bind (fulfils_setSwitch _ _ (by decide)) fun _ =>
      fulfils_setSwitch _ _ (by decide)

theorem fulfils_makePinDirs :
    b.Fulfils (pinDirStages b) (makePinDirs b) (makePinDirs b.transcribing) := by
  have hmake (subdir : String) : b.Fulfils [.demand (.makePinDir subdir)]
      (attempt .pinDir (b.platform.makePinDir subdir))
      (attempt .pinDir (b.transcribing.platform.makePinDir subdir)) :=
    Fulfils.demand _ _ (.makePinDir subdir) _ (fun _ => rfl) (fun w => ⟨w, rfl⟩) (fun _ => rfl)
      fun _ => rfl
  exact Fulfils.forM hmake (pinSubdirs b)

/-! ## Loading -/

theorem fulfils_selfTest : b.Fulfils [.demand .selfTest] (attempt .selfTest b.platform.selfTest)
    (attempt .selfTest b.transcribing.platform.selfTest) :=
  Fulfils.demand _ _ .selfTest _ (fun _ => rfl) (fun w => ⟨w, rfl⟩) (fun _ => rfl) fun _ => rfl

theorem loadRequests_of_ok {location : Location} {listing : List Name}
    (h : contents (.ofString location.dir) = .ok listing) :
    loadRequests b contents location = (Object.objectFileNames listing).map fun name =>
      .loadObject (Object.Directory.fileIn location name) (version b) location := by
  rw [loadRequests, h, Object.objectFileNames_eq]

/-- The exchange that an attempt to load an object file is. -/
def exchangeOf (version : LoaderVersion) (location : Location) (a : Object.Attempt σ) : Exchange :=
  .loadObject (Object.Directory.fileIn location a.name) version location a.outcome.value

theorem lastCriticalFailure?_map_exchangeOf (version : LoaderVersion) (location : Location)
    (tries : List (Object.Attempt σ)) :
    lastCriticalFailure? (tries.map (exchangeOf version location))
      = Object.Attempt.lastCriticalFailure? tries := by
  unfold lastCriticalFailure? Object.Attempt.lastCriticalFailure?
  rw [List.filterMap_map]
  rfl

theorem completes_map_exchangeOf (version : LoaderVersion) (location : Location)
    (tries : List (Object.Attempt σ)) :
    b.Completes ((tries.map Object.Attempt.name).map fun name =>
        .loadObject (Object.Directory.fileIn location name) version location)
      (tries.map (exchangeOf version location)) := by
  refine ⟨?_, ?_⟩
  · rw [List.map_map, List.map_map]
    rfl
  · intro x hx
    obtain ⟨a, _, rfl⟩ := List.mem_map.mp hx
    rfl

theorem notesOf_exchanges (version : LoaderVersion) (location : Location) (t : List Exchange)
    (tries : List (Object.Attempt σ)) :
    Object.Directory.notesOf version location (fun path version location load t =>
        t ++ [.loadObject path version location load]) t tries
      = t ++ tries.map (exchangeOf version location) := by
  unfold Object.Directory.notesOf
  induction tries generalizing t with
  | nil => simp
  | cons a tries ih =>
      rw [List.foldl_cons, ih, List.append_assoc]
      rfl

theorem on_load_transcribing (loader : Object.ObjectLoader σ) (version : LoaderVersion)
    (location : Location) (list : σ → Path → Except IoError (List Name)) (w : σ)
    (t : List Exchange) (events : List Event) {listing : List Name}
    (h : list w (.ofString location.dir) = .ok listing) :
    (Object.Directory.load (fun s => list s.1) loader.transcribing version location).on
        ⟨(w, t), events⟩
      = let tries := Object.Directory.attempts loader version location
          (Object.objectFileNames listing) w
        (Object.Directory.resultOf tries,
          ⟨(Object.Directory.worldAfter w tries, t ++ tries.map (exchangeOf version location)),
            events ++ Object.Directory.eventsOf location tries⟩) := by
  have hnoting := Object.Directory.on_load_noting_of_ok loader version location
    (fun path version location load t => t ++ [.loadObject path version location load]) list w t
    events h
  simp only [notesOf_exchanges] at hnoting
  exact hnoting

/-- The transcript of a directory, and what its result has to do with it. -/
theorem transcribes_load {location : Location}
    (hlist : ∀ w, b.platform.list w (.ofString location.dir) = contents (.ofString location.dir)) :
    b.Transcribes
      (ExceptT.lift (Object.Directory.load b.platform.list b.loader (version b) location))
      (ExceptT.lift (Object.Directory.load b.transcribing.platform.list b.transcribing.loader
        (version b) location))
      fun xs r => b.Completes (loadRequests b contents location) xs
        ∧ r = .ok (match lastCriticalFailure? xs with
          | some e => .error e
          | none => .ok ()) := by
  intro w t events
  rw [Logged.on_run_lift, Logged.on_run_lift]
  cases hcontents : contents (.ofString location.dir) with
  | error e =>
      have h : b.platform.list w (.ofString location.dir) = .error e := (hlist w).trans hcontents
      have hkept := Object.Directory.on_load_of_error b.transcribing.loader (version b) location
        b.transcribing.platform.list ⟨(w, t), events⟩ h
      have hplain := Object.Directory.on_load_of_error b.loader (version b) location
        b.platform.list ⟨w, events⟩ h
      rw [hkept, hplain]
      refine ⟨[], by simp, by simp, ?_, rfl⟩
      rw [loadRequests, hcontents]
      exact Completes.nil
  | ok listing =>
      have h : b.platform.list w (.ofString location.dir) = .ok listing := (hlist w).trans hcontents
      have hkept : (Object.Directory.load b.transcribing.platform.list b.transcribing.loader
          (version b) location).on ⟨(w, t), events⟩ = _ :=
        on_load_transcribing b.loader (version b) location b.platform.list w t events h
      have hplain := Object.Directory.on_load_of_ok b.loader (version b) location
        b.platform.list ⟨w, events⟩ h
      have hcompletes := completes_map_exchangeOf (b := b) (version b) location
        (Object.Directory.attempts b.loader (version b) location
          (Object.objectFileNames listing) w)
      rw [Object.Directory.attempts_names] at hcompletes
      rw [hkept, hplain]
      refine ⟨_, rfl, ?_, ?_, ?_⟩
      · intro x hx
        obtain ⟨a, ha, rfl⟩ := List.mem_map.mp hx
        obtain ⟨w', hw'⟩ := Object.Directory.exists_outcome_of_mem_attempts _ _ _ ha
        refine ⟨w', ?_⟩
        rw [exchangeOf, ← hw']
        rfl
      · rw [loadRequests_of_ok hcontents]
        exact hcompletes
      · rw [lastCriticalFailure?_map_exchangeOf]
        rfl

theorem verdict_loadStage (location : Location) (xs : List Exchange) :
    (loadStage b contents location).verdict xs
      = (lastCriticalFailure? xs).map (.criticalLoad location.dir) := rfl

theorem fulfils_loadLocation {location : Location}
    (hlist : ∀ w, b.platform.list w (.ofString location.dir) = contents (.ofString location.dir)) :
    b.Fulfils [loadStage b contents location] (loadLocation b (version b) location)
      (loadLocation b.transcribing (version b) location) := by
  refine Transcribes.bind (transcribes_load hlist)
    (Q := fun result ys r => ∀ xs, b.Completes (loadRequests b contents location) xs →
      result = (match lastCriticalFailure? xs with
        | some e => .error e
        | none => .ok ()) →
      b.Follows [loadStage b contents location] (xs ++ ys) (r.map fun _ => ()))
    (fun result => ?report) ?loaded ?refused
  case loaded =>
    rintro xs result ys r ⟨hxs, hresult⟩ hys
    exact hys xs hxs (Except.ok.inj hresult)
  case refused =>
    rintro xs e ⟨_, h⟩
    cases h
  cases result with
  | ok _ =>
      refine Transcribes.pure () fun xs hxs hresult => ?_
      cases hlast : lastCriticalFailure? xs with
      | some e =>
          rw [hlast] at hresult
          cases hresult
      | none =>
          refine .pass hxs ?_ .nil
          rw [verdict_loadStage, hlast]
          rfl
  | error source =>
      apply Transcribes.silent_bind
      · exact Transcribes.notes failure (criticalFailureLines location.dir)
      refine Transcribes.ask_bind (fun _ => .sleep b.settings.criticalFailureDelay) _
        (fun w => ⟨w, rfl⟩) fun _ => ?_
      refine Transcribes.throw _ fun xs hxs hresult => ?_
      cases hlast : lastCriticalFailure? xs with
      | none =>
          rw [hlast] at hresult
          cases hresult
      | some e =>
          rw [hlast] at hresult
          cases hresult
          refine .failed hxs ?_
            (Completes.singleton (x := .sleep b.settings.criticalFailureDelay) rfl)
          rw [verdict_loadStage, hlast]
          rfl

/-! ## The whole sequence -/

theorem fulfils_complete : b.Fulfils [] (complete b) (complete b.transcribing) := by
  apply Transcribes.ite
  · intro _
    exact Transcribes.note_bind _ (Transcribes.pure _ .nil)
  · intro _
    exact Transcribes.note_bind _ (Transcribes.pure _ .nil)

theorem fulfils_sequence (hlist : ∀ w dir, b.platform.list w dir = contents dir) :
    b.Fulfils (agenda b contents) (sequence b) (sequence b.transcribing) := by
  have hload (location : Location) : b.Fulfils [loadStage b contents location]
      (loadLocation b (version b) location) (loadLocation b.transcribing (version b) location) :=
    fulfils_loadLocation fun w => hlist w _
  have hend : b.Fulfils ([.demand .selfTest] ++ []) (attempt .selfTest b.platform.selfTest >>=
      fun _ => complete b) (attempt .selfTest b.transcribing.platform.selfTest >>=
      fun _ => complete b.transcribing) :=
    Fulfils.bind fulfils_selfTest fun _ => fulfils_complete
  refine Fulfils.bind fulfils_checkInitScripts fun _ => ?_
  refine Fulfils.bind fulfils_reportMounts fun _ => ?_
  refine Fulfils.bind fulfils_checkVersions fun _ => ?_
  refine Fulfils.bind fulfils_checkBitness fun _ => ?_
  refine Fulfils.bind fulfils_checkBuildType fun _ => ?_
  refine Fulfils.bind fulfils_configureSwitches fun _ => ?_
  refine Fulfils.bind fulfils_makePinDirs fun _ => ?_
  apply Transcribes.note_bind
  exact Fulfils.bind (Fulfils.forM hload b.locations) fun _ => hend

theorem transcribing_run (hlist : ∀ w dir, b.platform.list w dir = contents dir) (w : σ) :
    b.transcribing.run (w, [])
        = ⟨(b.run w).value, (b.run w).events, ((b.run w).world, b.transcript w)⟩
      ∧ (∀ x ∈ b.transcript w, b.Gives x)
      ∧ b.Follows (agenda b contents) (b.transcript w) ((b.run w).value.map fun _ => ()) := by
  obtain ⟨xs, hrun, hgives, hfollows⟩ := fulfils_sequence hlist w [] []
  have hkept : b.transcribing.run (w, [])
      = ⟨(b.run w).value, (b.run w).events, ((b.run w).world, xs)⟩ := by
    rw [run, Logged.outcome_eq, hrun]
    rfl
  have htranscript : b.transcript w = xs := by rw [transcript, hkept]
  rw [htranscript]
  exact ⟨hkept, hgives, hfollows⟩

/-- A device with Android U on which nothing is refused. -/
def obliging : Bootstrap Unit where
  caps :=
    { apiLevel := 34, kernel := .ofParts 5 10 199, arch := .aarch64, kernel64Bit := true,
      userspace32Bit := false, rawBuildType := "user", gsi := false }
  platform :=
    { fileExists := fun path _ => ⟨.ok (path == .ofString netBpfLoadScript), [], ()⟩
      writeSwitch := fun _ _ _ => ⟨.ok (), [], ()⟩
      makePinDir := fun _ _ => ⟨.ok (), [], ()⟩
      selfTest := fun _ => ⟨.ok (), [], ()⟩
      sleep := fun _ _ => ⟨(), [], ()⟩
      list := fun _ _ => .ok [[0x61, 0x2e, 0x6f]]
      mounts := fun _ => .ok "" }
  loader _ _ _ _ := ⟨⟨false, .ok ()⟩, [], ()⟩
  locations := [⟨"bpf/", "net/"⟩]
  settings := .standard

end Bootstrap

end BpfBoot
