import BpfBoot.Proofs.Bootstrap.Sequence
import BpfBoot.Proofs.Kernel.Support

/-!
# When the boot sequence succeeds

On a platform whose replies depend on nothing but what it is asked, the boot sequence succeeds exactly if
every stage of its agenda is cleared: no reply to its requests is fatal, and its verdict on them is no
failure. Stage by stage, this comes to a condition on the device, the settings and the replies.
-/

namespace BpfBoot

variable {σ : Type}

/-- What a platform and an object loader reply to each request, in whatever world. -/
structure Replies where
  fileExists : Path → Except Errno Bool
  writeSwitch : Path → String → Except SysctlError Unit
  makePinDir : String → Except PinDirError Unit
  selfTest : Except BpfError Unit
  list : Path → Except IoError (List Name)
  loadObject : Path → LoaderVersion → Location → Object.LoadResult

/-- What comes of a request. -/
def Replies.exchange (replies : Replies) : Request → Exchange
  | .fileExists path => .fileExists path (replies.fileExists path)
  | .writeSwitch path value => .writeSwitch path value (replies.writeSwitch path value)
  | .makePinDir subdir => .makePinDir subdir (replies.makePinDir subdir)
  | .selfTest => .selfTest replies.selfTest
  | .sleep seconds => .sleep seconds
  | .loadObject path version location =>
      .loadObject path version location (replies.loadObject path version location)

namespace Bootstrap

structure RepliesAs (b : Bootstrap σ) (replies : Replies) : Prop where
  fileExists : ∀ path w, (b.platform.fileExists path w).value = replies.fileExists path
  writeSwitch : ∀ path value w,
    (b.platform.writeSwitch path value w).value = replies.writeSwitch path value
  makePinDir : ∀ subdir w, (b.platform.makePinDir subdir w).value = replies.makePinDir subdir
  selfTest : ∀ w, (b.platform.selfTest w).value = replies.selfTest
  list : ∀ w dir, b.platform.list w dir = replies.list dir
  loadObject : ∀ path version location w,
    (b.loader path version location w).value = replies.loadObject path version location

variable {b : Bootstrap σ} {replies : Replies}

theorem RepliesAs.eq_of_gives (h : b.RepliesAs replies) {x : Exchange} (hx : b.Gives x) :
    x = replies.exchange x.request := by
  obtain ⟨w, hw⟩ := hx
  rw [← hw]
  cases x with
  | fileExists path _ => exact congrArg _ (h.fileExists path w)
  | writeSwitch path value _ => exact congrArg _ (h.writeSwitch path value w)
  | makePinDir subdir _ => exact congrArg _ (h.makePinDir subdir w)
  | selfTest _ => exact congrArg _ (h.selfTest w)
  | sleep _ => rfl
  | loadObject path version location _ => exact congrArg _ (h.loadObject path version location w)

/-! ## Cleared stages -/

variable (b replies)

/-- No reply to the requests of a stage ends the sequence, and neither does its verdict. -/
structure Clears (stage : Stage) : Prop where
  harmless : ∀ request ∈ stage.requests, b.fatal? (replies.exchange request) = none
  verdict : stage.verdict (stage.requests.map replies.exchange) = none

variable {b replies}

/-- With fixed replies, the exchanges of a stage are known beforehand. -/
theorem Completes.eq_map_exchange {requests : List Request} {xs : List Exchange}
    (h : b.Completes requests xs) (hxs : ∀ x ∈ xs, x = replies.exchange x.request) :
    xs = requests.map replies.exchange := by
  rw [← h.requests_eq, List.map_map]
  refine (List.map_id xs).symm.trans (List.map_congr_left fun x hx => ?_)
  exact hxs x hx

theorem Follows.ok_iff {stages : List Stage} {xs : List Exchange} {r : Except LoaderError Unit}
    (h : b.Follows stages xs r) (hxs : ∀ x ∈ xs, x = replies.exchange x.request) :
    r = .ok () ↔ ∀ stage ∈ stages, b.Clears replies stage := by
  induction h with
  | nil => simp
  | @pass stage rest xs ys r hcompletes hverdict _ ih =>
      rw [ih fun x hx => hxs x (List.mem_append_right _ hx), List.forall_mem_cons]
      have heq := hcompletes.eq_map_exchange fun x hx => hxs x (List.mem_append_left _ hx)
      have hclears : b.Clears replies stage := by
        refine ⟨fun request hrequest => ?_, heq ▸ hverdict⟩
        apply hcompletes.harmless
        rw [heq]
        exact List.mem_map_of_mem hrequest
      exact ⟨fun hrest => ⟨hclears, hrest⟩, fun hall => hall.2⟩
  | @refused stage rest made left xs x e hmade _ hfatal =>
      have hx := hxs x (List.mem_append_right _ List.mem_cons_self)
      constructor
      · intro hr
        cases hr
      · intro hall
        have hclears := hall stage List.mem_cons_self
        have hnone := hclears.harmless x.request (by rw [hmade]; simp)
        rw [← hx, hfatal] at hnone
        cases hnone
  | @failed stage rest xs ys e hcompletes hverdict _ =>
      have heq := hcompletes.eq_map_exchange fun x hx => hxs x (List.mem_append_left _ hx)
      constructor
      · intro hr
        cases hr
      · intro hall
        have hclears := hall stage List.mem_cons_self
        rw [heq, hclears.verdict] at hverdict
        cases hverdict

theorem clears_gate_iff {fails : Prop} [Decidable fails] {e : LoaderError} :
    b.Clears replies (.gate fails e) ↔ ¬ fails := by
  constructor
  · intro h hfails
    have hverdict := h.verdict
    rw [show (Stage.gate fails e).verdict _ = some e from if_pos hfails] at hverdict
    cases hverdict
  · intro hfails
    exact ⟨by simp, if_neg hfails⟩

theorem clears_demand_iff {request : Request} :
    b.Clears replies (.demand request) ↔ b.fatal? (replies.exchange request) = none := by
  constructor
  · intro h
    exact h.harmless request (by simp)
  · intro h
    exact ⟨by simpa using h, rfl⟩

/-! ## What each stage asks for -/

theorem clears_scriptStage_iff :
    b.Clears replies scriptStage ↔ ∃ has,
      replies.fileExists (.ofString bpfLoaderScript) = .ok has
        ∧ replies.fileExists (.ofString netBpfLoadScript) = .ok !has := by
  constructor
  · intro h
    have hfirst := h.harmless (.fileExists (.ofString bpfLoaderScript)) (by simp [scriptStage])
    have hsecond := h.harmless (.fileExists (.ofString netBpfLoadScript)) (by simp [scriptStage])
    have hverdict := h.verdict
    simp only [scriptStage, List.map_cons, List.map_nil, Replies.exchange] at *
    cases hhas : replies.fileExists (.ofString bpfLoaderScript) with
    | error errno =>
        rw [hhas] at hfirst
        cases hfirst
    | ok has =>
        cases hhas' : replies.fileExists (.ofString netBpfLoadScript) with
        | error errno =>
            rw [hhas'] at hsecond
            cases hsecond
        | ok has' =>
            rw [hhas, hhas'] at hverdict
            refine ⟨has, rfl, ?_⟩
            cases has <;> cases has' <;> first | rfl | cases hverdict
  · rintro ⟨has, hhas, hhas'⟩
    refine ⟨?_, ?_⟩
    · simp [scriptStage, Replies.exchange, hhas, hhas', fatal?]
    · simp only [scriptStage, List.map_cons, List.map_nil, Replies.exchange, hhas, hhas']
      cases has <;> rfl

theorem clears_floors_iff :
    (∀ stage ∈ floors.map (floorStage b), b.Clears replies stage)
      ↔ (33 ≤ b.caps.apiLevel → .ofParts 4 9 0 ≤ b.caps.kernel)
        ∧ (34 ≤ b.caps.apiLevel → .ofParts 4 14 0 ≤ b.caps.kernel)
        ∧ (35 ≤ b.caps.apiLevel → .ofParts 4 19 0 ≤ b.caps.kernel) := by
  have hfloor (apiLevel : Nat) (required : KernelVersion) :
      ¬ (apiLevel ≤ b.caps.apiLevel ∧ b.caps.kernel < required)
        ↔ (apiLevel ≤ b.caps.apiLevel → required ≤ b.caps.kernel) := by
    rw [not_and]
    exact imp_congr_right fun _ => Nat.not_lt
  simp only [floors, List.map_cons, List.map_nil, List.forall_mem_cons, List.not_mem_nil,
    false_implies, implies_true, and_true, floorStage, clears_gate_iff, hfloor]
  rfl

theorem clears_supportStages_iff (hkernel : .ofParts 4 19 0 ≤ b.caps.kernel) :
    (∀ stage ∈ supportStages b, b.Clears replies stage)
      ↔ b.caps.gsi = true ∨ ∃ sub ≤ b.caps.kernel.sub, (b.caps.kernel.major, b.caps.kernel.minor, sub)
        ∈ KernelVersion.supportedReleases := by
  have hsleep : ∀ stage ∈ (if ¬ b.caps.kernel.IsMaintained ∧ b.caps.gsi = true then
      [Stage.demand (.sleep b.settings.gsiWarningDelay)] else []), b.Clears replies stage := by
    split
    · simp [clears_demand_iff, Replies.exchange, fatal?]
    · simp
  unfold supportStages
  rw [List.forall_mem_cons, clears_gate_iff, ← KernelVersion.isMaintained_iff_of_le hkernel]
  constructor
  · rintro ⟨hgate, -⟩
    cases hgsi : b.caps.gsi with
    | true => exact .inl rfl
    | false => exact .inr (Classical.byContradiction fun hwarn => hgate ⟨hwarn, hgsi⟩)
  · intro h
    refine ⟨?_, hsleep⟩
    rintro ⟨hwarn, hgsi⟩
    rcases h with h | h
    · rw [hgsi] at h
      cases h
    · exact hwarn h

theorem clears_x86_iff :
    b.Clears replies
        (.gate (b.caps.arch.isX86 = true ∧ b.caps.kernel64Bit = false) .kernel32BitOnX86)
      ↔ (b.caps.arch = .x86 ∨ b.caps.arch = .x86_64 → b.caps.kernel64Bit = true) := by
  have hx86 : b.caps.arch.isX86 = true ↔ b.caps.arch = .x86 ∨ b.caps.arch = .x86_64 := by
    simp [Arch.isX86]
  rw [clears_gate_iff, hx86, not_and, Bool.not_eq_false]

theorem clears_versionStages_iff :
    (∀ stage ∈ versionStages b, b.Clears replies stage)
      ↔ 33 ≤ b.caps.apiLevel ∧ .ofParts 4 9 0 ≤ b.caps.kernel
        ∧ (34 ≤ b.caps.apiLevel → .ofParts 4 14 0 ≤ b.caps.kernel)
        ∧ (35 ≤ b.caps.apiLevel → .ofParts 4 19 0 ≤ b.caps.kernel)
        ∧ (35 ≤ b.caps.apiLevel → b.caps.arch = .x86 ∨ b.caps.arch = .x86_64 →
          b.caps.kernel64Bit = true)
        ∧ (35 ≤ b.caps.apiLevel → b.caps.gsi = true ∨ ∃ sub ≤ b.caps.kernel.sub,
          (b.caps.kernel.major, b.caps.kernel.minor, sub) ∈ KernelVersion.supportedReleases) := by
  unfold versionStages
  rw [List.forall_mem_cons, clears_gate_iff, Bool.not_eq_false, Capabilities.isAtLeastT_iff,
    List.forall_mem_append, clears_floors_iff]
  simp only [Capabilities.isAtLeastV_iff]
  by_cases hV : 35 ≤ b.caps.apiLevel
  · rw [if_pos hV, List.forall_mem_cons, clears_x86_iff]
    constructor
    · rintro ⟨hT, ⟨h9, h14, h19⟩, hx86, hsupport⟩
      exact ⟨hT, h9 hT, h14, h19, fun _ => hx86,
        fun _ => (clears_supportStages_iff (h19 hV)).mp hsupport⟩
    · rintro ⟨hT, h9, h14, h19, hx86, hsupport⟩
      exact ⟨hT, ⟨fun _ => h9, h14, h19⟩, hx86 hV,
        (clears_supportStages_iff (h19 hV)).mpr (hsupport hV)⟩
  · rw [if_neg hV]
    constructor
    · rintro ⟨hT, ⟨h9, h14, h19⟩, -⟩
      exact ⟨hT, h9 hT, h14, h19, fun h => absurd h hV, fun h => absurd h hV⟩
    · rintro ⟨hT, h9, h14, h19, -, -⟩
      exact ⟨hT, ⟨fun _ => h9, h14, h19⟩, by simp⟩

theorem clears_switchStages_iff :
    (∀ stage ∈ switchStages b, b.Clears replies stage)
      ↔ (35 ≤ b.caps.apiLevel →
          replies.writeSwitch (.ofString unprivilegedBpfDisabled) "0\n" = .ok ()
            ∨ b.caps.kernel < b.settings.unprivilegedThreshold)
        ∧ (34 ≤ b.caps.apiLevel →
          replies.writeSwitch (.ofString bpfJitEnable) "1\n" = .ok ()
            ∧ replies.writeSwitch (.ofString bpfJitKallsyms) "1\n" = .ok ()) := by
  have hclosed : b.Clears replies
        (.demand (.writeSwitch (.ofString unprivilegedBpfDisabled) "0\n"))
      ↔ replies.writeSwitch (.ofString unprivilegedBpfDisabled) "0\n" = .ok ()
        ∨ b.caps.kernel < b.settings.unprivilegedThreshold := by
    rw [clears_demand_iff, Replies.exchange]
    cases replies.writeSwitch (.ofString unprivilegedBpfDisabled) "0\n" with
    | ok _ => simp [fatal?]
    | error e => simp [fatal?]
  have hset (path : String) (hpath : Path.ofString path ≠ .ofString unprivilegedBpfDisabled) :
      b.Clears replies (.demand (.writeSwitch (.ofString path) "1\n"))
        ↔ replies.writeSwitch (.ofString path) "1\n" = .ok () := by
    rw [clears_demand_iff, Replies.exchange]
    cases replies.writeSwitch (.ofString path) "1\n" with
    | ok _ => simp [fatal?]
    | error e => simp [fatal?, hpath]
  unfold switchStages
  rw [List.forall_mem_append]
  simp only [Capabilities.isAtLeastV_iff, Capabilities.isAtLeastU_iff]
  apply and_congr
  · split
    · next hV => simp [hV, hclosed]
    · next hV => simp [hV]
  · split
    · next hU => simp [hU, hset bpfJitEnable (by decide), hset bpfJitKallsyms (by decide)]
    · next hU => simp [hU]

theorem clears_makePinDir_iff (subdir : String) :
    b.Clears replies (.demand (.makePinDir subdir)) ↔ replies.makePinDir subdir = .ok () := by
  rw [clears_demand_iff, Replies.exchange]
  cases replies.makePinDir subdir with
  | ok _ => simp [fatal?]
  | error e => simp [fatal?]

theorem clears_pinDirStages_iff :
    (∀ stage ∈ pinDirStages b, b.Clears replies stage)
      ↔ (∀ location ∈ b.locations, replies.makePinDir location.pinSubdir = .ok ())
        ∧ replies.makePinDir loaderPinSubdir = .ok () := by
  unfold pinDirStages pinSubdirs
  rw [List.forall_mem_map, List.forall_mem_append, List.forall_mem_map]
  simp only [clears_makePinDir_iff, List.mem_singleton, forall_eq]

theorem clears_selfTest_iff :
    b.Clears replies (.demand .selfTest) ↔ replies.selfTest = .ok () := by
  rw [clears_demand_iff, Replies.exchange]
  cases replies.selfTest with
  | ok _ => simp [fatal?]
  | error e => simp [fatal?]

theorem lastCriticalFailure?_eq_none_iff {xs : List Exchange} :
    lastCriticalFailure? xs = none ↔ ∀ x ∈ xs, x.criticalFailure? = none := by
  rw [lastCriticalFailure?, List.getLast?_eq_none_iff, List.filterMap_eq_nil_iff]

/-- A location fails because of an object that is critical and that was not loaded. -/
theorem clears_loadStage_iff (location : Location) :
    b.Clears replies (loadStage b replies.list location)
      ↔ ∀ listing, replies.list (.ofString location.dir) = .ok listing →
        ∀ name ∈ listing, [0x2e, 0x6f] <:+ name →
          (replies.loadObject (Object.Directory.fileIn location name) (version b)
            location).critical = true →
          (replies.loadObject (Object.Directory.fileIn location name) (version b)
            location).result = .ok () := by
  have hverdict : b.Clears replies (loadStage b replies.list location)
      ↔ ∀ request ∈ loadRequests b replies.list location,
        (replies.exchange request).criticalFailure? = none := by
    have hharmless : ∀ request ∈ loadRequests b replies.list location,
        b.fatal? (replies.exchange request) = none := by
      intro request hrequest
      unfold loadRequests at hrequest
      split at hrequest
      · obtain ⟨name, _, rfl⟩ := List.mem_map.mp hrequest
        rfl
      · cases hrequest
    constructor
    · intro h
      have hnone := h.verdict
      rw [verdict_loadStage, Option.map_eq_none_iff, lastCriticalFailure?_eq_none_iff] at hnone
      exact List.forall_mem_map.mp hnone
    · intro h
      refine ⟨hharmless, ?_⟩
      rw [verdict_loadStage, Option.map_eq_none_iff, lastCriticalFailure?_eq_none_iff]
      exact List.forall_mem_map.mpr h
  rw [hverdict]
  cases hlist : replies.list (.ofString location.dir) with
  | error e => simp [loadRequests, hlist]
  | ok listing =>
      rw [loadRequests_of_ok hlist, List.forall_mem_map]
      constructor
      · intro h listing' hlisting name hname hsuffix
        cases hlisting
        exact Object.LoadResult.criticalFailure?_eq_none_iff.mp
          (h name (Object.mem_objectFileNames.mpr ⟨hname, hsuffix⟩))
      · intro h name hname
        obtain ⟨hname, hsuffix⟩ := Object.mem_objectFileNames.mp hname
        exact Object.LoadResult.criticalFailure?_eq_none_iff.mpr (h listing rfl name hname hsuffix)

/-! ## The conditions of success -/

variable (b replies) in
/-- All that the boot sequence needs in order to succeed. -/
structure Succeeds : Prop where
  /-- Exactly one of the two init scripts is there. -/
  oneScript : ∃ has, replies.fileExists (.ofString bpfLoaderScript) = .ok has
    ∧ replies.fileExists (.ofString netBpfLoadScript) = .ok !has
  apiLevel : 33 ≤ b.caps.apiLevel
  floorT : .ofParts 4 9 0 ≤ b.caps.kernel
  floorU : 34 ≤ b.caps.apiLevel → .ofParts 4 14 0 ≤ b.caps.kernel
  floorV : 35 ≤ b.caps.apiLevel → .ofParts 4 19 0 ≤ b.caps.kernel
  kernel64Bit : 35 ≤ b.caps.apiLevel → b.caps.arch = .x86 ∨ b.caps.arch = .x86_64 →
    b.caps.kernel64Bit = true
  /-- The kernel is on a supported branch and has come far enough there. -/
  supported : 35 ≤ b.caps.apiLevel → b.caps.gsi = true ∨ ∃ sub ≤ b.caps.kernel.sub,
    (b.caps.kernel.major, b.caps.kernel.minor, sub)
      ∈ [(4, 19, 236), (5, 4, 186), (5, 10, 199), (5, 15, 136), (6, 1, 57), (6, 6, 0)]
  bitness : ¬ (b.caps.userspace32Bit = true ∧ .ofParts 6 2 0 ≤ b.caps.kernel)
  buildType : b.caps.buildType = .eng ∨ b.caps.buildType = .user ∨ b.caps.buildType = .userDebug
  closed : 35 ≤ b.caps.apiLevel →
    replies.writeSwitch (.ofString unprivilegedBpfDisabled) "0\n" = .ok ()
      ∨ b.caps.kernel < b.settings.unprivilegedThreshold
  compiled : 34 ≤ b.caps.apiLevel →
    replies.writeSwitch (.ofString bpfJitEnable) "1\n" = .ok ()
      ∧ replies.writeSwitch (.ofString bpfJitKallsyms) "1\n" = .ok ()
  pinDirs : ∀ location ∈ b.locations, replies.makePinDir location.pinSubdir = .ok ()
  loaderPinDir : replies.makePinDir loaderPinSubdir = .ok ()
  /-- All critical objects are loaded. -/
  objects : ∀ location ∈ b.locations, ∀ listing,
    replies.list (.ofString location.dir) = .ok listing →
      ∀ name ∈ listing, [0x2e, 0x6f] <:+ name →
        (replies.loadObject (Object.Directory.fileIn location name) (version b)
          location).critical = true →
        (replies.loadObject (Object.Directory.fileIn location name) (version b)
          location).result = .ok ()
  selfTest : replies.selfTest = .ok ()

theorem clears_bitnessStage_iff :
    b.Clears replies (bitnessStage b)
      ↔ ¬ (b.caps.userspace32Bit = true ∧ .ofParts 6 2 0 ≤ b.caps.kernel) := by
  rw [bitnessStage, clears_gate_iff, KernelVersion.isAtLeast, decide_eq_true_iff]

theorem clears_buildTypeStage_iff :
    b.Clears replies (buildTypeStage b)
      ↔ b.caps.buildType = .eng ∨ b.caps.buildType = .user ∨ b.caps.buildType = .userDebug := by
  rw [buildTypeStage, clears_gate_iff]
  cases b.caps.buildType <;> simp

theorem clears_agenda_iff :
    (∀ stage ∈ agenda b replies.list, b.Clears replies stage) ↔ Succeeds b replies := by
  unfold agenda
  rw [List.forall_mem_cons, List.forall_mem_append, List.forall_mem_cons, List.forall_mem_cons,
    List.forall_mem_append, List.forall_mem_append, List.forall_mem_append, List.forall_mem_map,
    clears_scriptStage_iff, clears_versionStages_iff, clears_bitnessStage_iff,
    clears_buildTypeStage_iff, clears_switchStages_iff, clears_pinDirStages_iff]
  simp only [clears_loadStage_iff, List.mem_singleton, forall_eq, clears_selfTest_iff]
  constructor
  · rintro ⟨hscript, ⟨hT, h9, h14, h19, hx86, hsupport⟩, hbitness, hbuildType,
      ⟨hclosed, hcompiled⟩, ⟨hpinDirs, hloaderPinDir⟩, hobjects, hselfTest⟩
    exact ⟨hscript, hT, h9, h14, h19, hx86, hsupport, hbitness, hbuildType, hclosed, hcompiled,
      hpinDirs, hloaderPinDir, hobjects, hselfTest⟩
  · intro h
    exact ⟨h.oneScript, ⟨h.apiLevel, h.floorT, h.floorU, h.floorV, h.kernel64Bit, h.supported⟩,
      h.bitness, h.buildType, ⟨h.closed, h.compiled⟩, ⟨h.pinDirs, h.loaderPinDir⟩, h.objects,
      h.selfTest⟩

/-- The boot sequence succeeds just if the device, the settings and the replies allow it. -/
theorem run_ok_iff_succeeds (b : Bootstrap σ) (replies : Replies) (h : b.RepliesAs replies) (w : σ) :
    (∃ completion, (b.run w).value = .ok completion) ↔ Succeeds b replies := by
  obtain ⟨-, hgives, hfollows⟩ := transcribing_run h.list w
  rw [← clears_agenda_iff, ← hfollows.ok_iff fun x hx => h.eq_of_gives (hgives x hx)]
  cases (b.run w).value with
  | ok completion => exact ⟨fun _ => rfl, fun _ => ⟨completion, rfl⟩⟩
  | error e =>
      constructor
      · rintro ⟨completion, hcompletion⟩
        cases hcompletion
      · intro hok
        cases hok

def obligingReplies : Replies where
  fileExists path := .ok (path == .ofString netBpfLoadScript)
  writeSwitch _ _ := .ok ()
  makePinDir _ := .ok ()
  selfTest := .ok ()
  list _ := .ok [[0x61, 0x2e, 0x6f]]
  loadObject _ _ _ := ⟨false, .ok ()⟩

theorem run_ok_obliging :
    obliging.RepliesAs obligingReplies ∧ Succeeds obliging obligingReplies
      ∧ ∃ completion, (obliging.run ()).value = .ok completion := by
  have hreplies : obliging.RepliesAs obligingReplies := by
    refine ⟨?_, ?_, ?_, ?_, ?_, ?_⟩ <;> intros <;> rfl
  have hsucceeds : Succeeds obliging obligingReplies :=
    { oneScript := ⟨false, congrArg Except.ok (by decide), congrArg Except.ok (by decide)⟩
      apiLevel := by decide
      floorT := by decide
      floorU := by decide
      floorV := by decide
      kernel64Bit := by decide
      supported := fun h => absurd h (by decide)
      bitness := by decide
      buildType := by decide
      closed := fun _ => .inl rfl
      compiled := fun _ => ⟨rfl, rfl⟩
      pinDirs := fun _ _ => rfl
      loaderPinDir := rfl
      objects := fun _ _ _ _ _ _ _ _ => rfl
      selfTest := rfl }
  exact ⟨hreplies, hsucceeds, (run_ok_iff_succeeds obliging obligingReplies hreplies ()).mpr hsucceeds⟩

end Bootstrap

end BpfBoot
