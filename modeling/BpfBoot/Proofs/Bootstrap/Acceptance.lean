import BpfBoot.Proofs.Bootstrap.Sequence
import BpfBoot.Proofs.Kernel.Branches

/-!
# Which kernels are accepted

The check of release and kernel asks the platform for nothing that it could fail on, so whether a device
passes it hangs on the device alone. On Android V without a generic system image, a kernel passes just if it
has reached the point release that the table lists for its branch; a device with an x86 processor needs a
kernel of 64 bits besides.
-/

namespace BpfBoot.Bootstrap

open Log KernelVersion

variable {σ ι : Type}

/-- The step succeeds just if `P` holds, whatever went before. -/
def Passes (P : Prop) (step : Step σ Unit) : Prop :=
  ∀ s, (Logged.on step.run s).1 = .ok () ↔ P

namespace Passes

variable {P Q : Prop}

theorem congr {step : Step σ Unit} (h : Passes P step) (hPQ : P ↔ Q) : Passes Q step :=
  fun s => (h s).trans hPQ

theorem pure : Passes True (Pure.pure () : Step σ Unit) :=
  fun _ => iff_of_true rfl trivial

theorem throw (e : LoaderError) : Passes False (throw e : Step σ Unit) := by
  intro s
  refine iff_of_false ?_ id
  intro h
  cases h

theorem lift (step : Logged σ Unit) : Passes True (ExceptT.lift step) :=
  fun _ => iff_of_true rfl trivial

theorem bind {step : Step σ Unit} {next : Unit → Step σ Unit} (h : Passes P step)
    (hnext : Passes Q (next ())) : Passes (P ∧ Q) (step >>= next) := by
  intro s
  rw [Logged.on_run_bind, ← h s]
  rcases Logged.on step.run s with ⟨e | ⟨⟩, s'⟩
  · exact iff_of_false nofun fun ⟨hok, _⟩ => by cases hok
  · exact (hnext s').trans ⟨fun hQ => ⟨rfl, hQ⟩, And.right⟩

theorem guard {test : Prop} [Decidable test] (e : LoaderError) {step : Step σ Unit} (h : Passes P step) :
    Passes (¬ test ∧ P) (if test then MonadExcept.throw e else step) := by
  intro s
  by_cases htest : test
  · rw [if_pos htest, throw e s]
    exact ⟨False.elim, fun hP => hP.1 htest⟩
  · rw [if_neg htest, h s]
    exact ⟨fun hP => ⟨htest, hP⟩, And.right⟩

theorem when {test : Prop} [Decidable test] {step : Step σ Unit} (h : Passes P step) :
    Passes (test → P) (if test then step else Pure.pure ()) := by
  intro s
  by_cases htest : test
  · rw [if_pos htest, h s]
    exact ⟨fun hP _ => hP, fun hP => hP htest⟩
  · rw [if_neg htest, pure s]
    exact ⟨fun _ h => absurd h htest, fun _ => trivial⟩

theorem forM {step : ι → Step σ Unit} (h : ∀ i, Passes True (step i)) (is : List ι) :
    Passes True (is.forM step) := by
  induction is with
  | nil => exact pure
  | cons i is ih => exact (bind (h i) ih).congr (and_self_iff)

end Passes

variable (b : Bootstrap σ)

theorem passes_checkFloors (floors : List Floor) :
    Passes (∀ floor ∈ floors, floor.apiLevel ≤ b.caps.apiLevel → floor.required ≤ b.caps.kernel)
      (checkFloors b floors) := by
  induction floors with
  | nil => exact Passes.pure.congr (by simp)
  | cons floor floors ih =>
    refine (Passes.guard _ ih).congr ?_
    rw [List.forall_mem_cons, not_and, KernelVersion.lt_iff, Nat.not_lt]
    exact Iff.rfl

theorem passes_checkKernelSupport :
    Passes (kernelWarnings b.caps.kernel ≠ [] → b.caps.gsi = true) (checkKernelSupport b) := by
  have hexcused : Passes True (do
      note (warning ("Unsupported kernel version (" ++ b.caps.kernel.displayHex 7
        ++ "), continuing on GSI."))
      ask (b.platform.sleep b.settings.gsiWarningDelay)) :=
    (Passes.bind (Passes.lift _) (Passes.lift _)).congr and_self_iff
  have hwarnings : Passes True
      ((kernelWarnings b.caps.kernel).forM fun message => note (σ := σ) (warning message)) :=
    Passes.forM (fun _ => Passes.lift _) _
  have hunsupported : Passes (b.caps.gsi = true) (if b.caps.gsi = true then do
        note (warning ("Unsupported kernel version (" ++ b.caps.kernel.displayHex 7
          ++ "), continuing on GSI."))
        ask (b.platform.sleep b.settings.gsiWarningDelay)
      else throw (.unsupportedKernel b.caps.kernel)) := by
    intro s
    cases b.caps.gsi with
    | true => exact (hexcused s).trans (iff_of_true trivial rfl)
    | false => exact (Passes.throw _ s).trans (iff_of_false id nofun)
  refine (Passes.bind hwarnings (Passes.when hunsupported)).congr ?_
  rw [Bool.not_eq_true', List.isEmpty_eq_false_iff]
  exact iff_of_eq (true_and _)

theorem passes_checkVersions :
    Passes (33 ≤ b.caps.apiLevel
        ∧ (∀ floor ∈ floors, floor.apiLevel ≤ b.caps.apiLevel → floor.required ≤ b.caps.kernel)
        ∧ (35 ≤ b.caps.apiLevel → (b.caps.arch.isX86 = true → b.caps.kernel64Bit = true)
          ∧ (kernelWarnings b.caps.kernel ≠ [] → b.caps.gsi = true)))
      (checkVersions b) := by
  have hprocessor : Passes (¬ (b.caps.arch.isX86 && !b.caps.kernel64Bit) = true
        ∧ (kernelWarnings b.caps.kernel ≠ [] → b.caps.gsi = true))
      (if b.caps.arch.isX86 && !b.caps.kernel64Bit then throw .kernel32BitOnX86
        else checkKernelSupport b) :=
    Passes.guard _ (passes_checkKernelSupport b)
  refine (Passes.guard _ (Passes.bind (passes_checkFloors b floors) (Passes.when hprocessor))).congr ?_
  rw [← Capabilities.isAtLeastT_iff, ← Capabilities.isAtLeastV_iff]
  simp only [Bool.not_eq_true', Bool.and_eq_true, Bool.not_eq_false, not_and]

/-! ## Android V -/

theorem mem_supportedReleases_iff {branch : Branch} {sub : Nat} :
    (branch.major, branch.minor, sub) ∈ supportedReleases ↔ (branch, sub) ∈ requiredPointReleases := by
  have htable : supportedReleases
      = requiredPointReleases.map fun entry => (entry.1.major, entry.1.minor, entry.2) := rfl
  rw [htable, List.mem_map]
  obtain ⟨major, minor⟩ := branch
  constructor
  · rintro ⟨⟨⟨_, _⟩, _⟩, hmem, ⟨⟩⟩
    exact hmem
  · intro hmem
    exact ⟨_, hmem, rfl⟩

/-- The kernel has reached the point release that is listed for its branch. -/
def ReachesPointRelease (v : KernelVersion) : Prop :=
  ∃ sub ≤ v.sub, (v.branch, sub) ∈ requiredPointReleases

theorem reachesPointRelease_iff (v : KernelVersion) :
    ReachesPointRelease v ↔ ofParts 4 19 0 ≤ v ∧ kernelWarnings v = [] := by
  constructor
  · rintro ⟨sub, hsub, hmem⟩
    have hle : ofParts 4 19 0 ≤ v :=
      (ofParts_4_19_le_iff v).mpr (requiredPointReleases_subset _ (List.mem_map_of_mem hmem)).2
    rw [kernelWarnings_eq_nil_iff, isMaintained_iff_of_le hle]
    exact ⟨hle, sub, hsub, mem_supportedReleases_iff.mpr hmem⟩
  · rintro ⟨hle, hwarnings⟩
    rw [kernelWarnings_eq_nil_iff, isMaintained_iff_of_le hle] at hwarnings
    obtain ⟨sub, hsub, hmem⟩ := hwarnings
    exact ⟨sub, hsub, mem_supportedReleases_iff.mp hmem⟩

/-- All floors lie below that for Android V. -/
theorem floors_le_iff (v : KernelVersion) :
    (∀ floor ∈ floors, floor.required ≤ v) ↔ ofParts 4 19 0 ≤ v := by
  simp only [floors, List.forall_mem_cons, List.not_mem_nil, false_imp_iff, implies_true, and_true,
    KernelVersion.le_iff, packed_ofParts]
  omega

/-- The boot sequence of the same device on another kernel. -/
def withKernel (kernel : KernelVersion) : Bootstrap σ :=
  { b with caps := { b.caps with kernel } }

/-- The device passes the check of release and kernel. -/
def IsAccepted (s : Session σ) : Prop :=
  (Logged.on (checkVersions b).run s).1 = .ok ()

variable {b}

theorem isAccepted_iff (hV : 35 ≤ b.caps.apiLevel) (hgsi : b.caps.gsi = false) (s : Session σ) :
    b.IsAccepted s
      ↔ (b.caps.arch.isX86 = true → b.caps.kernel64Bit = true) ∧ ReachesPointRelease b.caps.kernel := by
  have hlevel : ∀ floor ∈ floors, floor.apiLevel ≤ b.caps.apiLevel := by
    have hbound : ∀ floor ∈ floors, floor.apiLevel ≤ 35 := by decide
    exact fun floor hfloor => (hbound floor hfloor).trans hV
  have hfloors : (∀ floor ∈ floors, floor.apiLevel ≤ b.caps.apiLevel → floor.required ≤ b.caps.kernel)
      ↔ ofParts 4 19 0 ≤ b.caps.kernel := by
    rw [← floors_le_iff]
    exact forall₂_congr fun floor hfloor => imp_iff_right (hlevel floor hfloor)
  have hwarnings : (kernelWarnings b.caps.kernel ≠ [] → b.caps.gsi = true)
      ↔ kernelWarnings b.caps.kernel = [] := by
    rw [hgsi]
    exact ⟨fun h => not_not.mp fun hne => absurd (h hne) nofun, fun h hne => absurd h hne⟩
  have hT : 33 ≤ b.caps.apiLevel := by omega
  rw [IsAccepted, passes_checkVersions b s, hfloors, hwarnings, reachesPointRelease_iff,
    imp_iff_right hV, and_iff_right hT]
  exact and_left_comm

/-- The two tables agree about every kernel, and on Android V they decide which kernels are accepted; a later
point release is never worse. -/
theorem tables_decide_acceptance (v : KernelVersion) :
    TablesAgree v
      ∧ ∀ b : Bootstrap σ, 35 ≤ b.caps.apiLevel → b.caps.gsi = false →
        (∀ s, (b.withKernel v).IsAccepted s
          ↔ (b.caps.arch.isX86 = true → b.caps.kernel64Bit = true) ∧ ReachesPointRelease v)
        ∧ ∀ w : KernelVersion, w.branch = v.branch → v.sub ≤ w.sub →
          ∀ s s', (b.withKernel v).IsAccepted s → (b.withKernel w).IsAccepted s' := by
  refine ⟨tablesAgree v, fun b hV hgsi => ⟨isAccepted_iff hV hgsi, ?_⟩⟩
  intro w hbranch hsub s s' haccepted
  obtain ⟨hprocessor, sub, hreached, hmem⟩ :=
    (isAccepted_iff (b := b.withKernel v) hV hgsi s).mp haccepted
  refine (isAccepted_iff (b := b.withKernel w) hV hgsi s').mpr
    ⟨hprocessor, sub, hreached.trans hsub, ?_⟩
  change (w.branch, sub) ∈ requiredPointReleases
  rw [hbranch]
  exact hmem

/-- A device with Android V and an x86 processor. -/
def withX86 (kernel64Bit : Bool) : Bootstrap Unit :=
  { obliging with caps := { obliging.caps with apiLevel := 35, arch := .x86, kernel64Bit } }

/-- With a kernel of 64 bits, it is accepted from the point release of its branch on. -/
theorem tables_decide_acceptance_x86 :
    35 ≤ (withX86 true).caps.apiLevel ∧ (withX86 true).caps.gsi = false
      ∧ (∀ s, ((withX86 true).withKernel (ofParts 5 10 199)).IsAccepted s)
      ∧ ∀ s, ¬ ((withX86 true).withKernel (ofParts 5 10 198)).IsAccepted s := by
  have hV : 35 ≤ (withX86 true).caps.apiLevel := by decide
  have hreached : ReachesPointRelease (ofParts 5 10 199) := ⟨199, by decide, by decide⟩
  have hmissed : ¬ ReachesPointRelease (ofParts 5 10 198) := by
    rw [reachesPointRelease_iff]
    decide
  obtain ⟨hlast, -⟩ := (tables_decide_acceptance (ofParts 5 10 199)).2 (withX86 true) hV rfl
  obtain ⟨hbefore, -⟩ := (tables_decide_acceptance (ofParts 5 10 198)).2 (withX86 true) hV rfl
  exact ⟨hV, rfl, fun s => (hlast s).mpr ⟨fun _ => rfl, hreached⟩,
    fun s haccepted => hmissed ((hbefore s).mp haccepted).2⟩

/-- With a kernel of 32 bits it is never accepted, though the kernel has reached that release. -/
theorem x86_not_accepted :
    35 ≤ (withX86 false).caps.apiLevel ∧ (withX86 false).caps.gsi = false
      ∧ ReachesPointRelease (withX86 false).caps.kernel ∧ ∀ s, ¬ (withX86 false).IsAccepted s := by
  refine ⟨by decide, rfl, ⟨199, by decide, by decide⟩, fun s haccepted => ?_⟩
  have hprocessor := ((isAccepted_iff (by decide) rfl s).mp haccepted).1 rfl
  cases hprocessor

end BpfBoot.Bootstrap
