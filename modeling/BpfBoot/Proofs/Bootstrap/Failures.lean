import BpfBoot.Proofs.Bootstrap.Surroundings

/-!
# Failures of the boot sequence

Most failures can end a boot sequence on any device, depending on what its surroundings reply. A kernel is
refused as unsupported on Android V alone, if it is new enough for that release and no generic system image
runs. The failures of what follows the boot sequence never end it.
-/

namespace BpfBoot.Bootstrap

open Log

variable {σ α β ε ι : Type}

/-- Whatever went before, a failure of the step satisfies `P`. -/
def FailsOnly (P : LoaderError → Prop) (step : Step σ α) : Prop :=
  ∀ s e, (Logged.on step.run s).1 = .error e → P e

namespace FailsOnly

variable {P : LoaderError → Prop}

theorem pure (a : α) : FailsOnly (σ := σ) P (pure a) := by
  intro s e h
  cases h

theorem throw {e : LoaderError} (h : P e) : FailsOnly (σ := σ) (α := α) P (throw e) := by
  intro s e' h'
  cases h'
  exact h

theorem lift (step : Logged σ α) : FailsOnly P (ExceptT.lift step) := by
  intro s e h
  cases h

/-- What follows a step starts with a value that the step gave. -/
theorem bind {step : Step σ α} {next : α → Step σ β} (h : FailsOnly P step)
    (hnext : ∀ a, (∃ s, (Logged.on step.run s).1 = .ok a) → FailsOnly P (next a)) :
    FailsOnly P (step >>= next) := by
  intro s e hfails
  rw [Logged.on_run_bind] at hfails
  rcases hstep : Logged.on step.run s with ⟨e' | a, s'⟩
  · rw [hstep] at hfails
    cases hfails
    exact h s e (by rw [hstep])
  · rw [hstep] at hfails
    exact hnext a ⟨s, by rw [hstep]⟩ s' e hfails

theorem ite {test : Prop} [Decidable test] {step step' : Step σ α} (h : test → FailsOnly P step)
    (h' : ¬ test → FailsOnly P step') : FailsOnly P (if test then step else step') := by
  by_cases htest : test
  · rw [if_pos htest]
    exact h htest
  · rw [if_neg htest]
    exact h' htest

theorem forM {step : ι → Step σ Unit} (h : ∀ i, FailsOnly P (step i)) (is : List ι) :
    FailsOnly P (is.forM step) := by
  induction is with
  | nil => exact pure ()
  | cons i is ih => exact bind (h i) fun _ _ => ih

theorem note (e : Event) : FailsOnly (σ := σ) P (note e) := lift _

theorem attempt {wrap : ε → LoaderError} (h : ∀ e, P (wrap e))
    (step : σ → Outcome (Except ε α) σ) : FailsOnly P (attempt wrap step) := by
  refine bind (lift _) fun reply _ => ?_
  cases reply with
  | ok a => exact pure a
  | error e => exact throw (h e)

end FailsOnly

/-! ## The failures of each step -/

/-- The failures of the boot sequence, but for that of an unsupported kernel. -/
def IsOrdinary : LoaderError → Prop
  | .unsupportedKernel _ | .handOff _ | .property .. => False
  | _ => True

variable (b : Bootstrap σ)

/-- The failures that can end the boot sequence on a device. -/
def CanFailWith : LoaderError → Prop
  | .unsupportedKernel kernel => kernel = b.caps.kernel ∧ 35 ≤ b.caps.apiLevel
      ∧ .ofParts 4 19 0 ≤ b.caps.kernel ∧ b.caps.gsi = false
  | e => IsOrdinary e

variable {b}

theorem FailsOnly.canFailWith {step : Step σ α} (h : FailsOnly IsOrdinary step) :
    FailsOnly (CanFailWith b) step := by
  intro s e he
  have hordinary := h s e he
  cases e <;> first | exact hordinary | exact hordinary.elim

theorem failsOnly_checkInitScripts : FailsOnly IsOrdinary (checkInitScripts b) := by
  refine FailsOnly.bind (FailsOnly.attempt (fun _ => trivial) _) fun _ _ => ?_
  refine FailsOnly.bind (FailsOnly.attempt (fun _ => trivial) _) fun _ _ => ?_
  refine FailsOnly.bind (FailsOnly.note _) fun _ _ => ?_
  refine FailsOnly.ite (fun _ => FailsOnly.throw trivial) fun _ => ?_
  exact FailsOnly.ite (fun _ => FailsOnly.throw trivial) fun _ => FailsOnly.pure ()

theorem failsOnly_reportMounts : FailsOnly IsOrdinary (reportMounts b) :=
  FailsOnly.bind (FailsOnly.lift _) fun _ _ => FailsOnly.forM (fun _ => FailsOnly.note _) _

theorem le_kernel_of_checkFloors_ok {floors : List Floor} {s : Session σ}
    (h : (Logged.on (checkFloors b floors).run s).1 = .ok ()) :
    ∀ floor ∈ floors, floor.apiLevel ≤ b.caps.apiLevel → floor.required ≤ b.caps.kernel := by
  induction floors with
  | nil => simp
  | cons floor floors ih =>
      rw [checkFloors] at h
      by_cases hfloor : floor.apiLevel ≤ b.caps.apiLevel ∧ b.caps.kernel < floor.required
      · rw [if_pos hfloor] at h
        cases h
      · rw [if_neg hfloor] at h
        rw [List.forall_mem_cons]
        exact ⟨fun hlevel => Nat.le_of_not_lt fun hlt => hfloor ⟨hlevel, hlt⟩, ih h⟩

theorem failsOnly_checkFloors (floors : List Floor) :
    FailsOnly IsOrdinary (checkFloors b floors) := by
  induction floors with
  | nil => exact FailsOnly.pure ()
  | cons floor floors ih =>
      exact FailsOnly.ite (fun _ => FailsOnly.throw trivial) fun _ => ih

theorem failsOnly_checkKernelSupport (hV : 35 ≤ b.caps.apiLevel)
    (hkernel : .ofParts 4 19 0 ≤ b.caps.kernel) :
    FailsOnly (CanFailWith b) (checkKernelSupport b) := by
  refine FailsOnly.bind (FailsOnly.forM (fun _ => FailsOnly.note _) _) fun _ _ => ?_
  refine FailsOnly.ite (fun _ => FailsOnly.ite (fun _ => ?_) fun hgsi => ?_) fun _ =>
    FailsOnly.pure ()
  · exact FailsOnly.bind (FailsOnly.note _) fun _ _ => FailsOnly.lift _
  · exact FailsOnly.throw ⟨rfl, hV, hkernel, Bool.not_eq_true _ ▸ hgsi⟩

theorem failsOnly_checkVersions : FailsOnly (CanFailWith b) (checkVersions b) := by
  refine FailsOnly.ite (fun _ => FailsOnly.throw trivial) fun _ => ?_
  refine FailsOnly.bind (failsOnly_checkFloors floors).canFailWith fun _ ⟨s, hfloors⟩ => ?_
  refine FailsOnly.ite (fun hV => ?_) fun _ => FailsOnly.pure ()
  refine FailsOnly.ite (fun _ => FailsOnly.throw trivial) fun _ => ?_
  have hlevel := (Capabilities.isAtLeastV_iff _).mp hV
  exact failsOnly_checkKernelSupport hlevel
    (le_kernel_of_checkFloors_ok hfloors ⟨apiLevelV, "V", .ofParts 4 19 0⟩ (by simp [floors]) hlevel)

theorem failsOnly_configureSwitches : FailsOnly IsOrdinary (configureSwitches b) := by
  have hset (path value : String) : FailsOnly IsOrdinary (setSwitch b path value) :=
    FailsOnly.attempt (fun _ => trivial) _
  have hclose : FailsOnly IsOrdinary (closeToUnprivileged b) := by
    refine FailsOnly.bind (FailsOnly.lift _) fun reply _ => ?_
    cases reply with
    | ok _ => exact FailsOnly.pure ()
    | error e => exact FailsOnly.ite (fun _ => FailsOnly.throw trivial) fun _ => FailsOnly.note _
  have hcompiled : FailsOnly IsOrdinary (if b.caps.isAtLeastU then do
      setSwitch b bpfJitEnable "1\n"
      setSwitch b bpfJitKallsyms "1\n"
    else pure ()) :=
    FailsOnly.ite (fun _ => FailsOnly.bind (hset _ _) fun _ _ => hset _ _) fun _ => FailsOnly.pure ()
  exact FailsOnly.ite (fun _ => FailsOnly.bind hclose fun _ _ => hcompiled) fun _ => hcompiled

theorem failsOnly_loadLocation (version : LoaderVersion) (location : Location) :
    FailsOnly IsOrdinary (loadLocation b version location) := by
  refine FailsOnly.bind (FailsOnly.lift _) fun result _ => ?_
  cases result with
  | ok _ => exact FailsOnly.pure ()
  | error source =>
      refine FailsOnly.bind (FailsOnly.forM (fun _ => FailsOnly.note _) _) fun _ _ => ?_
      exact FailsOnly.bind (FailsOnly.lift _) fun _ _ => FailsOnly.throw trivial

theorem failsOnly_complete : FailsOnly IsOrdinary (complete b) :=
  FailsOnly.ite (fun _ => FailsOnly.bind (FailsOnly.note _) fun _ _ => FailsOnly.pure _) fun _ =>
    FailsOnly.bind (FailsOnly.note _) fun _ _ => FailsOnly.pure _

theorem failsOnly_afterVersions : FailsOnly IsOrdinary (afterVersions b) := by
  refine FailsOnly.bind (FailsOnly.ite (fun _ => FailsOnly.throw trivial) fun _ =>
    FailsOnly.pure ()) fun _ _ => ?_
  refine FailsOnly.bind (FailsOnly.ite (fun _ => FailsOnly.throw trivial) fun _ =>
    FailsOnly.pure ()) fun _ _ => ?_
  refine FailsOnly.bind failsOnly_configureSwitches fun _ _ => ?_
  refine FailsOnly.bind (FailsOnly.forM (fun _ => FailsOnly.attempt (fun _ => trivial) _) _)
    fun _ _ => ?_
  refine FailsOnly.bind (FailsOnly.note _) fun _ _ => ?_
  refine FailsOnly.bind (FailsOnly.forM (failsOnly_loadLocation _) _) fun _ _ => ?_
  exact FailsOnly.bind (FailsOnly.attempt (fun _ => trivial) _) fun _ _ => failsOnly_complete

theorem failsOnly_sequence : FailsOnly (CanFailWith b) (sequence b) := by
  rw [sequence_eq_afterVersions]
  refine FailsOnly.bind failsOnly_checkInitScripts.canFailWith fun _ _ => ?_
  refine FailsOnly.bind failsOnly_reportMounts.canFailWith fun _ _ => ?_
  exact FailsOnly.bind failsOnly_checkVersions fun _ _ => failsOnly_afterVersions.canFailWith

/-- Whatever its surroundings reply, a boot sequence fails only as the device allows. -/
theorem canFailWith_of_run_eq_error {w : σ} {e : LoaderError} (h : (b.run w).value = .error e) :
    CanFailWith b e :=
  failsOnly_sequence _ e h

end BpfBoot.Bootstrap
