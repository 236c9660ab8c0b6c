import BpfBoot.Proofs.Bootstrap.Failures

/-!
# Generic system images

A generic system image excuses a kernel that is not supported, and nothing else. Two boot sequences are
compared that differ in nothing but whether such an image runs. Either they are the same in every exchange,
or the one without the image ends with the kernel being refused; then the other one goes on from there: it
waits, so that the warning is seen, and makes the remaining steps.
-/

namespace BpfBoot.Bootstrap

open Log

variable {σ α β : Type}

/-! ## Excused failures -/

/-- Two steps are the same, without a failure that could be excused, or one ends with an unsupported kernel
and the other one goes on from there with the step `rest`. -/
def Excuses (strict lenient rest : Step σ α) : Prop :=
  ∀ s, (Logged.on lenient.run s = Logged.on strict.run s
      ∧ ∀ e, (Logged.on strict.run s).1 = .error e → IsOrdinary e)
    ∨ ∃ kernel s', Logged.on strict.run s = (.error (.unsupportedKernel kernel), s')
      ∧ Logged.on lenient.run s = Logged.on rest.run s'

namespace Excuses

variable {strict lenient rest : Step σ α}

theorem ite {test : Prop} [Decidable test] {strict' lenient' : Step σ α}
    (h : test → Excuses strict lenient rest) (h' : ¬ test → Excuses strict' lenient' rest) :
    Excuses (if test then strict else strict') (if test then lenient else lenient') rest := by
  by_cases htest : test
  · rw [if_pos htest, if_pos htest]
    exact h htest
  · rw [if_neg htest, if_neg htest]
    exact h' htest

/-- A step that both make before. -/
theorem after {step : Step σ β} {strict lenient : β → Step σ α} (hstep : FailsOnly IsOrdinary step)
    (h : ∀ a, Excuses (strict a) (lenient a) rest) :
    Excuses (step >>= strict) (step >>= lenient) rest := by
  intro s
  rw [Logged.on_run_bind, Logged.on_run_bind]
  rcases hon : Logged.on step.run s with ⟨e | a, s'⟩
  · left
    refine ⟨rfl, fun e' he' => ?_⟩
    cases he'
    exact hstep s e (by rw [hon])
  · exact h a s'

end Excuses

/-! ## The steps -/

variable (b : Bootstrap σ)

end BpfBoot.Bootstrap
