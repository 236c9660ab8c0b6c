import BpfBoot.Proofs.Bootstrap.Surroundings

/-!
# Boot sequences below Android T

The release is checked right after the init scripts. On a device below Android T that has exactly one of the
scripts, the look-ups for the two scripts are therefore all that the boot sequence asks of its surroundings, and it
ends with the level that the device has.
-/

namespace BpfBoot

open Log

variable {σ : Type}

namespace Bootstrap

theorem on_attempt_of_ok {ε α : Type} (wrap : ε → LoaderError) {step : σ → Outcome (Except ε α) σ}
    {s : Session σ} {a : α} (h : (step s.world).value = .ok a) :
    Logged.on (attempt wrap step).run s
      = (.ok a, ⟨(step s.world).world, s.events ++ (step s.world).events⟩) := by
  rw [attempt, Logged.on_run_bind, ask, Logged.on_run_lift, Logged.on_follow, h]
  rfl

theorem on_notes (events : List Event) (s : Session σ) :
    Logged.on (events.forM note : Step σ Unit).run s = (.ok (), ⟨s.world, s.events ++ events⟩) := by
  induction events generalizing s with
  | nil => simp
  | cons e events ih =>
    show Logged.on (note e >>= fun _ => events.forM note).run s = _
    rw [Logged.on_run_bind]
    simp only [note, Logged.on_run_lift, Logged.on_report, ih, List.append_assoc, List.singleton_append]

variable (b : Bootstrap σ)

/-- Of the two init scripts, which are looked for one after the other, there is exactly one: the first one or the
second one. -/
structure FindsOneScript (w : σ) (isFirst : Bool) : Prop where
  first : (b.platform.fileExists (.ofString bpfLoaderScript) w).value = .ok isFirst
  second : (b.platform.fileExists (.ofString netBpfLoadScript)
    (b.platform.fileExists (.ofString bpfLoaderScript) w).world).value = .ok !isFirst

/-- The world after both init scripts were looked for. -/
def worldAfterScripts (w : σ) : σ :=
  (b.platform.fileExists (.ofString netBpfLoadScript)
    (b.platform.fileExists (.ofString bpfLoaderScript) w).world).world

variable {b}

theorem on_checkInitScripts_of_one {s : Session σ} {isFirst : Bool}
    (h : b.FindsOneScript s.world isFirst) :
    ∃ events, Logged.on (checkInitScripts b).run s = (.ok (), ⟨b.worldAfterScripts s.world, events⟩) := by
  rw [checkInitScripts, fileExists, Logged.on_run_bind, on_attempt_of_ok _ h.first]
  dsimp only
  rw [fileExists, Logged.on_run_bind, on_attempt_of_ok _ h.second]
  cases isFirst
  · exact ⟨_, rfl⟩
  · exact ⟨_, rfl⟩

theorem on_reportMounts (s : Session σ) :
    ∃ events, Logged.on (reportMounts b).run s = (.ok (), ⟨s.world, events⟩) := by
  simp only [reportMounts, Logged.on_run_bind, Logged.on_run_lift, Logged.on_look, on_notes]
  exact ⟨_, rfl⟩

theorem on_sequence_of_one {s : Session σ} {isFirst : Bool} (h : b.FindsOneScript s.world isFirst)
    (hlevel : b.caps.apiLevel < 33) :
    ∃ events, Logged.on (sequence b).run s
      = (.error (.belowT b.caps.apiLevel), ⟨b.worldAfterScripts s.world, events⟩) := by
  obtain ⟨events, hscripts⟩ := on_checkInitScripts_of_one h
  obtain ⟨events', hmounts⟩ := on_reportMounts (b := b) ⟨b.worldAfterScripts s.world, events⟩
  have hbelow : b.caps.isAtLeastT = false :=
    Bool.eq_false_iff.mpr fun hT => Nat.not_le.mpr hlevel (b.caps.isAtLeastT_iff.mp hT)
  have hversions (s' : Session σ) :
      Logged.on (checkVersions b).run s' = (.error (.belowT b.caps.apiLevel), s') := by
    rw [checkVersions, hbelow]
    rfl
  refine ⟨events', ?_⟩
  rw [sequence_eq_afterVersions, Logged.on_run_bind, hscripts]
  dsimp only
  rw [Logged.on_run_bind, hmounts]
  dsimp only
  rw [Logged.on_run_bind, hversions]

theorem run_of_below {w : σ} {isFirst : Bool} (h : b.FindsOneScript w isFirst)
    (hlevel : b.caps.apiLevel < 33) :
    (b.run w).value = .error (.belowT b.caps.apiLevel)
      ∧ b.transcript w = [.fileExists (.ofString bpfLoaderScript) (.ok isFirst),
          .fileExists (.ofString netBpfLoadScript) (.ok !isFirst)] := by
  -- The same steps are taken over the surroundings as they are and over those that write down what is asked.
  have hkept : b.transcribing.FindsOneScript (w, []) isFirst := ⟨h.first, h.second⟩
  obtain ⟨_, hrun⟩ := on_sequence_of_one (s := ⟨w, []⟩) h hlevel
  obtain ⟨_, htranscript⟩ := on_sequence_of_one (s := ⟨(w, []), []⟩) hkept hlevel
  constructor
  · rw [run, Logged.outcome_eq, hrun]
  · rw [transcript, run, Logged.outcome_eq, htranscript, ← h.first, ← h.second]
    rfl

end Bootstrap

end BpfBoot
