import BpfBoot.Proofs.Agreement

/-!
# Steps that add to the log

Nothing that the loader does hangs on what was reported before, and no event is taken back. So a step agrees
with itself in two sessions that differ in the events at their start, and what it reports itself is the same in
both.
-/

namespace BpfBoot.Log

variable {σ α β ε : Type}

/-- The sessions are the same, but that the second one begins with other events. -/
def Session.FollowsOn (earlier : List Event) (s t : Session σ) : Prop :=
  t = ⟨s.world, earlier ++ s.events⟩

namespace Logged

variable {earlier : List Event}

theorem followsOn_report (e : Event) :
    Agree (Session.FollowsOn (σ := σ) earlier) (report e) (report e) := by
  rintro s t rfl
  exact ⟨rfl, congrArg (Session.mk s.world) (List.append_assoc _ _ _)⟩

theorem followsOn_act (step : σ → α × σ) :
    Agree (Session.FollowsOn earlier) (act step) (act step) := by
  rintro s t rfl
  exact ⟨rfl, rfl⟩

theorem followsOn_look (f : σ → α) : Agree (Session.FollowsOn earlier) (look f) (look f) := by
  rintro s t rfl
  exact ⟨rfl, rfl⟩

/-- A step that agrees with itself puts its events behind those that were there. -/
theorem on_eq_of_followsOn {step : Logged σ α}
    (h : Agree (Session.FollowsOn earlier) step step) (w : σ) :
    step.on ⟨w, earlier⟩
      = ((step.outcome w).value, ⟨(step.outcome w).world, earlier ++ (step.outcome w).events⟩) := by
  have hstart : Session.FollowsOn earlier ⟨w, []⟩ ⟨w, earlier⟩ :=
    congrArg (Session.mk w) (List.append_nil earlier).symm
  obtain ⟨hvalue, hsession⟩ := h _ _ hstart
  exact Prod.ext hvalue.symm hsession

end Logged

end BpfBoot.Log
