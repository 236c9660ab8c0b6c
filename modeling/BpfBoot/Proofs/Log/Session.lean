import BpfBoot.Log.Session

/-!
# Logged steps, taken apart

What each kind of step does in a session. A proof about a step that is built from others rewrites with
these lemmas and looks at nothing behind them.
-/

namespace BpfBoot.Log.Logged

variable {σ α β ε : Type}

def on (step : Logged σ α) (s : Session σ) : α × Session σ := step s

@[simp] theorem on_pure (a : α) (s : Session σ) : on (pure a) s = (a, s) := rfl

@[simp] theorem on_bind (step : Logged σ α) (next : α → Logged σ β) (s : Session σ) :
    on (step >>= next) s = on (next (step.on s).1) (step.on s).2 := rfl

@[simp] theorem on_map (f : α → β) (step : Logged σ α) (s : Session σ) :
    on (f <$> step) s = (f (step.on s).1, (step.on s).2) := rfl

@[simp] theorem on_report (e : Event) (s : Session σ) :
    on (report e) s = ((), ⟨s.world, s.events ++ [e]⟩) := rfl

@[simp] theorem on_act (step : σ → α × σ) (s : Session σ) :
    on (act step) s = ((step s.world).1, ⟨(step s.world).2, s.events⟩) := rfl

@[simp] theorem on_follow (step : σ → Outcome α σ) (s : Session σ) :
    on (follow step) s
      = ((step s.world).value, ⟨(step s.world).world, s.events ++ (step s.world).events⟩) := rfl

@[simp] theorem on_look (f : σ → α) (s : Session σ) : on (look f) s = (f s.world, s) := rfl

theorem outcome_eq (step : Logged σ α) (world : σ) :
    step.outcome world
      = ⟨(step.on ⟨world, []⟩).1, (step.on ⟨world, []⟩).2.events,
          (step.on ⟨world, []⟩).2.world⟩ := rfl

/-! ## Steps that can fail -/

@[simp] theorem on_run_pure (a : α) (s : Session σ) :
    on (pure a : ExceptT ε (Logged σ) α).run s = (.ok a, s) := rfl

@[simp] theorem on_run_throw (e : ε) (s : Session σ) :
    on (throw e : ExceptT ε (Logged σ) α).run s = (.error e, s) := rfl

@[simp] theorem on_run_lift (step : Logged σ α) (s : Session σ) :
    on (ExceptT.lift step : ExceptT ε (Logged σ) α).run s
      = (.ok (step.on s).1, (step.on s).2) := rfl

/-- A failure ends what follows. -/
theorem on_run_bind (step : ExceptT ε (Logged σ) α) (next : α → ExceptT ε (Logged σ) β)
    (s : Session σ) :
    on (step >>= next).run s
      = match on step.run s with
        | (.ok a, s') => on (next a).run s'
        | (.error e, s') => (.error e, s') := by
  change on (ExceptT.bindCont next (on step.run s).1) (on step.run s).2 = _
  rcases on step.run s with ⟨_ | _, _⟩ <;> rfl

end BpfBoot.Log.Logged
