import BpfBoot.Proofs.Log.Session

/-!
# Steps that agree

A step takes a state to a value and to a new state. Two steps with states of different kinds agree, with
respect to a relation between the states, if from related states they come to the same value and to related
states. Steps that are put together from steps that agree agree too, so that two runs of one program, each
in its own surroundings, can be compared by looking at what the surroundings do.
-/

namespace BpfBoot

variable {σ τ α β ε ι : Type} {R : σ → τ → Prop}

/-- From related states, the steps give the same value and come to related states. -/
def Agree (R : σ → τ → Prop) (f : StateM σ α) (g : StateM τ α) : Prop :=
  ∀ s t, R s t → (f s).1 = (g t).1 ∧ R (f s).2 (g t).2

namespace Agree

theorem pure (a : α) : Agree R (pure a) (pure a) :=
  fun _ _ h => ⟨rfl, h⟩

theorem bind {f : StateM σ α} {g : StateM τ α} {f' : α → StateM σ β} {g' : α → StateM τ β}
    (h : Agree R f g) (hnext : ∀ a, Agree R (f' a) (g' a)) : Agree R (f >>= f') (g >>= g') := by
  intro s t hst
  obtain ⟨hvalue, hstate⟩ := h s t hst
  change (f' (f s).1 (f s).2).1 = (g' (g t).1 (g t).2).1
    ∧ R (f' (f s).1 (f s).2).2 (g' (g t).1 (g t).2).2
  rw [hvalue]
  exact hnext _ _ _ hstate

end Agree

/-! ## Steps that can fail -/

/-- Steps that agree also on whether and how they fail. -/
def AgreeOrFail (R : σ → τ → Prop) (f : ExceptT ε (StateM σ) α) (g : ExceptT ε (StateM τ) α) : Prop :=
  Agree R f.run g.run

namespace AgreeOrFail

theorem pure (a : α) : AgreeOrFail (ε := ε) R (pure a) (pure a) :=
  fun _ _ h => ⟨rfl, h⟩

theorem throw (e : ε) : AgreeOrFail (ε := ε) (α := α) R (throw e) (throw e) :=
  fun _ _ h => ⟨rfl, h⟩

/-- Nothing follows a failure. -/
theorem throw_bind (e : ε) (f : α → ExceptT ε (StateM σ) β) (g : α → ExceptT ε (StateM τ) β) :
    AgreeOrFail R (MonadExcept.throw e >>= f) (MonadExcept.throw e >>= g) :=
  fun _ _ h => ⟨rfl, h⟩

theorem lift {f : StateM σ α} {g : StateM τ α} (h : Agree R f g) :
    AgreeOrFail (ε := ε) R (ExceptT.lift f) (ExceptT.lift g) := by
  intro s t hst
  obtain ⟨hvalue, hstate⟩ := h s t hst
  exact ⟨congrArg Except.ok hvalue, hstate⟩

/-- What follows is looked at only if the first steps do not fail. -/
theorem bind {f : ExceptT ε (StateM σ) α} {g : ExceptT ε (StateM τ) α}
    {f' : α → ExceptT ε (StateM σ) β} {g' : α → ExceptT ε (StateM τ) β}
    (h : AgreeOrFail R f g) (hnext : ∀ a, AgreeOrFail R (f' a) (g' a)) :
    AgreeOrFail R (f >>= f') (g >>= g') := by
  change Agree R (f.run >>= ExceptT.bindCont f') (g.run >>= ExceptT.bindCont g')
  refine Agree.bind h fun result => ?_
  cases result with
  | ok a => exact hnext a
  | error e => exact Agree.pure (α := Except ε β) (.error e)

theorem ite {test : Prop} [Decidable test] {f f' : ExceptT ε (StateM σ) α}
    {g g' : ExceptT ε (StateM τ) α} (h : AgreeOrFail R f g) (h' : AgreeOrFail R f' g') :
    AgreeOrFail R (if test then f else f') (if test then g else g') := by
  by_cases htest : test
  · rw [if_pos htest, if_pos htest]
    exact h
  · rw [if_neg htest, if_neg htest]
    exact h'

theorem forM {f : ι → ExceptT ε (StateM σ) Unit} {g : ι → ExceptT ε (StateM τ) Unit}
    (h : ∀ i, AgreeOrFail R (f i) (g i)) (is : List ι) : AgreeOrFail R (is.forM f) (is.forM g) := by
  induction is with
  | nil => exact pure ()
  | cons i is ih => exact bind (h i) fun _ => ih

theorem mapM {f : ι → ExceptT ε (StateM σ) α} {g : ι → ExceptT ε (StateM τ) α}
    (h : ∀ i, AgreeOrFail R (f i) (g i)) (is : List ι) : AgreeOrFail R (is.mapM f) (is.mapM g) := by
  induction is with
  | nil => exact pure []
  | cons i is ih =>
    rw [List.mapM_cons, List.mapM_cons]
    exact bind (h i) fun a => bind ih fun as => pure (a :: as)

theorem foldlM {f : β → ι → ExceptT ε (StateM σ) β} {g : β → ι → ExceptT ε (StateM τ) β}
    (h : ∀ b i, AgreeOrFail R (f b i) (g b i)) (b : β) (is : List ι) :
    AgreeOrFail R (is.foldlM f b) (is.foldlM g b) := by
  induction is generalizing b with
  | nil => exact pure b
  | cons i is ih => exact bind (h b i) fun b' => ih b'

end AgreeOrFail

end BpfBoot
