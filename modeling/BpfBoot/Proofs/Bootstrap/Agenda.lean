import BpfBoot.Proofs.Bootstrap.Transcript

/-!
# Agendas

An agenda says in which order the boot sequence asks for what, and what ends it. It is a list of stages. A
stage asks for a fixed list of things; a reply that is fatal ends the sequence at once. When all replies
are there, the stage gives its verdict on them, and a verdict that is a failure ends the sequence too,
after some parting requests. A stage without requests is a plain check.
-/

namespace BpfBoot

/-- A part of the boot sequence. -/
structure Stage where
  requests : List Request
  /-- The failure that the replies to the requests amount to. -/
  verdict : List Exchange → Option LoaderError
  /-- What is still asked for before that failure ends the sequence. -/
  parting : List Request

namespace Stage

/-- The stage that makes one request. -/
def demand (request : Request) : Stage :=
  ⟨[request], fun _ => none, []⟩

/-- The stage that fails on a condition that no reply changes. -/
def gate (fails : Prop) [Decidable fails] (e : LoaderError) : Stage :=
  ⟨[], fun _ => if fails then some e else none, []⟩

@[simp] theorem requests_demand (request : Request) : (demand request).requests = [request] := rfl

@[simp] theorem parting_demand (request : Request) : (demand request).parting = [] := rfl

@[simp] theorem requests_gate (fails : Prop) [Decidable fails] (e : LoaderError) :
    (gate fails e).requests = [] := rfl

@[simp] theorem parting_gate (fails : Prop) [Decidable fails] (e : LoaderError) :
    (gate fails e).parting = [] := rfl

end Stage

namespace Bootstrap

variable {σ α β : Type} (b : Bootstrap σ)

/-- The failure with which a reply ends the boot sequence at once. Old kernels may refuse to close BPF to
unprivileged processes, and no object file alone ends the sequence. -/
def fatal? : Exchange → Option LoaderError
  | .fileExists path (.error errno) => some (.access path errno)
  | .writeSwitch path _ (.error e) =>
      if path = .ofString unprivilegedBpfDisabled
          ∧ b.caps.kernel < b.settings.unprivilegedThreshold then none
      else some (.sysctl e)
  | .makePinDir _ (.error e) => some (.pinDir e)
  | .selfTest (.error e) => some (.selfTest e)
  | _ => none

/-- The exchanges that make all of some requests, with no fatal reply. -/
structure Completes (requests : List Request) (xs : List Exchange) : Prop where
  requests_eq : xs.map Exchange.request = requests
  harmless : ∀ x ∈ xs, b.fatal? x = none

/-- The transcript goes through an agenda in order, up to the first fatal reply or failing verdict, which
is the result. -/
inductive Follows : List Stage → List Exchange → Except LoaderError Unit → Prop where
  | nil : Follows [] [] (.ok ())
  | pass {stage : Stage} {rest : List Stage} {xs ys : List Exchange} {r : Except LoaderError Unit} :
      b.Completes stage.requests xs → stage.verdict xs = none → Follows rest ys r →
        Follows (stage :: rest) (xs ++ ys) r
  | refused {stage : Stage} {rest : List Stage} {made left : List Request} {xs : List Exchange}
      {x : Exchange} {e : LoaderError} :
      stage.requests = made ++ x.request :: left → b.Completes made xs → b.fatal? x = some e →
        Follows (stage :: rest) (xs ++ [x]) (.error e)
  | failed {stage : Stage} {rest : List Stage} {xs ys : List Exchange} {e : LoaderError} :
      b.Completes stage.requests xs → stage.verdict xs = some e →
        b.Completes stage.parting ys → Follows (stage :: rest) (xs ++ ys) (.error e)

variable {b}

theorem Completes.nil : b.Completes [] [] :=
  ⟨rfl, by simp⟩

theorem Completes.singleton {x : Exchange} (h : b.fatal? x = none) : b.Completes [x.request] [x] :=
  ⟨rfl, by simpa using h⟩

namespace Follows

variable {stages rest : List Stage} {xs ys : List Exchange} {r : Except LoaderError Unit}
  {e : LoaderError}

theorem append (h : b.Follows stages xs (.ok ())) (hrest : b.Follows rest ys r) :
    b.Follows (stages ++ rest) (xs ++ ys) r := by
  generalize hr : (Except.ok () : Except LoaderError Unit) = r' at h
  induction h with
  | nil => exact hrest
  | pass hxs hverdict _ ih =>
      rw [List.append_assoc]
      exact pass hxs hverdict (ih hr)
  | refused => cases hr
  | failed => cases hr

theorem append_of_error (h : b.Follows stages xs (.error e)) :
    b.Follows (stages ++ rest) xs (.error e) := by
  generalize hr : (Except.error e : Except LoaderError Unit) = r' at h
  induction h with
  | nil => cases hr
  | pass hxs hverdict _ ih => exact pass hxs hverdict (ih hr)
  | refused hmade hxs hx => exact refused hmade hxs hx
  | failed hxs hverdict hys => exact failed hxs hverdict hys

theorem demand {x : Exchange} (h : b.fatal? x = none) :
    b.Follows [.demand x.request] [x] (.ok ()) := by
  have hpass : b.Follows [.demand x.request] ([x] ++ []) (.ok ()) :=
    pass (Completes.singleton h) rfl nil
  rwa [List.append_nil] at hpass

theorem demand_refused {x : Exchange} (h : b.fatal? x = some e) :
    b.Follows [.demand x.request] [x] (.error e) := by
  have hrefused : b.Follows [.demand x.request] ([] ++ [x]) (.error e) :=
    refused rfl Completes.nil h
  exact hrefused

theorem gate {fails : Prop} [Decidable fails] (h : ¬ fails) (hrest : b.Follows rest xs r) :
    b.Follows (.gate fails e :: rest) xs r := by
  have hpass : b.Follows (.gate fails e :: rest) ([] ++ xs) r :=
    pass Completes.nil (if_neg h) hrest
  exact hpass

theorem gate_failed {fails : Prop} [Decidable fails] (h : fails) :
    b.Follows (.gate fails e :: rest) [] (.error e) := by
  have hfailed : b.Follows (.gate fails e :: rest) ([] ++ []) (.error e) :=
    failed Completes.nil (if_pos h) Completes.nil
  exact hfailed

end Follows

/-! ## Steps that fulfil an agenda -/

variable (b)

/-- The transcribed step keeps to an agenda. -/
def Fulfils (stages : List Stage) (plain : Step σ α) (kept : Step (σ × List Exchange) α) : Prop :=
  b.Transcribes plain kept fun xs r => b.Follows stages xs (r.map fun _ => ())

variable {b}

namespace Fulfils

variable {stages rest : List Stage}

theorem pure (a : α) : b.Fulfils [] (pure a) (pure a) :=
  Transcribes.pure a .nil

theorem look (f : σ → α) :
    b.Fulfils [] (ExceptT.lift (Log.look f)) (ExceptT.lift (Log.look fun s => f s.1)) :=
  Transcribes.look f fun _ => .nil

theorem bind {plain : Step σ α} {kept : Step (σ × List Exchange) α}
    {plainNext : α → Step σ β} {keptNext : α → Step (σ × List Exchange) β}
    (h : b.Fulfils stages plain kept) (hnext : ∀ a, b.Fulfils rest (plainNext a) (keptNext a)) :
    b.Fulfils (stages ++ rest) (plain >>= plainNext) (kept >>= keptNext) :=
  Transcribes.bind h hnext (fun _ _ _ _ hxs hys => hxs.append hys) fun _ _ hxs => hxs.append_of_error

theorem forM {ι : Type} {stageOf : ι → Stage} {plain : ι → Step σ Unit}
    {kept : ι → Step (σ × List Exchange) Unit}
    (h : ∀ i, b.Fulfils [stageOf i] (plain i) (kept i)) (is : List ι) :
    b.Fulfils (is.map stageOf) (is.forM plain) (is.forM kept) := by
  induction is with
  | nil => exact pure ()
  | cons i is ih => exact bind (h i) fun _ => ih

theorem notes {ι : Type} (event : ι → Log.Event) (is : List ι) :
    b.Fulfils [] (is.forM fun i => Bootstrap.note (event i))
      (is.forM fun i => Bootstrap.note (event i)) := by
  refine (Transcribes.notes event is).mono ?_
  rintro xs r ⟨rfl, rfl⟩
  exact .nil

theorem gate {fails test : Prop} [Decidable fails] [Decidable test] {e : LoaderError}
    {plain : Step σ α} {kept : Step (σ × List Exchange) α} (htest : test ↔ fails)
    (h : ¬ fails → b.Fulfils rest plain kept) :
    b.Fulfils (.gate fails e :: rest) (if test then throw e else plain)
      (if test then throw e else kept) := by
  by_cases hfails : fails
  · rw [if_pos (htest.mpr hfails), if_pos (htest.mpr hfails)]
    exact Transcribes.throw e (.gate_failed hfails)
  · rw [if_neg (mt htest.mp hfails), if_neg (mt htest.mp hfails)]
    exact (h hfails).mono fun _ _ hxs => .gate hfails hxs

/-- Stages that only some devices have. -/
theorem when {wanted test : Prop} [Decidable wanted] [Decidable test] {plain : Step σ Unit}
    {kept : Step (σ × List Exchange) Unit} (htest : test ↔ wanted)
    (h : wanted → b.Fulfils stages plain kept) :
    b.Fulfils (if wanted then stages else []) (if test then plain else Pure.pure ())
      (if test then kept else Pure.pure ()) := by
  by_cases hwanted : wanted
  · rw [if_pos hwanted, if_pos (htest.mpr hwanted), if_pos (htest.mpr hwanted)]
    exact h hwanted
  · rw [if_neg hwanted, if_neg (mt htest.mp hwanted), if_neg (mt htest.mp hwanted)]
    exact pure ()

theorem when_bind {wanted test : Prop} [Decidable wanted] [Decidable test] {plain : Step σ Unit}
    {kept : Step (σ × List Exchange) Unit} {plainRest : Step σ Unit}
    {keptRest : Step (σ × List Exchange) Unit} (htest : test ↔ wanted)
    (h : wanted → b.Fulfils stages plain kept) (hrest : b.Fulfils rest plainRest keptRest) :
    b.Fulfils ((if wanted then stages else []) ++ rest)
      (if test then plain >>= fun _ => plainRest else plainRest)
      (if test then kept >>= fun _ => keptRest else keptRest) := by
  by_cases hwanted : wanted
  · rw [if_pos hwanted, if_pos (htest.mpr hwanted), if_pos (htest.mpr hwanted)]
    exact bind (h hwanted) fun _ => hrest
  · rw [if_neg hwanted, if_neg (mt htest.mp hwanted), if_neg (mt htest.mp hwanted)]
    exact hrest

theorem demand {ε : Type} (request : Request) (wrap : ε → LoaderError)
    (exchange : Except ε α → Exchange) (step : σ → Log.Outcome (Except ε α) σ)
    (hrequest : ∀ reply, (exchange reply).request = request)
    (hgives : ∀ w, b.Gives (exchange (step w).value))
    (hok : ∀ a, b.fatal? (exchange (.ok a)) = none)
    (herror : ∀ e, b.fatal? (exchange (.error e)) = some (wrap e)) :
    b.Fulfils [.demand request] (attempt wrap step)
      (attempt wrap (Exchange.transcribe exchange step)) := by
  refine Transcribes.attempt wrap exchange step hgives (fun a => ?_) fun e => ?_
  · rw [← hrequest (.ok a)]
    exact .demand (hok a)
  · rw [← hrequest (.error e)]
    exact .demand_refused (herror e)

theorem ask (request : Request) (exchange : α → Exchange) (step : σ → Log.Outcome α σ)
    (hrequest : ∀ reply, (exchange reply).request = request)
    (hgives : ∀ w, b.Gives (exchange (step w).value))
    (hharmless : ∀ reply, b.fatal? (exchange reply) = none) :
    b.Fulfils [.demand request] (Bootstrap.ask step)
      (Bootstrap.ask (Exchange.transcribe exchange step)) := by
  refine Transcribes.ask exchange step hgives fun a => ?_
  rw [← hrequest a]
  exact .demand (hharmless a)

end Fulfils

end Bootstrap

end BpfBoot
