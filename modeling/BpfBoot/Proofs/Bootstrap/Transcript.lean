import BpfBoot.Bootstrap
import BpfBoot.Proofs.Log.Session

/-!
# Transcripts of the boot sequence

A boot sequence deals with its surroundings in exchanges: it asks the platform or the object loader for
something and gets a reply. Its transcript lists the exchanges in order. It is kept by the same sequence
over a platform and a loader that write each exchange down, and that change nothing else: a step and the
step that is transcribed are compared in one relation, which also says what the transcript of the step is.
The relation has a rule for each way of putting steps together.
-/

namespace BpfBoot

open Log

variable {σ α β ε : Type}

/-! ## Exchanges -/

/-- Something that the boot sequence asks for, with the reply. -/
inductive Exchange where
  | fileExists (path : Path) (reply : Except Errno Bool)
  | writeSwitch (path : Path) (value : String) (reply : Except SysctlError Unit)
  | makePinDir (subdir : String) (reply : Except PinDirError Unit)
  | selfTest (reply : Except BpfError Unit)
  | sleep (seconds : Nat)
  | loadObject (path : Path) (version : LoaderVersion) (location : Location)
      (reply : Object.LoadResult)

namespace Exchange

/-- What was asked for. -/
def request : Exchange → Request
  | .fileExists path _ => .fileExists path
  | .writeSwitch path value _ => .writeSwitch path value
  | .makePinDir subdir _ => .makePinDir subdir
  | .selfTest _ => .selfTest
  | .sleep seconds => .sleep seconds
  | .loadObject path version location _ => .loadObject path version location

/-- A step in a world that also writes down what was exchanged, given its value. -/
def transcribe (exchange : α → Exchange) (step : σ → Outcome α σ) :
    σ × List Exchange → Outcome α (σ × List Exchange) := fun (world, transcript) =>
  let outcome := step world
  ⟨outcome.value, outcome.events, (outcome.world, transcript ++ [exchange outcome.value])⟩

end Exchange

/-- A platform that also writes down each exchange. -/
def Platform.transcribing (p : Platform σ) : Platform (σ × List Exchange) where
  fileExists path := Exchange.transcribe (.fileExists path) (p.fileExists path)
  writeSwitch path value := Exchange.transcribe (.writeSwitch path value) (p.writeSwitch path value)
  makePinDir subdir := Exchange.transcribe (.makePinDir subdir) (p.makePinDir subdir)
  selfTest := Exchange.transcribe .selfTest p.selfTest
  sleep seconds := Exchange.transcribe (fun _ => .sleep seconds) (p.sleep seconds)
  list world := p.list world.1
  mounts world := p.mounts world.1

/-- An object loader that also writes down each exchange. -/
def Object.ObjectLoader.transcribing (loader : Object.ObjectLoader σ) :
    Object.ObjectLoader (σ × List Exchange) := fun path version location =>
  Exchange.transcribe (.loadObject path version location) (loader path version location)

namespace Bootstrap

/-- The boot sequence over a platform and a loader that write each exchange down. -/
def transcribing (b : Bootstrap σ) : Bootstrap (σ × List Exchange) where
  caps := b.caps
  platform := b.platform.transcribing
  loader := b.loader.transcribing
  locations := b.locations
  settings := b.settings

variable (b : Bootstrap σ)

/-- The exchanges of a run, in order. -/
def transcript (w : σ) : List Exchange :=
  (b.transcribing.run (w, [])).world.2

/-- What comes of a request in a world. -/
def answer (request : Request) (w : σ) : Exchange :=
  match request with
  | .fileExists path => .fileExists path (b.platform.fileExists path w).value
  | .writeSwitch path value => .writeSwitch path value (b.platform.writeSwitch path value w).value
  | .makePinDir subdir => .makePinDir subdir (b.platform.makePinDir subdir w).value
  | .selfTest => .selfTest (b.platform.selfTest w).value
  | .sleep seconds => .sleep seconds
  | .loadObject path version location =>
      .loadObject path version location (b.loader path version location w).value

/-- Whether the reply of an exchange is one that is given in some world. -/
def Gives (x : Exchange) : Prop :=
  ∃ w, b.answer x.request w = x

/-! ## Steps and their transcripts -/

/-- The step `kept` does what the step `plain` does. It adds exchanges to the transcript, with replies
that are given, and these exchanges and the value of the step satisfy `P`. -/
def Transcribes (plain : Step σ α) (kept : Step (σ × List Exchange) α)
    (P : List Exchange → Except LoaderError α → Prop) : Prop :=
  ∀ (w : σ) (t : List Exchange) (events : List Event), ∃ xs : List Exchange,
    Logged.on kept.run ⟨(w, t), events⟩
      = ((Logged.on plain.run ⟨w, events⟩).1,
          ⟨((Logged.on plain.run ⟨w, events⟩).2.world, t ++ xs),
            (Logged.on plain.run ⟨w, events⟩).2.events⟩)
    ∧ (∀ x ∈ xs, b.Gives x)
    ∧ P xs (Logged.on plain.run ⟨w, events⟩).1

namespace Transcribes

variable {b} {P Q : List Exchange → Except LoaderError α → Prop}

theorem mono {plain : Step σ α} {kept : Step (σ × List Exchange) α}
    (h : b.Transcribes plain kept P) (hPQ : ∀ xs r, P xs r → Q xs r) :
    b.Transcribes plain kept Q := by
  intro w t events
  obtain ⟨xs, hrun, hgives, hP⟩ := h w t events
  exact ⟨xs, hrun, hgives, hPQ xs _ hP⟩

theorem pure (a : α) (h : P [] (.ok a)) : b.Transcribes (pure a) (pure a) P := by
  intro w t events
  exact ⟨[], by simp, by simp, h⟩

theorem throw (e : LoaderError) (h : P [] (.error e)) : b.Transcribes (throw e) (throw e) P := by
  intro w t events
  exact ⟨[], by simp, by simp, h⟩

theorem note (e : Event) {P : List Exchange → Except LoaderError Unit → Prop} (h : P [] (.ok ())) :
    b.Transcribes (note e) (note e) P := by
  intro w t events
  exact ⟨[], by simp [Bootstrap.note], by simp, h⟩

theorem look (f : σ → α) (h : ∀ a, P [] (.ok a)) :
    b.Transcribes (ExceptT.lift (look f)) (ExceptT.lift (Log.look fun s => f s.1)) P := by
  intro w t events
  exact ⟨[], by simp, by simp, h _⟩

theorem ite {test : Prop} [Decidable test] {plain plain' : Step σ α}
    {kept kept' : Step (σ × List Exchange) α} (h : test → b.Transcribes plain kept P)
    (h' : ¬ test → b.Transcribes plain' kept' P) :
    b.Transcribes (if test then plain else plain') (if test then kept else kept') P := by
  by_cases htest : test
  · rw [if_pos htest, if_pos htest]
    exact h htest
  · rw [if_neg htest, if_neg htest]
    exact h' htest

theorem ask (exchange : α → Exchange) (step : σ → Outcome α σ)
    (hgives : ∀ w, b.Gives (exchange (step w).value)) (h : ∀ a, P [exchange a] (.ok a)) :
    b.Transcribes (ask step) (ask (Exchange.transcribe exchange step)) P := by
  intro w t events
  refine ⟨[exchange (step w).value], ?_, ?_, h _⟩
  · simp [Bootstrap.ask, Exchange.transcribe]
  · intro x hx
    rw [List.mem_singleton.mp hx]
    exact hgives w

/-- A failure ends the transcript. -/
theorem bind {plain : Step σ α} {kept : Step (σ × List Exchange) α}
    {plainNext : α → Step σ β} {keptNext : α → Step (σ × List Exchange) β}
    {Q : α → List Exchange → Except LoaderError β → Prop}
    {R : List Exchange → Except LoaderError β → Prop}
    (h : b.Transcribes plain kept P) (hnext : ∀ a, b.Transcribes (plainNext a) (keptNext a) (Q a))
    (hok : ∀ xs a ys r, P xs (.ok a) → Q a ys r → R (xs ++ ys) r)
    (herror : ∀ xs e, P xs (.error e) → R xs (.error e)) :
    b.Transcribes (plain >>= plainNext) (kept >>= keptNext) R := by
  intro w t events
  obtain ⟨xs, hrun, hgives, hP⟩ := h w t events
  rw [Logged.on_run_bind, Logged.on_run_bind, hrun]
  rcases hplain : Logged.on plain.run ⟨w, events⟩ with ⟨_ | a, s⟩
  · rw [hplain] at hP
    exact ⟨xs, rfl, hgives, herror xs _ hP⟩
  · rw [hplain] at hP
    -- the second step starts with what the first one left in the world and in the transcript
    obtain ⟨ys, hrun', hgives', hQ⟩ := hnext a s.world (t ++ xs) s.events
    refine ⟨xs ++ ys, ?_, ?_, hok xs a ys _ hP hQ⟩
    · simp only
      rw [hrun', List.append_assoc]
    · intro x hx
      rcases List.mem_append.mp hx with hx | hx
      · exact hgives x hx
      · exact hgives' x hx

/-- A step that leaves no trace in the transcript. -/
theorem silent_bind {plain : Step σ Unit} {kept : Step (σ × List Exchange) Unit}
    {plainNext : Unit → Step σ α} {keptNext : Unit → Step (σ × List Exchange) α}
    (hsilent : b.Transcribes plain kept fun xs r => xs = [] ∧ r = .ok ())
    (h : b.Transcribes (plainNext ()) (keptNext ()) P) :
    b.Transcribes (plain >>= plainNext) (kept >>= keptNext) P := by
  refine bind hsilent (fun _ => h) ?_ ?_
  · rintro xs a ys r ⟨rfl, _⟩ hP
    exact hP
  · rintro xs e ⟨_, h'⟩
    cases h'

theorem note_bind (e : Event) {plain : Unit → Step σ α} {kept : Unit → Step (σ × List Exchange) α}
    (h : b.Transcribes (plain ()) (kept ()) P) :
    b.Transcribes (Bootstrap.note e >>= plain) (Bootstrap.note e >>= kept) P :=
  silent_bind (note e ⟨rfl, rfl⟩) h

theorem notes {ι : Type} (event : ι → Event) (is : List ι) :
    b.Transcribes (is.forM fun i => Bootstrap.note (event i))
      (is.forM fun i => Bootstrap.note (event i)) fun xs r => xs = [] ∧ r = .ok () := by
  induction is with
  | nil => exact pure () ⟨rfl, rfl⟩
  | cons i is ih => exact note_bind (event i) ih

theorem ask_bind (exchange : α → Exchange) (step : σ → Outcome α σ)
    {plain : α → Step σ β} {kept : α → Step (σ × List Exchange) β}
    {P : List Exchange → Except LoaderError β → Prop}
    (hgives : ∀ w, b.Gives (exchange (step w).value))
    (h : ∀ a, b.Transcribes (plain a) (kept a) fun xs r => P (exchange a :: xs) r) :
    b.Transcribes (Bootstrap.ask step >>= plain)
      (Bootstrap.ask (Exchange.transcribe exchange step) >>= kept) P := by
  refine bind (ask exchange step hgives (P := fun xs r => ∃ a, xs = [exchange a] ∧ r = .ok a)
    fun a => ⟨a, rfl, rfl⟩) h ?_ ?_
  · rintro xs _ ys r ⟨a, rfl, hreply⟩ hP
    cases hreply
    exact hP
  · rintro xs e ⟨_, _, hreply⟩
    cases hreply

theorem attempt (wrap : ε → LoaderError) (exchange : Except ε α → Exchange)
    (step : σ → Outcome (Except ε α) σ) (hgives : ∀ w, b.Gives (exchange (step w).value))
    (hok : ∀ a, P [exchange (.ok a)] (.ok a))
    (herror : ∀ e, P [exchange (.error e)] (.error (wrap e))) :
    b.Transcribes (attempt wrap step) (attempt wrap (Exchange.transcribe exchange step)) P := by
  refine ask_bind exchange step hgives fun reply => ?_
  cases reply with
  | ok a => exact pure a (hok a)
  | error e => exact throw (wrap e) (herror e)

theorem attempt_bind (wrap : ε → LoaderError) (exchange : Except ε α → Exchange)
    (step : σ → Outcome (Except ε α) σ) {plain : α → Step σ β}
    {kept : α → Step (σ × List Exchange) β} {P : List Exchange → Except LoaderError β → Prop}
    (hgives : ∀ w, b.Gives (exchange (step w).value))
    (hok : ∀ a, b.Transcribes (plain a) (kept a) fun xs r => P (exchange (.ok a) :: xs) r)
    (herror : ∀ e, P [exchange (.error e)] (.error (wrap e))) :
    b.Transcribes (Bootstrap.attempt wrap step >>= plain)
      (Bootstrap.attempt wrap (Exchange.transcribe exchange step) >>= kept) P := by
  refine bind (attempt wrap exchange step hgives
    (P := fun xs r => (∃ a, xs = [exchange (.ok a)] ∧ r = .ok a)
      ∨ ∃ e, xs = [exchange (.error e)] ∧ r = .error (wrap e))
    (fun a => .inl ⟨a, rfl, rfl⟩) fun e => .inr ⟨e, rfl, rfl⟩) hok ?_ ?_
  · rintro xs _ ys r (⟨a, rfl, hreply⟩ | ⟨_, _, hreply⟩) hP
    · cases hreply
      exact hP
    · cases hreply
  · rintro xs _ (⟨_, _, hreply⟩ | ⟨e, rfl, hreply⟩)
    · cases hreply
    · cases hreply
      exact herror e

end Transcribes

end Bootstrap

end BpfBoot
