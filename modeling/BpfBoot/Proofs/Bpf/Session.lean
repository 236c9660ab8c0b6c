import BpfBoot.Proofs.Bpf.Transcript

/-!
# Sessions on several maps

A session takes turns, each with the calls that it made. Whatever the kernel replies, a call on elements
carries the descriptor that came with the reply when the very map was made, and buffers of the sizes that the
map was made with. An operation with a wrong buffer ends before the kernel is asked.

The invariant behind this is that every map of the table was made by the turn with its number, among the turns
that make maps. It holds for the empty table, and each turn preserves it.
-/

namespace BpfBoot.Bpf

variable {κ α : Type}

/-! ## Turns -/

/-- A step of a session, with what it found and what came of it. -/
structure Turn (κ : Type) where
  step : SessionStep
  mapsBefore : MapTable
  stateBefore : κ
  result : StepResult
  calls : List AnsweredCall
  mapsAfter : MapTable
  stateAfter : κ

namespace Turn

def take (k : Kernel κ) (step : SessionStep) (maps : MapTable) (state : κ) : Turn κ :=
  let (result, mapsAfter, stateAfter, calls) := step.run k.transcribing maps (state, [])
  ⟨step, maps, state, result, calls, mapsAfter, stateAfter⟩

end Turn

def turns (k : Kernel κ) : List SessionStep → MapTable → κ → List (Turn κ)
  | [], _, _ => []
  | step :: steps, maps, state =>
      let turn := Turn.take k step maps state
      turn :: turns k steps turn.mapsAfter turn.stateAfter

/-! ## Maps that were made -/

namespace SessionStep

/-- Whether a step makes a map, or fails to. -/
def makes : SessionStep → Bool
  | .create _ | .openPin .. => true
  | _ => false

/-- The call by which a step gets a map, and the sizes of its keys and values. -/
inductive AsksFor : SessionStep → SystemCall → (keySize valueSize : Nat) → Prop
  | create (shape : MapShape) :
      AsksFor (.create shape) (.mapCreate shape) shape.keySize shape.valueSize
  | openPin (path : Path) {mode : Nat} (keySize valueSize : Nat) (kernel : KernelVersion)
      {access : MapAccess} (hmode : MapAccess.ofMode mode = .ok access) :
      AsksFor (.openPin path mode keySize valueSize kernel) (.objectGet path access.fileFlags)
        keySize valueSize

end SessionStep

/-- Among calls, the first one got a map, with the sizes that the step asks for. -/
def MakesMap (step : SessionStep) (calls : List AnsweredCall) (m : BpfMap) : Prop :=
  ∃ first completion, step.AsksFor first m.keySize m.valueSize
    ∧ calls.head? = some ⟨first, .ok completion⟩ ∧ m.descriptor = completion.descriptor

/-- The map with a number was made by the turn with that number, among the turns that make maps. -/
def Made (before : List (Turn κ)) (number : Nat) (m : BpfMap) : Prop :=
  ∃ t, (before.filter (·.step.makes))[number]? = some t ∧ t.result = .done
    ∧ MakesMap t.step t.calls m

namespace Turn

/-- The turn performs an operation on the map with a number. -/
structure UsesMap (t : Turn κ) (call : SystemCall) (number : Nat) (m : BpfMap) : Prop where
  performs : ∃ op : ElementOperation, t.step = op.on number ∧ call = op.call m
  present : t.mapsBefore[number]? = some (some m)
  fits : call.Fits m

structure Sound (k : Kernel κ) (t : Turn κ) : Prop where
  plain : t.step.run k t.mapsBefore t.stateBefore = (t.result, t.mapsAfter, t.stateAfter)
  element : ∀ x ∈ t.calls, x.call.isElement = true →
    (∃ number m, t.UsesMap x.call number m) ∨ t.step = .selfTest ∧ OnScratchMap t.calls x.call
  making : t.step.makes = true → ∃ made, t.mapsAfter = t.mapsBefore ++ [made]
    ∧ ∀ m, made = some m → t.result = .done ∧ MakesMap t.step t.calls m
  keeping : t.step.makes = false → t.mapsAfter.length = t.mapsBefore.length
    ∧ ∀ (number : Nat) (m : BpfMap),
      t.mapsAfter[number]? = some (some m) → t.mapsBefore[number]? = some (some m)

variable (k : Kernel κ) {maps : MapTable} {state : κ}

theorem take_eq {step : SessionStep} {result : StepResult} {mapsAfter : MapTable} {stateAfter : κ}
    {calls : List AnsweredCall}
    (h : step.run k.transcribing maps (state, []) = (result, mapsAfter, stateAfter, calls)) :
    take k step maps state = ⟨step, maps, state, result, calls, mapsAfter, stateAfter⟩ := by
  simp only [take, h]

/-! ### Operations on elements -/

section

variable (op : ElementOperation) {number : Nat} {m : BpfMap}

theorem take_on_of_wrong (hm : maps[number]? = some (some m)) {what : String} {buffer : Bytes}
    {size : Nat} (hwrong : op.wrongBuffer? m = some (what, buffer, size)) :
    take k (op.on number) maps state
      = ⟨op.on number, maps, state, .failed (.bufferSize what buffer.length size), [], maps, state⟩ :=
  take_eq k (op.run_on_of_wrong k.transcribing hm hwrong (state, []))

theorem take_on_of_fits (hm : maps[number]? = some (some m)) (hfits : op.wrongBuffer? m = none) :
    take k (op.on number) maps state
      = ⟨op.on number, maps, state, op.result m (k.answer (op.call m) state).1,
          [⟨op.call m, (k.answer (op.call m) state).1⟩], maps, (k.answer (op.call m) state).2⟩ :=
  take_eq k (op.run_on_of_fits k.transcribing hm hfits (state, []))

theorem take_on_of_no_map (hm : ∀ m, maps[number]? ≠ some (some m)) :
    take k (op.on number) maps state = ⟨op.on number, maps, state, .noSuchMap, [], maps, state⟩ :=
  take_eq k (op.run_on_of_no_map k.transcribing hm (state, []))

theorem makes_on : (op.on number).makes = false := by
  cases op <;> rfl

theorem sound_on : (take k (op.on number) maps state).Sound k := by
  by_cases hpresent : ∃ m, maps[number]? = some (some m)
  · obtain ⟨m, hm⟩ := hpresent
    cases hbuffers : op.wrongBuffer? m with
    | some wrong =>
      obtain ⟨what, buffer, size⟩ := wrong
      rw [take_on_of_wrong k op hm hbuffers]
      exact { plain := op.run_on_of_wrong k hm hbuffers state
              element := by simp
              making := by simp [makes_on]
              keeping := by simp }
    | none =>
      rw [take_on_of_fits k op hm hbuffers]
      refine { plain := op.run_on_of_fits k hm hbuffers state
               element := fun x hx _ => .inl ⟨number, m, ?_⟩
               making := by simp [makes_on]
               keeping := by simp }
      obtain rfl := List.mem_singleton.mp hx
      exact ⟨⟨op, rfl, rfl⟩, hm, op.fits_call hbuffers⟩
  · have hm : ∀ m, maps[number]? ≠ some (some m) := fun m h => hpresent ⟨m, h⟩
    rw [take_on_of_no_map k op hm]
    exact { plain := op.run_on_of_no_map k hm state
            element := by simp
            making := by simp [makes_on]
            keeping := by simp }

end

/-! ### Steps that make maps -/

theorem making_eq (make : Operation κ BpfMap) (maps : MapTable) (state : κ) :
    SessionStep.making make maps state
      = match Operation.on make state with
        | (.ok m, state) => (.done, maps ++ [some m], state)
        | (.error e, state) => (.failed e, maps ++ [none], state) := rfl

theorem sound_making {step : SessionStep} {plain : Operation κ BpfMap}
    {kept : Operation (κ × List AnsweredCall) BpfMap}
    (hplain : step.run k maps state = SessionStep.making plain maps state)
    (hkept : step.run k.transcribing maps (state, []) = SessionStep.making kept maps (state, []))
    (hmakes : step.makes = true)
    (h : Transcribes (fun calls outcome => (∀ x ∈ calls, x.call.isElement = false)
      ∧ ∀ m, outcome = .ok m → MakesMap step calls m) plain kept) :
    (take k step maps state).Sound k := by
  obtain ⟨calls, hrun, hcalls, hmade⟩ := h state []
  rw [making_eq, hrun] at hkept
  rw [making_eq] at hplain
  generalize Operation.on plain state = reached at hkept hplain hmade
  obtain ⟨e | m, state'⟩ := reached
  · rw [take_eq k hkept]
    exact { plain := hplain
            element := fun x hx helement => by simp [hcalls x hx] at helement
            making := fun _ => ⟨none, rfl, by simp⟩
            keeping := by simp [hmakes] }
  · rw [take_eq k hkept]
    exact { plain := hplain
            element := fun x hx helement => by simp [hcalls x hx] at helement
            making := fun _ => ⟨some m, rfl, by rintro _ ⟨⟩; exact ⟨rfl, hmade m rfl⟩⟩
            keeping := by simp [hmakes] }

/-! ### Other steps -/

def resultOfTest : Except BpfError Unit → StepResult
  | .ok () => .done
  | .error e => .failed e

theorem run_test (test : Operation κ Unit) (maps : MapTable) (state : κ) :
    (match test state with
      | (.ok (), state) => (StepResult.done, maps, state)
      | (.error e, state) => (.failed e, maps, state))
      = (resultOfTest (Operation.on test state).1, maps, (Operation.on test state).2) := by
  unfold Operation.on
  rcases test state with ⟨_ | _, _⟩ <;> rfl

theorem run_usable (k : Kernel κ) (path : Path) (maps : MapTable) (state : κ) :
    SessionStep.run k (.usable path) maps state
      = (.answered (Operation.on (openPinned k path readOnlyFlag) state).1.isOk, maps,
          (Operation.on (openPinned k path readOnlyFlag) state).2) := by
  simp only [SessionStep.run, isUsableProgram, Operation.on]
  rcases openPinned k path readOnlyFlag state with ⟨_ | _, _⟩ <;> rfl

theorem sound_beside {step : SessionStep} {plain : Operation κ α}
    {kept : Operation (κ × List AnsweredCall) α} (result : Except BpfError α → StepResult)
    (hplain : step.run k maps state
      = (result (Operation.on plain state).1, maps, (Operation.on plain state).2))
    (hkept : step.run k.transcribing maps (state, [])
      = (result (Operation.on kept (state, [])).1, maps, (Operation.on kept (state, [])).2))
    (hmakes : step.makes = false)
    (h : Transcribes (fun calls _ => ∀ x ∈ calls, x.call.isElement = true →
      step = .selfTest ∧ OnScratchMap calls x.call) plain kept) :
    (take k step maps state).Sound k := by
  obtain ⟨calls, hrun, hcalls⟩ := h state []
  rw [hrun] at hkept
  rw [take_eq k hkept]
  exact { plain := hplain
          element := fun x hx helement => .inr (hcalls x hx helement)
          making := by simp [hmakes]
          keeping := by simp }

theorem sound_drop (number : Nat) : (take k (.drop number) maps state).Sound k := by
  rw [take_eq k (rfl : SessionStep.run k.transcribing (.drop number) maps (state, []) = _)]
  refine { plain := rfl
           element := by simp
           making := by simp [SessionStep.makes]
           keeping := fun _ => ⟨by simp, fun other m h => ?_⟩ }
  rw [List.getElem?_set] at h
  split at h
  · split at h <;> simp at h
  · exact h

theorem sound_take (step : SessionStep) : (take k step maps state).Sound k := by
  cases step with
  | create shape =>
    refine sound_making k rfl rfl rfl ((transcribes_create k shape).mono ?_)
    rintro calls outcome ⟨hcalls, hmade⟩
    refine ⟨hcalls, fun m hm => ?_⟩
    obtain ⟨completion, hfirst, rfl⟩ := hmade m hm
    exact ⟨_, completion, .create shape, hfirst, rfl⟩
  | openPin path mode keySize valueSize kernel =>
    refine sound_making k rfl rfl rfl ?_
    cases hmode : MapAccess.ofMode mode with
    | error e => exact Transcribes.ended (.error e) (by simp)
    | ok access =>
      refine (transcribes_openPin k path access keySize valueSize kernel).mono ?_
      rintro calls outcome ⟨hcalls, hmade⟩
      refine ⟨hcalls, fun m hm => ?_⟩
      obtain ⟨completion, hfirst, rfl⟩ := hmade m hm
      exact ⟨_, completion, .openPin path keySize valueSize kernel hmode, hfirst, rfl⟩
  | write map key value flags => exact sound_on k (.write key value flags)
  | find map key buffer => exact sound_on k (.find key buffer)
  | delete map key => exact sound_on k (.delete key)
  | nextKey map key buffer => exact sound_on k (.nextKey key buffer)
  | firstKey map buffer => exact sound_on k (.firstKey buffer)
  | drop map => exact sound_drop k map
  | selfTest =>
    refine sound_beside k resultOfTest (run_test (Bpf.selfTest k) maps state)
      (run_test (Bpf.selfTest k.transcribing) maps (state, [])) rfl ?_
    exact (transcribes_selfTest k).mono fun _ _ h x hx helement => ⟨rfl, h x hx helement⟩
  | awaitGracePeriod =>
    refine sound_beside k resultOfTest (run_test (Bpf.awaitGracePeriod k) maps state)
      (run_test (Bpf.awaitGracePeriod k.transcribing) maps (state, [])) rfl ?_
    exact (noElement_awaitGracePeriod k).mono fun _ _ h x hx helement => by simp [h.1 x hx] at helement
  | usable path =>
    refine sound_beside k (fun outcome => .answered outcome.isOk) (run_usable k path _ _)
      (run_usable k.transcribing path _ _) rfl ?_
    exact (transcribes_openPinned k path readOnlyFlag).mono
      fun _ _ h x hx helement => by simp [h.1 x hx] at helement

end Turn

/-! ## The invariant -/

/-- Every map of a table was made by the turn with its number. -/
structure Known (before : List (Turn κ)) (maps : MapTable) : Prop where
  length : maps.length = (before.filter (·.step.makes)).length
  made : ∀ (number : Nat) (m : BpfMap), maps[number]? = some (some m) → Made before number m

variable {k : Kernel κ} {before : List (Turn κ)} {t : Turn κ}

theorem known_nil : Known ([] : List (Turn κ)) [] :=
  ⟨rfl, by simp⟩

theorem Made.append {number : Nat} {m : BpfMap} (h : Made before number m) (more : List (Turn κ)) :
    Made (before ++ more) number m := by
  obtain ⟨t, ht, hmade⟩ := h
  refine ⟨t, ?_, hmade⟩
  rw [List.filter_append, List.getElem?_append_left (List.getElem?_eq_some_iff.mp ht).1]
  exact ht

theorem Known.step (h : Known before t.mapsBefore) (ht : t.Sound k) :
    Known (before ++ [t]) t.mapsAfter := by
  cases hmakes : t.step.makes with
  | false =>
    -- The table loses maps at most, and its numbers stay those of the same turns.
    obtain ⟨hlength, hkept⟩ := ht.keeping hmakes
    refine ⟨?_, fun number m hm => (h.made number m (hkept number m hm)).append [t]⟩
    rw [hlength, h.length, List.filter_append]
    simp [hmakes]
  | true =>
    obtain ⟨made, hafter, hmade⟩ := ht.making hmakes
    refine ⟨by rw [hafter, List.filter_append]; simp [h.length, hmakes], fun number m hm => ?_⟩
    rw [hafter] at hm
    rcases Nat.lt_or_ge number t.mapsBefore.length with hlt | hge
    · rw [List.getElem?_append_left hlt] at hm
      exact (h.made number m hm).append [t]
    · -- The only number beyond the old table is that of the map which this turn made.
      rw [List.getElem?_append_right hge, List.getElem?_singleton] at hm
      split at hm
      · refine ⟨t, ?_, hmade m (Option.some.inj hm)⟩
        rw [List.filter_append, List.getElem?_append_right (h.length ▸ hge), ← h.length]
        simp [*]
      · cases hm

/-- The invariant holds wherever a session is cut. -/
theorem known_of_turns {steps : List SessionStep} {maps : MapTable} {state : κ}
    {done after : List (Turn κ)} (hdone : Known done maps)
    (h : turns k steps maps state = before ++ t :: after) :
    Known (done ++ before) t.mapsBefore ∧ t = Turn.take k t.step t.mapsBefore t.stateBefore := by
  -- By induction on the steps: each turn joins those that are `done`, and the invariant goes on with them.
  induction steps generalizing maps state done before with
  | nil => simp [turns] at h
  | cons step steps ih =>
    rw [turns] at h
    cases before with
    | nil =>
      obtain ⟨rfl, -⟩ := List.cons.inj h
      exact ⟨by rw [List.append_nil]; exact hdone, rfl⟩
    | cons first before =>
      obtain ⟨rfl, hrest⟩ := List.cons.inj h
      have hnext : Known (done ++ [Turn.take k step maps state]) _ :=
        hdone.step (Turn.sound_take k step)
      rw [List.append_cons]
      exact ih hnext hrest

/-! ## Sessions keep to their maps -/

/-- What is true of a turn that follows others. -/
structure Turn.KeepsToMaps (k : Kernel κ) (before : List (Turn κ)) (t : Turn κ) : Prop where
  /-- The turn is what the step does on the kernel itself. -/
  plain : t.step.run k t.mapsBefore t.stateBefore = (t.result, t.mapsAfter, t.stateAfter)
  /-- A call on elements is on the map that the operation names, as that map was made, with buffers that fit;
  or the turn is a self test, which makes a map of its own. -/
  element : ∀ x ∈ t.calls, x.call.isElement = true →
    (∃ number m, t.UsesMap x.call number m ∧ Made before number m)
      ∨ t.step = .selfTest ∧ OnScratchMap t.calls x.call
  /-- An operation with a wrong buffer names the first one and does nothing. -/
  refused : ∀ (op : ElementOperation) (number : Nat) (m : BpfMap) what buffer size,
    t.step = op.on number → t.mapsBefore[number]? = some (some m) →
    op.wrongBuffer? m = some (what, buffer, size) →
      t.result = .failed (.bufferSize what buffer.length size) ∧ t.calls = []
        ∧ t.stateAfter = t.stateBefore ∧ t.mapsAfter = t.mapsBefore
        ∧ op.bufferAfter? t.result = op.buffer?

theorem turns_keep_to_maps (k : Kernel κ) (steps : List SessionStep) (state : κ)
    {before after : List (Turn κ)} {t : Turn κ}
    (h : turns k steps [] state = before ++ t :: after) : t.KeepsToMaps k before := by
  obtain ⟨hknown, htake⟩ := known_of_turns known_nil h
  have hsound : t.Sound k := by
    rw [htake]
    exact Turn.sound_take k t.step
  refine { plain := hsound.plain, element := fun x hx helement => ?_, refused := ?_ }
  · refine (hsound.element x hx helement).imp_left fun ⟨number, m, huses⟩ => ?_
    exact ⟨number, m, huses, hknown.made number m huses.present⟩
  · intro op number m what buffer size hstep hm hwrong
    rw [hstep, Turn.take_on_of_wrong k op hm hwrong] at htake
    rw [htake]
    exact ⟨rfl, rfl, rfl, rfl, rfl⟩

/-- Two maps whose keys have two bytes: a next key that does not fit into its buffer, and one that does. -/
theorem turns_keep_to_maps_next_keys :
    ∃ before t after,
      turns scriptedKernel
          [.create ⟨1, 2, 1, 8, 0⟩, .create ⟨1, 2, 4, 8, 0⟩, .nextKey 1 (some [1, 2]) [0, 0, 0, 0],
            .nextKey 1 (some [1, 2]) [0, 0]] []
          ⟨List.replicate 3 (.succeeds [5, 6] ⟨0, 0⟩ 0), 7⟩ = before ++ t :: after
        ∧ t.KeepsToMaps scriptedKernel before
        ∧ t.result = .failed (.bufferSize "key" 4 2)
        ∧ after.map (·.result) = [.filled true [5, 6]]
        ∧ after.flatMap (·.calls.map (·.call)) = [.nextKey ⟨8⟩ (some [1, 2]) [0, 0] 0] := by
  have h : turns scriptedKernel
      [.create ⟨1, 2, 1, 8, 0⟩, .create ⟨1, 2, 4, 8, 0⟩, .nextKey 1 (some [1, 2]) [0, 0, 0, 0],
        .nextKey 1 (some [1, 2]) [0, 0]] []
      ⟨List.replicate 3 (.succeeds [5, 6] ⟨0, 0⟩ 0), 7⟩ = [_, _] ++ _ :: [_] := rfl
  exact ⟨_, _, _, h, turns_keep_to_maps _ _ _ h, rfl, rfl, rfl⟩

end BpfBoot.Bpf
