import BpfBoot.Proofs.Bpf.Operation

/-!
# Transcripts of operations

A transcribing kernel writes down every call together with its reply, and answers like the kernel that it
stands for. An operation on it does what the operation does on the plain kernel, and the rules below say which
calls it adds to the transcript. A map that was made carries the descriptor of the reply to the first call,
and calls on elements are made only with buffers that were measured.
-/

namespace BpfBoot.Bpf

variable {κ α β : Type}

structure AnsweredCall where
  call : SystemCall
  reply : Except Errno Completion

/-- A kernel that also writes down the calls with their replies, in order. -/
def Kernel.transcribing (k : Kernel κ) : Kernel (κ × List AnsweredCall) where
  answer call state :=
    let (reply, next) := k.answer call state.1
    (reply, next, state.2 ++ [⟨call, reply⟩])

/-! ## Rules -/

/-- The operation on a transcribing kernel does what it does on the plain one, and the calls that it adds to the
transcript stand in a relation to its outcome. -/
def Transcribes (P : List AnsweredCall → Except BpfError α → Prop) (plain : Operation κ α)
    (kept : Operation (κ × List AnsweredCall) α) : Prop :=
  ∀ state calls, ∃ more,
    Operation.on kept (state, calls)
        = ((Operation.on plain state).1, (Operation.on plain state).2, calls ++ more)
      ∧ P more (Operation.on plain state).1

namespace Transcribes

variable {P : List AnsweredCall → Except BpfError α → Prop}
  {S : List AnsweredCall → Except BpfError β → Prop}

theorem mono {P' : List AnsweredCall → Except BpfError α → Prop} {plain : Operation κ α}
    {kept : Operation (κ × List AnsweredCall) α} (h : Transcribes P plain kept)
    (himp : ∀ calls outcome, P calls outcome → P' calls outcome) : Transcribes P' plain kept := by
  intro state calls
  obtain ⟨more, hrun, hmore⟩ := h state calls
  exact ⟨more, hrun, himp _ _ hmore⟩

theorem ended (outcome : Except BpfError α) (h : P [] outcome) :
    Transcribes P (κ := κ) (fun state => (outcome, state)) (fun state => (outcome, state)) :=
  fun _ calls => ⟨[], by simp [Operation.on], h⟩

theorem pure (a : α) (h : P [] (.ok a)) : Transcribes P (κ := κ) (pure a) (pure a) :=
  ended (.ok a) h

theorem bind {plain : Operation κ α} {kept : Operation (κ × List AnsweredCall) α}
    {next : α → Operation κ β} {next' : α → Operation (κ × List AnsweredCall) β}
    (h : Transcribes P plain kept)
    (hnext : ∀ calls a, P calls (.ok a) →
      Transcribes (fun more outcome => S (calls ++ more) outcome) (next a) (next' a))
    (herror : ∀ calls e, P calls (.error e) → S calls (.error e)) :
    Transcribes S (plain >>= next) (kept >>= next') := by
  -- The calls of the second part come behind those of the first one, unless that one failed.
  intro state calls
  obtain ⟨more, hrun, hmore⟩ := h state calls
  rw [Operation.on_bind, Operation.on_bind, hrun]
  generalize Operation.on plain state = reached at hmore ⊢
  obtain ⟨_ | a, state'⟩ := reached
  · exact ⟨more, rfl, herror more _ hmore⟩
  · obtain ⟨more', hrun', hmore'⟩ := hnext more a hmore state' (calls ++ more)
    exact ⟨more ++ more', by simp only [hrun', List.append_assoc], hmore'⟩

theorem ite {test : Prop} [Decidable test] {plain plain' : Operation κ α}
    {kept kept' : Operation (κ × List AnsweredCall) α} (h : Transcribes P plain kept)
    (h' : Transcribes P plain' kept') :
    Transcribes P (if test then plain else plain') (if test then kept else kept') := by
  by_cases htest : test
  · rw [if_pos htest, if_pos htest]
    exact h
  · rw [if_neg htest, if_neg htest]
    exact h'

variable (k : Kernel κ) (call : SystemCall)

theorem request :
    Transcribes (fun calls outcome => ∃ reply, calls = [⟨call, reply⟩]
        ∧ outcome = reply.mapError (.command call.command))
      (request k call) (request k.transcribing call) := by
  intro state calls
  rw [Operation.on_request, Operation.on_request]
  exact ⟨[⟨call, (k.answer call state).1⟩], rfl, _, rfl, rfl⟩

theorem requestSystem :
    Transcribes (fun calls outcome => ∃ reply, calls = [⟨call, reply⟩]
        ∧ outcome = reply.mapError (.system call.command))
      (requestSystem k call) (requestSystem k.transcribing call) := by
  intro state calls
  rw [Operation.on_requestSystem, Operation.on_requestSystem]
  exact ⟨[⟨call, (k.answer call state).1⟩], rfl, _, rfl, rfl⟩

/-- What follows a call is looked at with the reply in the transcript. -/
theorem asked_bind {call : SystemCall} {failure : Errno → BpfError} {ask : Operation κ Completion}
    {ask' : Operation (κ × List AnsweredCall) Completion} {next : Completion → Operation κ β}
    {next' : Completion → Operation (κ × List AnsweredCall) β}
    (h : Transcribes (fun calls outcome => ∃ reply, calls = [⟨call, reply⟩]
      ∧ outcome = reply.mapError failure) ask ask')
    (hnext : ∀ completion, Transcribes (fun more => S (⟨call, .ok completion⟩ :: more))
      (next completion) (next' completion))
    (herror : ∀ errno, S [⟨call, .error errno⟩] (.error (failure errno))) :
    Transcribes S (ask >>= next) (ask' >>= next') := by
  refine bind h ?_ ?_
  · rintro calls completion ⟨reply, rfl, hreply⟩
    cases reply with
    | ok _ =>
      cases hreply
      exact hnext completion
    | error _ => cases hreply
  · rintro calls e ⟨reply, rfl, hreply⟩
    cases reply with
    | ok _ => cases hreply
    | error errno =>
      cases hreply
      exact herror errno

theorem requestElement :
    Transcribes (fun calls _ => ∃ reply, calls = [⟨call, reply⟩])
      (requestElement k call) (requestElement k.transcribing call) := by
  intro state calls
  rw [Operation.on_requestElement, Operation.on_requestElement]
  exact ⟨[⟨call, (k.answer call state).1⟩], rfl, _, rfl⟩

end Transcribes

/-! ## Calls of one kind -/

/-- All calls that are added to the transcript are of one kind, and a value that comes out is of another. -/
def Calls (N : SystemCall → Prop) (Q : α → Prop) (plain : Operation κ α)
    (kept : Operation (κ × List AnsweredCall) α) : Prop :=
  Transcribes (fun calls outcome => (∀ x ∈ calls, N x.call) ∧ ∀ a, outcome = .ok a → Q a) plain kept

namespace Calls

variable {N : SystemCall → Prop} {Q : α → Prop} {R : β → Prop}

theorem ended (outcome : Except BpfError α) (h : ∀ a, outcome = .ok a → Q a) :
    Calls N Q (κ := κ) (fun state => (outcome, state)) (fun state => (outcome, state)) :=
  Transcribes.ended outcome ⟨by simp, h⟩

theorem pure (a : α) (h : Q a) : Calls N Q (κ := κ) (pure a) (pure a) :=
  ended (.ok a) (by simpa using h)

theorem throw (e : BpfError) : Calls N Q (κ := κ) (throw e) (throw e) :=
  ended (.error e) (by simp)

theorem bind {plain : Operation κ α} {kept : Operation (κ × List AnsweredCall) α}
    {next : α → Operation κ β} {next' : α → Operation (κ × List AnsweredCall) β}
    (h : Calls N Q plain kept) (hnext : ∀ a, Q a → Calls N R (next a) (next' a)) :
    Calls N R (plain >>= next) (kept >>= next') := by
  refine Transcribes.bind h ?_ fun calls e ⟨hcalls, _⟩ => ⟨hcalls, by simp⟩
  rintro calls a ⟨hcalls, ha⟩
  refine (hnext a (ha a rfl)).mono fun more outcome ⟨hmore, houtcome⟩ => ⟨fun x hx => ?_, houtcome⟩
  exact (List.mem_append.mp hx).elim (hcalls x) (hmore x)

theorem ite {test : Prop} [Decidable test] {plain plain' : Operation κ α}
    {kept kept' : Operation (κ × List AnsweredCall) α} (h : Calls N Q plain kept)
    (h' : Calls N Q plain' kept') :
    Calls N Q (if test then plain else plain') (if test then kept else kept') :=
  Transcribes.ite h h'

variable (k : Kernel κ) {call : SystemCall}

theorem request (h : N call) :
    Calls N (fun _ => True) (request k call) (request k.transcribing call) :=
  (Transcribes.request k call).mono fun _ _ ⟨_, hcalls, _⟩ => ⟨by simpa [hcalls] using h, by simp⟩

theorem requestSystem (h : N call) :
    Calls N (fun _ => True) (requestSystem k call) (requestSystem k.transcribing call) :=
  (Transcribes.requestSystem k call).mono fun _ _ ⟨_, hcalls, _⟩ =>
    ⟨by simpa [hcalls] using h, by simp⟩

theorem requestElement (h : N call) :
    Calls N (fun _ => True) (requestElement k call) (requestElement k.transcribing call) :=
  (Transcribes.requestElement k call).mono fun _ _ ⟨_, hcalls⟩ =>
    ⟨by simpa [hcalls] using h, by simp⟩

/-- A buffer that was measured and found right has the size that was asked for. -/
theorem demandLength (what : String) (buffer : Bytes) (size : Nat) :
    Calls N (fun _ => buffer.length = size) (κ := κ) (BpfMap.demandLength what buffer size)
      (BpfMap.demandLength what buffer size) := by
  unfold BpfMap.demandLength
  by_cases h : buffer.length = size
  · rw [if_pos h, if_pos h]
    exact pure () h
  · rw [if_neg h, if_neg h]
    exact throw _

end Calls

abbrev NoElement (Q : α → Prop) (plain : Operation κ α)
    (kept : Operation (κ × List AnsweredCall) α) : Prop :=
  Calls (fun call => call.isElement = false) Q plain kept

/-! ## Making a map -/

/-- No call is on elements, and a map that was made has the descriptor that came with the reply to the first
call. -/
structure Making (first : SystemCall) (keySize valueSize : Nat) (calls : List AnsweredCall)
    (outcome : Except BpfError BpfMap) : Prop where
  noElement : ∀ x ∈ calls, x.call.isElement = false
  made : ∀ m, outcome = .ok m → ∃ completion,
    calls.head? = some ⟨first, .ok completion⟩ ∧ m = ⟨completion.descriptor, keySize, valueSize⟩

variable (k : Kernel κ)

theorem transcribes_create (shape : MapShape) :
    Transcribes (Making (.mapCreate shape) shape.keySize shape.valueSize)
      (BpfMap.create k shape) (BpfMap.create k.transcribing shape) := by
  refine Transcribes.asked_bind (Transcribes.request k _) (fun completion => ?_) fun errno => ?_
  · exact Transcribes.pure _ ⟨by simp [SystemCall.isElement], by simp⟩
  · exact ⟨by simp [SystemCall.isElement], by simp⟩

/-- Nothing is asked for a path with a NUL byte. -/
theorem transcribes_openPinned (path : Path) (fileFlags : Nat) :
    Transcribes (fun calls outcome => (∀ x ∈ calls, x.call.isElement = false)
        ∧ ∀ descriptor, outcome = .ok descriptor → ∃ completion,
          calls = [⟨.objectGet path fileFlags, .ok completion⟩] ∧ descriptor = completion.descriptor)
      (openPinned k path fileFlags) (openPinned k.transcribing path fileFlags) := by
  unfold openPinned
  refine Transcribes.ite ?_ ?_
  · exact Transcribes.ended (.error (.path path.display)) (by simp)
  · refine Transcribes.asked_bind (Transcribes.request k _) (fun completion => ?_) fun errno => ?_
    · exact Transcribes.pure _ (by simp [SystemCall.isElement])
    · simp [SystemCall.isElement]

theorem noElement_describe (descriptor : Descriptor) :
    NoElement (fun _ => True) (BpfMap.describe k descriptor)
      (BpfMap.describe k.transcribing descriptor) := by
  refine Calls.bind (Calls.request k rfl) fun completion _ => ?_
  exact Calls.ite (Calls.ended (.error (.infoTooShort completion.infoLength)) (by simp))
    (Calls.pure _ trivial)

theorem transcribes_openPin (path : Path) (access : MapAccess) (keySize valueSize : Nat)
    (kernel : KernelVersion) :
    Transcribes (Making (.objectGet path access.fileFlags) keySize valueSize)
      (BpfMap.openPin k path access keySize valueSize kernel)
      (BpfMap.openPin k.transcribing path access keySize valueSize kernel) := by
  unfold BpfMap.openPin
  refine Transcribes.bind (transcribes_openPinned k path access.fileFlags) ?_ ?_
  · rintro calls descriptor ⟨hcalls, hopened⟩
    obtain ⟨completion, rfl, rfl⟩ := hopened descriptor rfl
    -- Whatever is checked after that, the map has the descriptor that was opened.
    generalize hopen : (⟨completion.descriptor, keySize, valueSize⟩ : BpfMap) = m
    have hmade : NoElement (κ := κ) (fun made => made = m) (pure m) (pure m) := Calls.pure m rfl
    refine Transcribes.mono (show NoElement (fun made => made = m) _ _ from ?_) ?_
    · refine Calls.ite (Calls.bind (Calls.requestSystem k rfl) fun _ _ => ?check) ?check
      refine Calls.ite (Calls.bind (noElement_describe k _) fun info _ => ?_) hmade
      exact Calls.bind (Calls.ended (BpfMap.checkSizes info keySize valueSize) fun _ _ => trivial)
        fun _ _ => hmade
    · rintro more outcome ⟨hmore, hm⟩
      refine ⟨fun x hx => ?_, fun made h => ⟨completion, rfl, (hm made h).trans hopen.symm⟩⟩
      exact (List.mem_append.mp hx).elim (hcalls x) (hmore x)
  · rintro calls e ⟨hcalls, -⟩
    exact ⟨hcalls, by simp⟩

theorem noElement_awaitGracePeriod :
    NoElement (fun _ => True) (awaitGracePeriod k) (awaitGracePeriod k.transcribing) := by
  refine Calls.bind (Calls.requestSystem k rfl) fun completion _ => ?_
  exact Calls.bind (Calls.requestSystem k rfl) fun _ _ => Calls.pure _ trivial

/-! ## The self test -/

section

variable (m : BpfMap)

theorem calls_write (key value : Bytes) (flags : Nat) :
    Calls (SystemCall.Fits m) (fun _ => True) (m.write k key value flags)
      (m.write k.transcribing key value flags) := by
  refine Calls.bind (Calls.demandLength _ _ _) fun _ hkey => ?_
  refine Calls.bind (Calls.demandLength _ _ _) fun _ hvalue => ?_
  exact Calls.bind (Calls.request k ⟨rfl, hkey, hvalue⟩) fun _ _ => Calls.pure _ trivial

theorem calls_find (key buffer : Bytes) :
    Calls (SystemCall.Fits m) (fun _ => True) (m.find k key buffer)
      (m.find k.transcribing key buffer) := by
  refine Calls.bind (Calls.demandLength _ _ _) fun _ hkey => ?_
  refine Calls.bind (Calls.demandLength _ _ _) fun _ hbuffer => ?_
  refine Calls.bind (Calls.requestElement k ⟨rfl, hkey, hbuffer⟩) fun reply _ => ?_
  cases reply <;> exact Calls.pure _ trivial

end

/-- The call is on the map that the first call made, an array with keys and values of four bytes. -/
def OnScratchMap (calls : List AnsweredCall) (call : SystemCall) : Prop :=
  ∃ completion, calls.head? = some ⟨.mapCreate ⟨arrayMapType, 4, 4, 2, 0⟩, .ok completion⟩
    ∧ call.Fits ⟨completion.descriptor, 4, 4⟩

/-- The self test uses the elements of the map that it made and of no other. -/
theorem transcribes_selfTest :
    Transcribes (fun calls _ => ∀ x ∈ calls, x.call.isElement = true → OnScratchMap calls x.call)
      (selfTest k) (selfTest k.transcribing) := by
  refine Transcribes.bind (transcribes_create k _) ?_ ?_
  · rintro calls m ⟨hcalls, hmade⟩
    obtain ⟨completion, hfirst, rfl⟩ := hmade m rfl
    -- What follows the making of the map keeps to it.
    generalize hm : (⟨completion.descriptor, 4, 4⟩ : BpfMap) = m
    refine Transcribes.mono (show Calls (SystemCall.Fits m) (fun _ => True) _ _ from ?_) ?_
    · refine Calls.bind (calls_write k m _ _ _) fun _ _ => ?_
      refine Calls.bind (calls_find k m _ _) fun answer _ => ?_
      exact Calls.ite (Calls.throw _) (Calls.pure _ trivial)
    · rintro more _ ⟨hmore, -⟩ x hx helement
      refine ⟨completion, by rw [List.head?_append, hfirst]; rfl, ?_⟩
      rcases List.mem_append.mp hx with hx | hx
      · rw [hcalls x hx] at helement
        cases helement
      · exact hm ▸ hmore x hx
  · rintro calls e ⟨hcalls, -⟩ x hx helement
    rw [hcalls x hx] at helement
    cases helement

end BpfBoot.Bpf
