import BpfBoot.Bpf.Model
import BpfBoot.Proofs.Bpf.Opening
import BpfBoot.Proofs.Bpf.Store

/-!
# The self test

The self test is the only look that the loader takes at BPF itself before it hands over control. It makes an
array of two elements, writes the second one and reads it back over a buffer of zeros. The replies of a kernel fix
which of these three calls are made and what comes of them, so the test is first put into the form of a case
distinction on replies. It passes just if all calls succeed and the buffer holds the value in the end.

What this says about kernels: one whose arrays keep what is written to them always passes, and one on which a
look-up that succeeds brings back something else never does.
-/

namespace BpfBoot.Bpf

variable {κ : Type}

/-! ## The calls of a test -/

/-- An array of two elements, with keys and values of four bytes. -/
def testShape : MapShape :=
  ⟨2, 4, 4, 2, 0⟩

def testUpdate (descriptor : Descriptor) : SystemCall :=
  .update descriptor [1, 0, 0, 0] [123, 0, 0, 0] 0

def testLookup (descriptor : Descriptor) : SystemCall :=
  .lookup descriptor [1, 0, 0, 0] [0, 0, 0, 0] 0

/-- The calls of a test whose array got the descriptor. -/
def testPlan (descriptor : Descriptor) : List SystemCall :=
  [.mapCreate testShape, testUpdate descriptor, testLookup descriptor]

/-- The result buffer as the reply to the look-up leaves it. -/
def bufferAfter : Except Errno Completion → Bytes
  | .ok found => fill [0, 0, 0, 0] found.output
  | .error _ => [0, 0, 0, 0]

def readbackError (reply : Except Errno Completion) : BpfError :=
  .readback ((bufferAfter reply).map UInt8.toNat) [123, 0, 0, 0]

def testVerdict (reply : Except Errno Completion) : Except BpfError Unit :=
  match reply with
  | .ok _ => if bufferAfter reply = [123, 0, 0, 0] then .ok () else .error (readbackError reply)
  | .error errno =>
      if errno = .enoent then .error (readbackError reply)
      else .error (.command "BPF_MAP_LOOKUP_ELEM" errno)

section

variable {reply : Except Errno Completion}

theorem testVerdict_eq_ok_iff :
    testVerdict reply = .ok () ↔ (∃ found, reply = .ok found) ∧ bufferAfter reply = [123, 0, 0, 0] := by
  cases reply with
  | ok found => simp [testVerdict]
  | error errno =>
    by_cases herrno : errno = .enoent <;> simp [testVerdict, herrno]

theorem testVerdict_of_refused {errno : Errno} (h : errno ≠ .enoent) :
    testVerdict (.error errno) = .error (.command "BPF_MAP_LOOKUP_ELEM" errno) :=
  if_neg h

theorem testVerdict_of_readback (herrno : ∀ errno, reply = .error errno → errno = .enoent)
    (hbuffer : bufferAfter reply ≠ [123, 0, 0, 0]) :
    testVerdict reply = .error (readbackError reply) := by
  cases reply with
  | ok found => exact if_neg hbuffer
  | error errno => exact if_pos (herrno errno rfl)

end

/-- The courses that a test can take, each with its calls and its result. -/
inductive TestCourse : List AnsweredCall → Except BpfError Unit → Prop
  | notCreated (errno : Errno) :
      TestCourse [⟨.mapCreate testShape, .error errno⟩] (.error (.command "BPF_MAP_CREATE" errno))
  | notWritten (created : Completion) (errno : Errno) :
      TestCourse [⟨.mapCreate testShape, .ok created⟩, ⟨testUpdate created.descriptor, .error errno⟩]
        (.error (.command "BPF_MAP_UPDATE_ELEM" errno))
  | readBack (created written : Completion) (reply : Except Errno Completion) :
      TestCourse [⟨.mapCreate testShape, .ok created⟩, ⟨testUpdate created.descriptor, .ok written⟩,
          ⟨testLookup created.descriptor, reply⟩]
        (testVerdict reply)

namespace Operation

variable (k : Kernel κ)

theorem on_create (shape : MapShape) (state : κ) :
    on (BpfMap.create k shape) state
      = match k.answer (.mapCreate shape) state with
        | (.ok created, next) => (.ok ⟨created.descriptor, shape.keySize, shape.valueSize⟩, next)
        | (.error errno, next) => (.error (.command "BPF_MAP_CREATE" errno), next) := by
  rw [BpfMap.create, on_bind, on_request]
  rcases k.answer (.mapCreate shape) state with ⟨_ | _, _⟩ <;> rfl

theorem on_write {m : BpfMap} {key value : Bytes} (hkey : key.length = m.keySize)
    (hvalue : value.length = m.valueSize) (flags : Nat) (state : κ) :
    on (m.write k key value flags) state
      = match k.answer (.update m.descriptor key value flags) state with
        | (.ok _, next) => (.ok (), next)
        | (.error errno, next) => (.error (.command "BPF_MAP_UPDATE_ELEM" errno), next) := by
  rw [BpfMap.write, on_bind, on_demandLength, if_pos hkey]
  simp only [on_bind, on_demandLength, if_pos hvalue, on_request]
  rcases k.answer (.update m.descriptor key value flags) state with ⟨_ | _, _⟩ <;> rfl

theorem on_find {m : BpfMap} {key buffer : Bytes} (hkey : key.length = m.keySize)
    (hbuffer : buffer.length = m.valueSize) (state : κ) :
    on (m.find k key buffer) state
      = match k.answer (.lookup m.descriptor key buffer 0) state with
        | (.ok found, next) => (.ok (true, fill buffer found.output), next)
        | (.error errno, next) =>
            (if errno = .enoent then .ok (false, buffer)
              else .error (.command "BPF_MAP_LOOKUP_ELEM" errno), next) := by
  rw [BpfMap.find, on_bind, on_demandLength, if_pos hkey]
  simp only [on_bind, on_demandLength, if_pos hbuffer, on_requestElement]
  rcases k.answer (.lookup m.descriptor key buffer 0) state with ⟨errno | _, _⟩
  · by_cases herrno : errno = .enoent
    · simp only [herrno, if_true]
      rfl
    · simp only [herrno, if_false]
      rfl
  · rfl

/-- The end of the test, from the look-up on. -/
def readBack (m : BpfMap) : Operation κ Unit := do
  let (found, buffer) ← m.find k [1, 0, 0, 0] [0, 0, 0, 0]
  if !found || buffer ≠ [123, 0, 0, 0] then
    throw (.readback (buffer.map UInt8.toNat) [123, 0, 0, 0])

theorem selfTest_eq :
    selfTest k = BpfMap.create k testShape >>= fun m =>
      m.write k [1, 0, 0, 0] [123, 0, 0, 0] 0 >>= fun _ => readBack k m :=
  rfl

theorem on_readBack (descriptor : Descriptor) (state : κ) :
    on (readBack k ⟨descriptor, 4, 4⟩) state
      = (testVerdict (k.answer (testLookup descriptor) state).1,
          (k.answer (testLookup descriptor) state).2) := by
  have hkey : ([1, 0, 0, 0] : Bytes).length = (BpfMap.mk descriptor 4 4).keySize := rfl
  have hbuffer : ([0, 0, 0, 0] : Bytes).length = (BpfMap.mk descriptor 4 4).valueSize := rfl
  rw [readBack, on_bind, on_find k hkey hbuffer, ← testLookup]
  -- An element that was not found and a buffer that was changed to something else end in the same error.
  rcases k.answer (testLookup descriptor) state with ⟨errno | found, next⟩
  · by_cases herrno : errno = .enoent
    · simp only [testVerdict, if_pos herrno]
      rfl
    · simp only [testVerdict, if_neg herrno]
  · by_cases hfound : fill [0, 0, 0, 0] found.output = [123, 0, 0, 0]
    · simp only [testVerdict, bufferAfter, hfound]
      rfl
    · have hchanged : (!true || decide (fill [0, 0, 0, 0] found.output ≠ [123, 0, 0, 0])) = true := by
        simp [hfound]
      have hverdict : testVerdict (.ok found) = .error (readbackError (.ok found)) :=
        testVerdict_of_readback (by simp) hfound
      rw [hverdict]
      simp only [if_pos hchanged]
      rfl

theorem on_selfTest (state : κ) :
    on (selfTest k) state
      = match k.answer (.mapCreate testShape) state with
        | (.error errno, next) => (.error (.command "BPF_MAP_CREATE" errno), next)
        | (.ok created, next) =>
            match k.answer (testUpdate created.descriptor) next with
            | (.error errno, next) => (.error (.command "BPF_MAP_UPDATE_ELEM" errno), next)
            | (.ok _, next) =>
                (testVerdict (k.answer (testLookup created.descriptor) next).1,
                  (k.answer (testLookup created.descriptor) next).2) := by
  rw [selfTest_eq, on_bind, on_create]
  rcases k.answer (.mapCreate testShape) state with ⟨errno | created, next⟩
  · rfl
  have hkey : ([1, 0, 0, 0] : Bytes).length = (BpfMap.mk created.descriptor 4 4).keySize := rfl
  have hvalue : ([123, 0, 0, 0] : Bytes).length = (BpfMap.mk created.descriptor 4 4).valueSize := rfl
  change on (BpfMap.write k ⟨created.descriptor, 4, 4⟩ _ _ _ >>= _) next = _
  rw [on_bind, on_write k hkey hvalue, ← testUpdate]
  dsimp only
  rcases k.answer (testUpdate created.descriptor) next with ⟨errno | written, next⟩
  · rfl
  · exact on_readBack k created.descriptor next

end Operation

theorem Kernel.answer_transcribing (k : Kernel κ) (call : SystemCall)
    (state : κ × List AnsweredCall) :
    k.transcribing.answer call state
      = ((k.answer call state.1).1, (k.answer call state.1).2,
          state.2 ++ [⟨call, (k.answer call state.1).1⟩]) := rfl

theorem transcribes_course (k : Kernel κ) :
    Transcribes TestCourse (selfTest k) (selfTest k.transcribing) := by
  intro state calls
  simp only [Operation.on_selfTest, Kernel.answer_transcribing]
  rcases k.answer (.mapCreate testShape) state with ⟨errno | created, state⟩
  · exact ⟨[_], rfl, .notCreated errno⟩
  dsimp only
  rcases k.answer (testUpdate created.descriptor) state with ⟨errno | written, state⟩
  · exact ⟨[_, _], by simp, .notWritten created errno⟩
  · exact ⟨[_, _, _], by simp, .readBack created written _⟩

/-! ## What a test tells -/

structure JudgesArray (calls : List AnsweredCall) (outcome : Except BpfError Unit) : Prop where
  carriedOut : ∃ descriptor failure?, CarriedOut (testPlan descriptor) calls failure?
    ∧ ∀ created, calls.head? = some ⟨.mapCreate testShape, .ok created⟩ →
        created.descriptor = descriptor
  passes_iff : outcome = .ok () ↔ calls.length = 3 ∧ (∀ x ∈ calls, x.Succeeds)
    ∧ ∃ descriptor reply, ⟨testLookup descriptor, reply⟩ ∈ calls ∧ bufferAfter reply = [123, 0, 0, 0]
  refused : ∀ call errno, ⟨call, .error errno⟩ ∈ calls →
    (errno = .enoent → ∀ descriptor, call ≠ testLookup descriptor) →
      FailsWith outcome (.command call.command errno) errno
  /-- The error tells what the buffer held, also when the element was not found. -/
  readback : ∀ descriptor reply, ⟨testLookup descriptor, reply⟩ ∈ calls →
    (∀ errno, reply = .error errno → errno = .enoent) → bufferAfter reply ≠ [123, 0, 0, 0] →
      FailsWith outcome (.readback ((bufferAfter reply).map UInt8.toNat) [123, 0, 0, 0]) .eio

theorem judges_notCreated (errno : Errno) :
    JudgesArray [⟨.mapCreate testShape, .error errno⟩] (.error (.command "BPF_MAP_CREATE" errno)) where
  carriedOut := ⟨⟨0⟩, _, .refused _ _ errno, by simp⟩
  passes_iff := by simp
  refused call errno' hmem _ := by
    cases List.mem_singleton.mp hmem
    exact ⟨rfl, rfl⟩
  readback := by simp [testLookup]

theorem judges_notWritten (created : Completion) (errno : Errno) :
    JudgesArray [⟨.mapCreate testShape, .ok created⟩, ⟨testUpdate created.descriptor, .error errno⟩]
      (.error (.command "BPF_MAP_UPDATE_ELEM" errno)) where
  carriedOut := by
    refine ⟨created.descriptor, _, .answered _ created (.refused _ _ errno), ?_⟩
    simp
  passes_iff := by simp
  refused call errno' hmem _ := by
    obtain ⟨rfl, rfl⟩ : call = testUpdate created.descriptor ∧ errno' = errno := by simpa using hmem
    exact ⟨rfl, rfl⟩
  readback := by simp [testLookup, testUpdate]

section

variable (created written : Completion) (reply : Except Errno Completion)

/-- The calls of a test that got as far as the look-up. -/
def lookedUp : List AnsweredCall :=
  [⟨.mapCreate testShape, .ok created⟩, ⟨testUpdate created.descriptor, .ok written⟩,
    ⟨testLookup created.descriptor, reply⟩]

theorem carriedOut_lookedUp : ∃ failure?,
    CarriedOut (testPlan created.descriptor) (lookedUp created written reply) failure? := by
  cases reply with
  | ok found => exact ⟨none, .answered _ created (.answered _ written (.answered _ found .finished))⟩
  | error errno => exact ⟨_, .answered _ created (.answered _ written (.refused _ _ errno))⟩

variable {created written reply}

theorem reply_of_mem_lookedUp {descriptor : Descriptor} {reply' : Except Errno Completion}
    (h : ⟨testLookup descriptor, reply'⟩ ∈ lookedUp created written reply) : reply' = reply := by
  simp only [lookedUp, testLookup, testUpdate, List.mem_cons, List.not_mem_nil, AnsweredCall.mk.injEq,
    reduceCtorEq, false_and, false_or, or_false] at h
  exact h.2

theorem judges_lookedUp : JudgesArray (lookedUp created written reply) (testVerdict reply) where
  carriedOut := by
    obtain ⟨failure?, hcarried⟩ := carriedOut_lookedUp created written reply
    refine ⟨created.descriptor, failure?, hcarried, ?_⟩
    rintro _ ⟨⟩
    rfl
  passes_iff := by
    rw [testVerdict_eq_ok_iff]
    constructor
    · rintro ⟨⟨found, rfl⟩, hbuffer⟩
      exact ⟨rfl, by simp [lookedUp, AnsweredCall.Succeeds], created.descriptor, _, by simp [lookedUp],
        hbuffer⟩
    · rintro ⟨-, hsucceeds, descriptor, reply', hmem, hbuffer⟩
      rw [reply_of_mem_lookedUp hmem] at hbuffer
      exact ⟨hsucceeds ⟨testLookup created.descriptor, reply⟩ (by simp [lookedUp]), hbuffer⟩
  refused call errno hmem hother := by
    obtain ⟨rfl, rfl⟩ : call = testLookup created.descriptor ∧ .error errno = reply := by
      simpa [lookedUp] using hmem
    exact ⟨testVerdict_of_refused fun h => hother h _ rfl, rfl⟩
  readback descriptor reply' hmem herrno hbuffer := by
    obtain rfl := reply_of_mem_lookedUp hmem
    exact ⟨testVerdict_of_readback herrno hbuffer, rfl⟩

end

theorem TestCourse.judges {calls : List AnsweredCall} {outcome : Except BpfError Unit}
    (h : TestCourse calls outcome) : JudgesArray calls outcome := by
  cases h with
  | notCreated errno => exact judges_notCreated errno
  | notWritten created errno => exact judges_notWritten created errno
  | readBack created written reply => exact judges_lookedUp

/-! ## Kernels -/

/-- The kernel's arrays keep what is written to them: a new array has an element for each number below its size,
an element that is there can be overwritten, and a look-up brings it back. -/
structure KeepsArrays (k : Kernel κ) (element : κ → Descriptor → Bytes → Option Bytes) : Prop where
  create : ∀ state (shape : MapShape), shape.mapType = arrayMapType → shape.keySize = 4 →
    0 < shape.valueSize → 0 < shape.maxEntries → shape.flags = 0 →
    ∃ created next, k.answer (.mapCreate shape) state = (.ok created, next)
      ∧ ∀ key : Bytes, key.length = 4 → key.toNatLE < shape.maxEntries →
          element next created.descriptor key = some (List.replicate shape.valueSize 0)
  update : ∀ state descriptor key old value, element state descriptor key = some old →
    value.length = old.length →
    ∃ written next, k.answer (.update descriptor key value 0) state = (.ok written, next)
      ∧ element next descriptor key = some value
  lookup : ∀ state descriptor key value buffer, element state descriptor key = some value →
    buffer.length = value.length →
    ∃ found next, k.answer (.lookup descriptor key buffer 0) state = (.ok found, next)
      ∧ fill buffer found.output = value

/-- A look-up that succeeds leaves something else in the buffer than what the test wrote. -/
def Forgets (k : Kernel κ) : Prop :=
  ∀ state descriptor found, (k.answer (testLookup descriptor) state).1 = .ok found →
    fill [0, 0, 0, 0] found.output ≠ [123, 0, 0, 0]

theorem KeepsArrays.passes {k : Kernel κ} {element : κ → Descriptor → Bytes → Option Bytes}
    (h : KeepsArrays k element) (state : κ) : (Operation.on (selfTest k) state).1 = .ok () := by
  obtain ⟨created, state₁, hcreate, hfresh⟩ :=
    h.create state testShape rfl rfl (by decide) (by decide) rfl
  have hold : element state₁ created.descriptor [1, 0, 0, 0] = some [0, 0, 0, 0] :=
    hfresh [1, 0, 0, 0] rfl (by decide)
  obtain ⟨written, state₂, hwrite, hnew⟩ :=
    h.update state₁ created.descriptor [1, 0, 0, 0] _ [123, 0, 0, 0] hold rfl
  obtain ⟨found, state₃, hread, hbuffer⟩ :=
    h.lookup state₂ created.descriptor [1, 0, 0, 0] _ [0, 0, 0, 0] hnew rfl
  simp only [Operation.on_selfTest, hcreate, testUpdate, hwrite, testLookup, hread]
  exact testVerdict_eq_ok_iff.mpr ⟨⟨found, rfl⟩, hbuffer⟩

theorem Forgets.fails {k : Kernel κ} (h : Forgets k) (state : κ) :
    (Operation.on (selfTest k) state).1 ≠ .ok () := by
  rw [Operation.on_selfTest]
  rcases k.answer (.mapCreate testShape) state with ⟨errno | created, state⟩
  · simp
  dsimp only
  rcases k.answer (testUpdate created.descriptor) state with ⟨errno | written, state⟩
  · simp
  · intro hpasses
    obtain ⟨⟨found, hfound⟩, hbuffer⟩ := testVerdict_eq_ok_iff.mp hpasses
    rw [hfound] at hbuffer
    exact h state created.descriptor found hfound hbuffer

/-! ## A kernel of each kind -/

/-- The arrays in the order in which they were made, each with its elements. -/
abbrev Arrays := List (List Bytes)

namespace Arrays

def element (arrays : Arrays) (descriptor : Descriptor) (key : Bytes) : Option Bytes :=
  arrays[descriptor.index]? >>= fun elements => elements[key.toNatLE]?

def put (arrays : Arrays) (descriptor : Descriptor) (key value : Bytes) : Arrays :=
  arrays.modify descriptor.index fun elements => elements.set key.toNatLE value

end Arrays

def arrayKernel : Kernel Arrays where
  answer call arrays :=
    match call with
    | .mapCreate shape =>
        (.ok ⟨⟨arrays.length⟩, [], ⟨0, 0⟩, 0⟩,
          arrays ++ [List.replicate shape.maxEntries (List.replicate shape.valueSize 0)])
    | .update map key value _ =>
        match arrays.element map key with
        | some _ => (.ok (.writing []), arrays.put map key value)
        | none => (.error .enoent, arrays)
    | .lookup map key _ _ => (elementReply (arrays.element map key), arrays)
    | _ => (.error .enosys, arrays)

theorem Arrays.element_put {arrays : Arrays} {descriptor : Descriptor} {key old : Bytes}
    (h : arrays.element descriptor key = some old) (value : Bytes) :
    (arrays.put descriptor key value).element descriptor key = some value := by
  obtain ⟨elements, harray, hkey⟩ := Option.bind_eq_some_iff.mp h
  obtain ⟨hlt, -⟩ := List.getElem?_eq_some_iff.mp hkey
  simp [element, put, harray, hlt]

theorem arrayKernel_keeps : KeepsArrays arrayKernel Arrays.element := by
  constructor
  case create =>
    intro arrays shape _ _ _ _ _
    refine ⟨_, _, rfl, fun key _ hkey => ?_⟩
    simp [Arrays.element, hkey]
  case update =>
    intro arrays descriptor key old value hold _
    refine ⟨.writing [], arrays.put descriptor key value, ?_, Arrays.element_put hold value⟩
    simp only [arrayKernel, hold]
  case lookup =>
    intro arrays descriptor key value buffer hvalue hlength
    refine ⟨.writing value, arrays, ?_, ?_⟩
    · simp only [arrayKernel, hvalue, elementReply]
    · simp [fill, Completion.writing, hlength]

def staleKernel : Kernel Files :=
  modelKernel { KernelRules.lenient with staleLookups := true }

theorem staleKernel_forgets : Forgets staleKernel := by
  rintro files descriptor found ⟨⟩
  decide

/-! ## Main statement -/

/-- The test judges a kernel by its replies alone, and judges it right. -/
theorem selfTest_judges (k : Kernel κ) :
    Transcribes JudgesArray (selfTest k) (selfTest k.transcribing)
      ∧ (∀ element, KeepsArrays k element → ∀ state, (Operation.on (selfTest k) state).1 = .ok ())
      ∧ (Forgets k → ∀ state, (Operation.on (selfTest k) state).1 ≠ .ok ()) :=
  ⟨(transcribes_course k).mono fun _ _ h => h.judges, fun _ h => h.passes, Forgets.fails⟩

theorem selfTest_judges_arrayKernel_staleKernel :
    (KeepsArrays arrayKernel Arrays.element
        ∧ (Operation.on (selfTest arrayKernel) [[[7]]]).1 = .ok ())
      ∧ (Forgets staleKernel
        ∧ (Operation.on (selfTest staleKernel) ⟨.empty, [], 0⟩).1 ≠ .ok ()) :=
  ⟨⟨arrayKernel_keeps, (selfTest_judges arrayKernel).2.1 _ arrayKernel_keeps [[[7]]]⟩,
    ⟨staleKernel_forgets, (selfTest_judges staleKernel).2.2 staleKernel_forgets ⟨.empty, [], 0⟩⟩⟩

end BpfBoot.Bpf
