import BpfBoot.Bpf.Script

/-!
# Operations on the elements of maps

Writing, finding, deleting and asking for the next key have one shape: the buffers are measured in a fixed
order, and if all of them fit then the kernel is asked once. What such an operation does is therefore known on
every kernel: it fails on its first wrong buffer and asks nothing, or its result is read off the reply.
-/

namespace BpfBoot.Bpf

variable {κ α β : Type}

/-! ## Operations, taken apart -/

namespace Operation

def on (op : Operation κ α) (state : κ) : Except BpfError α × κ := op state

@[simp] theorem on_pure (a : α) (state : κ) : on (pure a) state = (.ok a, state) := rfl

/-- A failure ends what follows. -/
theorem on_bind (op : Operation κ α) (next : α → Operation κ β) (state : κ) :
    on (op >>= next) state
      = match on op state with
        | (.ok a, state) => on (next a) state
        | (.error e, state) => (.error e, state) := by
  change ExceptT.bindCont next (on op state).1 (on op state).2 = _
  rcases on op state with ⟨_ | _, _⟩ <;> rfl

theorem on_request (k : Kernel κ) (call : SystemCall) (state : κ) :
    on (request k call) state
      = ((k.answer call state).1.mapError (.command call.command), (k.answer call state).2) := by
  unfold on request
  rcases k.answer call state with ⟨_ | _, _⟩ <;> rfl

theorem on_requestSystem (k : Kernel κ) (call : SystemCall) (state : κ) :
    on (requestSystem k call) state
      = ((k.answer call state).1.mapError (.system call.command), (k.answer call state).2) := by
  unfold on requestSystem
  rcases k.answer call state with ⟨_ | _, _⟩ <;> rfl

theorem on_requestElement (k : Kernel κ) (call : SystemCall) (state : κ) :
    on (requestElement k call) state
      = (match (k.answer call state).1 with
          | .ok completion => .ok (some completion)
          | .error errno => if errno = .enoent then .ok none else .error (.command call.command errno),
        (k.answer call state).2) := by
  unfold on requestElement
  rcases k.answer call state with ⟨_ | _, _⟩
  · dsimp only
    split <;> rfl
  · rfl

theorem on_demandLength (what : String) (buffer : Bytes) (size : Nat) (state : κ) :
    on (BpfMap.demandLength what buffer size) state
      = if buffer.length = size then (.ok (), state)
        else (.error (.bufferSize what buffer.length size), state) := by
  unfold BpfMap.demandLength
  split <;> rfl

def demandAll (buffers : List (String × Bytes × Nat)) : Operation κ Unit :=
  buffers.forM fun (what, buffer, size) => BpfMap.demandLength what buffer size

theorem demandAll_nil : (demandAll [] : Operation κ Unit) = pure () := rfl

theorem demandAll_cons (what : String) (buffer : Bytes) (size : Nat)
    (rest : List (String × Bytes × Nat)) :
    (demandAll ((what, buffer, size) :: rest) : Operation κ Unit)
      = BpfMap.demandLength what buffer size >>= fun _ => demandAll rest := rfl

theorem on_demandAll (buffers : List (String × Bytes × Nat)) (state : κ) :
    on (demandAll buffers) state
      = match buffers.find? fun (_, buffer, size) => buffer.length ≠ size with
        | some (what, buffer, size) => (.error (.bufferSize what buffer.length size), state)
        | none => (.ok (), state) := by
  induction buffers with
  | nil => rfl
  | cons first rest ih =>
    obtain ⟨what, buffer, size⟩ := first
    rw [demandAll_cons, on_bind, on_demandLength, List.find?_cons]
    by_cases hfits : buffer.length = size
    · simpa [hfits] using ih
    · simp [hfits]

end Operation

/-! ## Operations on elements -/

namespace SystemCall

def isElement : SystemCall → Bool
  | .update .. | .lookup .. | .delete .. | .nextKey .. => true
  | _ => false

/-- A call on the elements of a map: it carries the descriptor of the map, a key of its key size or the null
key, and a value or a result buffer of the size that the kernel copies. -/
def Fits (m : BpfMap) : SystemCall → Prop
  | .update map key value _ =>
      map = m.descriptor ∧ key.length = m.keySize ∧ value.length = m.valueSize
  | .lookup map key buffer _ =>
      map = m.descriptor ∧ key.length = m.keySize ∧ buffer.length = m.valueSize
  | .delete map key _ => map = m.descriptor ∧ key.length = m.keySize
  | .nextKey map key? buffer _ =>
      map = m.descriptor ∧ (∀ key ∈ key?, key.length = m.keySize) ∧ buffer.length = m.keySize
  | _ => False

end SystemCall

def StepResult.ofOutcome : Except BpfError StepResult → StepResult
  | .ok result => result
  | .error e => .failed e

/-- An operation on the elements of a map, with the buffers of its caller. -/
inductive ElementOperation where
  | write (key value : Bytes) (flags : Nat)
  | find (key buffer : Bytes)
  | delete (key : Bytes)
  | nextKey (key : Option Bytes) (buffer : Bytes)
  | firstKey (buffer : Bytes)
  deriving DecidableEq, Repr

namespace ElementOperation

def on (op : ElementOperation) (number : Nat) : SessionStep :=
  match op with
  | .write key value flags => .write number key value flags
  | .find key buffer => .find number key buffer
  | .delete key => .delete number key
  | .nextKey key buffer => .nextKey number key buffer
  | .firstKey buffer => .firstKey number buffer

/-- The buffers in the order in which they are measured, each with the size that the map asks for. -/
def buffers (m : BpfMap) : ElementOperation → List (String × Bytes × Nat)
  | .write key value _ => [("key", key, m.keySize), ("value", value, m.valueSize)]
  | .find key buffer => [("key", key, m.keySize), ("value", buffer, m.valueSize)]
  | .delete key => [("key", key, m.keySize)]
  | .nextKey (some key) buffer => [("key", key, m.keySize), ("key", buffer, m.keySize)]
  | .nextKey none buffer | .firstKey buffer => [("key", buffer, m.keySize)]

def wrongBuffer? (m : BpfMap) (op : ElementOperation) : Option (String × Bytes × Nat) :=
  (op.buffers m).find? fun (_, buffer, size) => buffer.length ≠ size

theorem wrongBuffer?_eq_none_iff {m : BpfMap} {op : ElementOperation} :
    op.wrongBuffer? m = none ↔ ∀ x ∈ op.buffers m, x.2.1.length = x.2.2 := by
  simp [wrongBuffer?]

def call (m : BpfMap) : ElementOperation → SystemCall
  | .write key value flags => .update m.descriptor key value flags
  | .find key buffer => .lookup m.descriptor key buffer 0
  | .delete key => .delete m.descriptor key 0
  | .nextKey key buffer => .nextKey m.descriptor key buffer 0
  | .firstKey buffer => .nextKey m.descriptor none buffer 0

theorem fits_call {m : BpfMap} {op : ElementOperation}
    (h : op.wrongBuffer? m = none) : (op.call m).Fits m := by
  rw [wrongBuffer?_eq_none_iff] at h
  cases op with
  | nextKey key? buffer => cases key? <;> simpa [buffers, call, SystemCall.Fits] using h
  | _ => simpa [buffers, call, SystemCall.Fits] using h

def found (completion : Completion) : ElementOperation → StepResult
  | .write .. => .done
  | .delete _ => .answered true
  | .find _ buffer | .nextKey _ buffer | .firstKey buffer =>
      .filled true (fill buffer completion.output)

/-- The result if there is no such element, where that is not a failure. -/
def missing? : ElementOperation → Option StepResult
  | .write .. => none
  | .delete _ => some (.answered false)
  | .find _ buffer | .nextKey _ buffer | .firstKey buffer => some (.filled false buffer)

def outcome (m : BpfMap) (op : ElementOperation) : Except Errno Completion → Except BpfError StepResult
  | .ok completion => .ok (op.found completion)
  | .error errno =>
      let failure := .error (.command (op.call m).command errno)
      if errno = .enoent then op.missing?.elim failure .ok else failure

def result (m : BpfMap) (op : ElementOperation) (reply : Except Errno Completion) : StepResult :=
  .ofOutcome (op.outcome m reply)

/-- The caller's result buffer, where the operation has one. -/
def buffer? : ElementOperation → Option Bytes
  | .write .. | .delete _ => none
  | .find _ buffer | .nextKey _ buffer | .firstKey buffer => some buffer

/-- The caller's result buffer after the operation, which writes to it only what it gives back. -/
def bufferAfter? (op : ElementOperation) : StepResult → Option Bytes
  | .filled _ buffer => op.buffer?.map fun _ => buffer
  | _ => op.buffer?

def perform (k : Kernel κ) (m : BpfMap) : ElementOperation → Operation κ StepResult
  | .write key value flags => do m.write k key value flags; return .done
  | .find key buffer => do
      let (found, buffer) ← m.find k key buffer
      return .filled found buffer
  | .delete key => return .answered (← m.delete k key)
  | .nextKey key buffer => do
      let (found, buffer) ← m.nextKey k key buffer
      return .filled found buffer
  | .firstKey buffer => do
      let (found, buffer) ← m.firstKey k buffer
      return .filled found buffer

/-- What is left to do when all buffers fit: one call, and its result. -/
def ask (k : Kernel κ) (m : BpfMap) (op : ElementOperation) : Operation κ StepResult := fun state =>
  (op.outcome m (k.answer (op.call m) state).1, (k.answer (op.call m) state).2)

open Operation (demandAll demandAll_nil demandAll_cons on_demandAll on_bind on_request
  on_requestElement)

variable (k : Kernel κ)

theorem run_on (op : ElementOperation) (maps : MapTable) (number : Nat) (state : κ) :
    (op.on number).run k maps state = SessionStep.withMap maps number (op.perform k) state := by
  cases op <;> rfl

def filling (buffer : Bytes) : Option Completion → Operation κ (Bool × Bytes)
  | some completion => return (true, fill buffer completion.output)
  | none => return (false, buffer)

/-- The part that finding an element and asking for a key have in common. -/
theorem on_filling (call : SystemCall) (buffer : Bytes) (state : κ) :
    Operation.on (requestElement k call >>= fun reply =>
        filling buffer reply >>= fun answer => pure (StepResult.filled answer.1 answer.2)) state
      = (match (k.answer call state).1 with
          | .ok completion => .ok (.filled true (fill buffer completion.output))
          | .error errno =>
              if errno = .enoent then .ok (.filled false buffer)
              else .error (.command call.command errno),
        (k.answer call state).2) := by
  rw [on_bind, on_requestElement]
  rcases k.answer call state with ⟨errno | completion, next⟩
  · by_cases h : errno = .enoent
    · simp only [h, if_true]
      rfl
    · simp only [h, if_false]
  · rfl

/-- All buffers are measured before the kernel is asked, and then it is asked once. -/
theorem perform_eq (op : ElementOperation) (m : BpfMap) :
    op.perform k m = demandAll (op.buffers m) >>= fun _ => op.ask k m := by
  cases op with
  | write key value flags =>
    simp only [perform, BpfMap.write, buffers, demandAll_cons, demandAll_nil, bind_assoc, pure_bind]
    refine bind_congr fun _ => bind_congr fun _ => funext fun state => ?_
    change Operation.on _ state = _
    rw [on_bind, on_request]
    simp only [ask, outcome, call, missing?]
    rcases k.answer (.update m.descriptor key value flags) state with ⟨errno | _, next⟩
    · -- That there is no such element is a failure like any other.
      simp only [Option.elim_none, ite_self]
      rfl
    · rfl
  | find key buffer =>
    simp only [perform, BpfMap.find, buffers, demandAll_cons, demandAll_nil, bind_assoc, pure_bind]
    refine bind_congr fun _ => bind_congr fun _ => funext fun state => ?_
    exact on_filling k (.lookup m.descriptor key buffer 0) buffer state
  | delete key =>
    simp only [perform, BpfMap.delete, buffers, demandAll_cons, demandAll_nil, bind_assoc, pure_bind]
    refine bind_congr fun _ => funext fun state => ?_
    change Operation.on _ state = _
    rw [on_bind, on_requestElement]
    simp only [ask, outcome, call, missing?]
    rcases k.answer (.delete m.descriptor key 0) state with ⟨errno | _, next⟩
    · by_cases h : errno = .enoent <;> simp [h]
    · rfl
  | nextKey key buffer =>
    cases key with
    | none =>
      simp only [perform, BpfMap.nextKey, buffers, demandAll_cons, demandAll_nil, bind_assoc, pure_bind]
      refine bind_congr fun _ => funext fun state => ?_
      exact on_filling k (.nextKey m.descriptor none buffer 0) buffer state
    | some key =>
      simp only [perform, BpfMap.nextKey, buffers, demandAll_cons, demandAll_nil, bind_assoc, pure_bind]
      refine bind_congr fun _ => bind_congr fun _ => funext fun state => ?_
      exact on_filling k (.nextKey m.descriptor (some key) buffer 0) buffer state
  | firstKey buffer =>
    simp only [perform, BpfMap.firstKey, BpfMap.nextKey, buffers, demandAll_cons, demandAll_nil,
      bind_assoc, pure_bind]
    refine bind_congr fun _ => funext fun state => ?_
    exact on_filling k (.nextKey m.descriptor none buffer 0) buffer state

variable {maps : MapTable} {number : Nat} {m : BpfMap}

theorem run_on_of_mem (op : ElementOperation) (hm : maps[number]? = some (some m)) (state : κ) :
    (op.on number).run k maps state
      = (.ofOutcome (Operation.on (op.perform k m) state).1, maps,
          (Operation.on (op.perform k m) state).2) := by
  simp only [run_on, SessionStep.withMap, hm]
  change (match Operation.on (op.perform k m) state with
    | (.ok result, state) => (result, maps, state)
    | (.error e, state) => (.failed e, maps, state)) = _
  rcases Operation.on (op.perform k m) state with ⟨_ | _, _⟩ <;> rfl

/-- A wrong buffer ends the operation before the kernel is asked. -/
theorem run_on_of_wrong (op : ElementOperation) (hm : maps[number]? = some (some m))
    {what : String} {buffer : Bytes} {size : Nat}
    (hwrong : op.wrongBuffer? m = some (what, buffer, size)) (state : κ) :
    (op.on number).run k maps state
      = (.failed (.bufferSize what buffer.length size), maps, state) := by
  have hfirst : (op.buffers m).find? (fun (_, buffer, size) => buffer.length ≠ size)
      = some (what, buffer, size) := hwrong
  rw [run_on_of_mem k op hm, perform_eq, on_bind, on_demandAll, hfirst]
  rfl

/-- With buffers that fit, the kernel is asked once and its reply gives the result. -/
theorem run_on_of_fits (op : ElementOperation) (hm : maps[number]? = some (some m))
    (hfits : op.wrongBuffer? m = none) (state : κ) :
    (op.on number).run k maps state
      = (op.result m (k.answer (op.call m) state).1, maps, (k.answer (op.call m) state).2) := by
  have hnone : (op.buffers m).find? (fun (_, buffer, size) => buffer.length ≠ size) = none := hfits
  rw [run_on_of_mem k op hm, perform_eq, on_bind, on_demandAll, hnone]
  rfl

theorem run_on_of_no_map (op : ElementOperation) (hm : ∀ m, maps[number]? ≠ some (some m))
    (state : κ) : (op.on number).run k maps state = (.noSuchMap, maps, state) := by
  rw [run_on, SessionStep.withMap]
  split
  · next m hsome => exact absurd hsome (hm m)
  · rfl

end ElementOperation

end BpfBoot.Bpf
