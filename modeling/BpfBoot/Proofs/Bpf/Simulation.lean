import BpfBoot.Proofs.Bpf.Dictionary

/-!
# Maps that act as dictionaries

A view reads the states of a kernel as dictionaries, and a kernel that keeps dictionaries answers calls of the
right sizes as they do. Operations on open maps, any number of them in any order, then give the results of
dictionaries that know nothing of each other. The relation that is kept says which map of the kernel a number of
the table stands for, and what it holds.
-/

namespace BpfBoot.Bpf

variable {κ ι : Type}

/-- How the states of a kernel are read: which map an open descriptor stands for, and what the maps hold. -/
structure MapView (κ ι : Type) where
  mapOf : κ → Descriptor → Option ι
  keySize : ι → Nat
  valueSize : ι → Nat
  content : κ → ι → Dictionary
  /-- The order of the keys of a map. -/
  before : ι → Bytes → Bytes → Prop

namespace MapView

variable [DecidableEq ι]

/-- From one state to the next, the content of one map is replaced. -/
structure Moves (v : MapView κ ι) (state next : κ) (i : ι) (d : Dictionary) : Prop where
  mapOf : v.mapOf next = v.mapOf state
  content : v.content next = Function.update (v.content state) i d

/-- The kernel keeps a dictionary for each map, and answers calls whose buffers have the sizes of the map from
it. What it replies to the question for the key after one that is not stored is left open. -/
structure Keeps (v : MapView κ ι) (k : Kernel κ) : Prop where
  order : ∀ i, IsStrictTotalOrder Bytes (v.before i)
  update : ∀ {state fd i key value}, v.mapOf state fd = some i →
    key.length = v.keySize i → value.length = v.valueSize i →
    ∃ completion next, k.answer (.update fd key value anyFlag) state = (.ok completion, next)
      ∧ v.Moves state next i ((v.content state i).insert key value)
  lookupStored : ∀ {state fd i key value buffer}, v.mapOf state fd = some i →
    key.length = v.keySize i → buffer.length = v.valueSize i →
    (v.content state i).lookup key = some value →
    ∃ completion next, k.answer (.lookup fd key buffer 0) state = (.ok completion, next)
      ∧ completion.output = value ∧ v.Moves state next i (v.content state i)
  lookupAbsent : ∀ {state fd i key buffer}, v.mapOf state fd = some i →
    key.length = v.keySize i → buffer.length = v.valueSize i → key ∉ v.content state i →
    ∃ next, k.answer (.lookup fd key buffer 0) state = (.error .enoent, next)
      ∧ v.Moves state next i (v.content state i)
  deleteStored : ∀ {state fd i key}, v.mapOf state fd = some i → key.length = v.keySize i →
    key ∈ v.content state i →
    ∃ completion next, k.answer (.delete fd key 0) state = (.ok completion, next)
      ∧ v.Moves state next i ((v.content state i).erase key)
  deleteAbsent : ∀ {state fd i key}, v.mapOf state fd = some i → key.length = v.keySize i →
    key ∉ v.content state i →
    ∃ next, k.answer (.delete fd key 0) state = (.error .enoent, next)
      ∧ v.Moves state next i (v.content state i)
  nextFound : ∀ {state fd i last buffer key}, v.mapOf state fd = some i →
    buffer.length = v.keySize i → (∀ k ∈ last, k ∈ v.content state i) →
    (v.content state i).IsNext (v.before i) last key →
    ∃ completion next, k.answer (.nextKey fd last buffer 0) state = (.ok completion, next)
      ∧ completion.output = key
  nextNone : ∀ {state fd i last buffer}, v.mapOf state fd = some i →
    buffer.length = v.keySize i → (∀ k ∈ last, k ∈ v.content state i) →
    (v.content state i).keysAfter (v.before i) last = ∅ →
    ∃ next, k.answer (.nextKey fd last buffer 0) state = (.error .enoent, next)
  nextKeeps : ∀ {state fd i last buffer}, v.mapOf state fd = some i →
    (∀ k ∈ last, k.length = v.keySize i) → buffer.length = v.keySize i →
    v.Moves state (k.answer (.nextKey fd last buffer 0) state).2 i (v.content state i)

/-- A map of the kernel is open behind a map of the table, and holds what a dictionary holds. -/
structure Backs (v : MapView κ ι) (state : κ) (i : ι) (m : BpfMap) (d : Dictionary) : Prop where
  mapOf : v.mapOf state m.descriptor = some i
  keySize : v.keySize i = m.keySize
  valueSize : v.valueSize i = m.valueSize
  content : v.content state i = d
  sized : d.Sized m.keySize m.valueSize

/-- The maps of a table are open, no two of them the same, and hold what the dictionaries hold. -/
structure Shows (v : MapView κ ι) (of : Nat → ι) (maps : MapTable) (state : κ)
    (ds : Nat → Dictionary) : Prop where
  backs : ∀ (number : Nat) (m : BpfMap), maps[number]? = some (some m) →
    v.Backs state (of number) m (ds number)
  distinct : ∀ (number other : Nat) (m m' : BpfMap), maps[number]? = some (some m) →
    maps[other]? = some (some m') → of number = of other → number = other

end MapView

namespace ElementOperation

/-- The operation writes, if it does, with the flag that asks for nothing in particular. -/
def plainFlags : ElementOperation → Bool
  | .write _ _ flags => flags == anyFlag
  | _ => true

end ElementOperation

def Request.step (r : Request) : SessionStep :=
  r.op.on r.number

def runAll (k : Kernel κ) : List SessionStep → MapTable → κ → List StepResult × MapTable × κ
  | [], maps, state => ([], maps, state)
  | step :: steps, maps, state =>
      let (result, maps, state) := step.run k maps state
      let (results, maps, state) := runAll k steps maps state
      (result :: results, maps, state)

/-- A request that names a map of the table and has buffers that fit it. -/
structure Request.Fits (maps : MapTable) (r : Request) (m : BpfMap) : Prop where
  present : maps[r.number]? = some (some m)
  fits : r.op.wrongBuffer? m = none
  flags : r.op.plainFlags = true

theorem fill_of_length {buffer output : Bytes} (h : output.length = buffer.length) :
    fill buffer output = output := by
  rw [fill, List.take_of_length_le h.le, List.drop_of_length_le h.ge, List.append_nil]

namespace MapView

open Dictionary

variable [DecidableEq ι] {v : MapView κ ι} {k : Kernel κ} {state next : κ} {i : ι} {m : BpfMap}
  {d d' : Dictionary}

/-- The reply of the kernel to the question for the next key is what the dictionary answers. -/
theorem Backs.answersKey (hk : v.Keeps k) (h : v.Backs state i m d) {last : Option Bytes}
    {buffer : Bytes} (hbuffer : buffer.length = m.keySize) (hstored : ∀ key ∈ last, key ∈ d) :
    d.AnswersKey (v.before i) last buffer
      ((ElementOperation.nextKey last buffer).result m
        (k.answer (.nextKey m.descriptor last buffer 0) state).1) := by
  obtain ⟨hmap, hkey, hvalue, rfl, hsized⟩ := h
  have := hk.order i
  rcases Finset.eq_empty_or_nonempty ((v.content state i).keysAfter (v.before i) last) with hnone | hsome
  · obtain ⟨next, hanswer⟩ := hk.nextNone hmap (hbuffer.trans hkey.symm) hstored hnone
    rw [hanswer]
    exact .inr ⟨hnone, rfl⟩
  · obtain ⟨key, hnext⟩ := exists_isNext hsome
    obtain ⟨completion, next, hanswer, rfl⟩ := hk.nextFound hmap (hbuffer.trans hkey.symm) hstored hnext
    rw [hanswer]
    refine .inl ⟨_, hnext, ?_⟩
    exact congrArg (StepResult.filled true)
      (fill_of_length ((hsized.length_key hnext.mem).trans hbuffer.symm))

/-- A look-up brings what is stored into the buffer, or leaves the buffer as it is. -/
theorem Backs.answersFind (hk : v.Keeps k) (h : v.Backs state i m d) {key buffer : Bytes}
    (hkeyLength : key.length = m.keySize) (hbuffer : buffer.length = m.valueSize) :
    d.Answers (v.before i) (.find key buffer)
        ((ElementOperation.find key buffer).result m
          (k.answer (.lookup m.descriptor key buffer 0) state).1) d
      ∧ v.Moves state (k.answer (.lookup m.descriptor key buffer 0) state).2 i d := by
  obtain ⟨hmap, hkey, hvalue, rfl, hsized⟩ := h
  cases hlookup : (v.content state i).lookup key with
  | some value =>
    obtain ⟨completion, next, hanswer, rfl, hmoves⟩ :=
      hk.lookupStored hmap (hkeyLength.trans hkey.symm) (hbuffer.trans hvalue.symm) hlookup
    rw [hanswer]
    refine ⟨⟨?_, rfl⟩, hmoves⟩
    rw [hlookup]
    exact congrArg (StepResult.filled true)
      (fill_of_length ((hsized key _ hlookup).2.trans hbuffer.symm))
  | none =>
    obtain ⟨next, hanswer, hmoves⟩ :=
      hk.lookupAbsent hmap (hkeyLength.trans hkey.symm) (hbuffer.trans hvalue.symm)
        (Finmap.lookup_eq_none.mp hlookup)
    rw [hanswer]
    refine ⟨⟨?_, rfl⟩, hmoves⟩
    rw [hlookup]
    rfl

theorem Backs.answersDelete (hk : v.Keeps k) (h : v.Backs state i m d) {key : Bytes}
    (hkeyLength : key.length = m.keySize) :
    d.Answers (v.before i) (.delete key)
        ((ElementOperation.delete key).result m (k.answer (.delete m.descriptor key 0) state).1)
        (d.erase key)
      ∧ v.Moves state (k.answer (.delete m.descriptor key 0) state).2 i (d.erase key) := by
  obtain ⟨hmap, hkey, hvalue, rfl, hsized⟩ := h
  by_cases hmem : key ∈ v.content state i
  · obtain ⟨completion, next, hanswer, hmoves⟩ := hk.deleteStored hmap (hkeyLength.trans hkey.symm) hmem
    rw [hanswer]
    refine ⟨⟨?_, rfl⟩, hmoves⟩
    rw [decide_eq_true hmem]
    rfl
  · obtain ⟨next, hanswer, hmoves⟩ := hk.deleteAbsent hmap (hkeyLength.trans hkey.symm) hmem
    rw [hanswer, erase_of_notMem hmem]
    refine ⟨⟨?_, (erase_of_notMem hmem).symm⟩, hmoves⟩
    rw [decide_eq_false hmem]
    rfl

theorem Backs.answers (hk : v.Keeps k) (h : v.Backs state i m d) {op : ElementOperation}
    (hfits : op.wrongBuffer? m = none) (hflags : op.plainFlags = true) :
    ∃ d', d.Answers (v.before i) op (op.result m (k.answer (op.call m) state).1) d'
      ∧ v.Moves state (k.answer (op.call m) state).2 i d' ∧ d'.Sized m.keySize m.valueSize := by
  obtain ⟨hmap, hkey, hvalue, rfl, hsized⟩ := id h
  cases op with
  | write key value flags =>
    obtain ⟨-, hkeyLength, hvalueLength⟩ := ElementOperation.fits_call hfits
    obtain rfl : flags = anyFlag := by simpa [ElementOperation.plainFlags] using hflags
    obtain ⟨completion, next, hanswer, hmoves⟩ :=
      hk.update hmap (hkeyLength.trans hkey.symm) (hvalueLength.trans hvalue.symm)
    simp only [ElementOperation.call, hanswer]
    exact ⟨_, ⟨rfl, rfl⟩, hmoves, hsized.insert hkeyLength hvalueLength⟩
  | find key buffer =>
    obtain ⟨-, hkeyLength, hbufferLength⟩ := ElementOperation.fits_call hfits
    obtain ⟨hanswers, hmoves⟩ := h.answersFind hk hkeyLength hbufferLength
    exact ⟨_, hanswers, hmoves, hsized⟩
  | delete key =>
    obtain ⟨-, hkeyLength⟩ := ElementOperation.fits_call hfits
    obtain ⟨hanswers, hmoves⟩ := h.answersDelete hk hkeyLength
    exact ⟨_, hanswers, hmoves, hsized.erase key⟩
  | nextKey last buffer =>
    obtain ⟨-, hlast, hbufferLength⟩ := ElementOperation.fits_call hfits
    have hmoves := hk.nextKeeps hmap (fun key h => (hlast key h).trans hkey.symm)
      (hbufferLength.trans hkey.symm)
    exact ⟨_, ⟨h.answersKey hk hbufferLength, rfl⟩, hmoves, hsized⟩
  | firstKey buffer =>
    obtain ⟨-, -, hbufferLength⟩ := ElementOperation.fits_call hfits
    have hmoves : v.Moves state (k.answer (.nextKey m.descriptor none buffer 0) state).2 i
        (v.content state i) := hk.nextKeeps hmap (by simp) (hbufferLength.trans hkey.symm)
    exact ⟨_, ⟨h.answersKey hk hbufferLength (by simp), rfl⟩, hmoves, hsized⟩

variable {of : Nat → ι} {maps : MapTable} {ds : Nat → Dictionary}

/-- A change of one map is a change of one dictionary. -/
theorem Shows.move (h : v.Shows of maps state ds) {number : Nat}
    (hm : maps[number]? = some (some m)) (hmoves : v.Moves state next (of number) d)
    (hsized : d.Sized m.keySize m.valueSize) :
    v.Shows of maps next (Function.update ds number d) := by
  refine ⟨fun other m' hm' => ?_, h.distinct⟩
  obtain ⟨hmap, hkey, hvalue, hcontent, hother⟩ := h.backs other m' hm'
  rw [← hmoves.mapOf] at hmap
  -- Two numbers stand for two maps, so what is done to one map is not seen by another number.
  by_cases heq : other = number
  · subst heq
    obtain rfl : m = m' := by simpa [hm] using hm'
    rw [Function.update_self]
    exact ⟨hmap, hkey, hvalue, by rw [hmoves.content, Function.update_self], hsized⟩
  · have hne : of other ≠ of number := fun hof => heq (h.distinct other number m' m hm' hm hof)
    rw [Function.update_of_ne heq]
    exact ⟨hmap, hkey, hvalue, by rw [hmoves.content, Function.update_of_ne hne, hcontent], hother⟩

/-- One operation gives the result of its dictionary, and the dictionaries still show what the maps hold. -/
theorem Shows.step (hk : v.Keeps k) (h : v.Shows of maps state ds) {r : Request}
    (hr : r.Fits maps m) :
    ∃ result next d, r.step.run k maps state = (result, maps, next)
      ∧ (ds r.number).Answers (v.before (of r.number)) r.op result d
      ∧ v.Shows of maps next (Function.update ds r.number d) := by
  obtain ⟨hm, hfits, hflags⟩ := hr
  obtain ⟨d, hanswers, hmoves, hsized⟩ := (h.backs r.number m hm).answers hk hfits hflags
  exact ⟨_, _, d, r.op.run_on_of_fits k hm hfits state, hanswers, h.move hm hmoves hsized⟩

theorem Shows.run (hk : v.Keeps k) (h : v.Shows of maps state ds) {rs : List Request}
    (hrs : ∀ r ∈ rs, ∃ m, r.Fits maps m) :
    ∃ results next ds', runAll k (rs.map Request.step) maps state = (results, maps, next)
      ∧ AnswersAll (fun number => v.before (of number)) ds rs results ds'
      ∧ v.Shows of maps next ds' := by
  -- The table never changes, so each request fits the one that the run started with.
  induction rs generalizing state ds with
  | nil => exact ⟨[], state, ds, rfl, .nil ds, h⟩
  | cons r rs ih =>
    obtain ⟨m, hr⟩ := hrs r List.mem_cons_self
    obtain ⟨result, next, d, hrun, hanswers, hshows⟩ := h.step hk hr
    obtain ⟨results, last, ds', hrest, hall, hshows'⟩ :=
      ih hshows fun r hr => hrs r (List.mem_cons_of_mem _ hr)
    refine ⟨result :: results, last, ds', ?_, .cons hanswers hall, hshows'⟩
    simp only [List.map_cons, runAll, hrun, hrest]

end MapView

end BpfBoot.Bpf
