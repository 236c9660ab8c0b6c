import BpfBoot.Proofs.Bpf.Transcript

/-!
# Opening pinned maps

Which calls an opening makes is known before the first of them: one call gets a descriptor, and the mode and the
kernel version tell which calls on that descriptor come after it. The calls of this plan are made in order until
one of them fails. If none fails, then what the kernel said about the map decides.

The parts of an opening are looked at from the last one to the first one, and each part puts its call in front
of the plan for the parts after it.
-/

namespace BpfBoot.Bpf

variable {κ α : Type}

/-! ## Plans -/

/-- A call that the kernel refused: commands of `bpf` fail as commands, other calls as system calls. -/
def SystemCall.failure (call : SystemCall) (errno : Errno) : BpfError :=
  match call with
  | .lock .. | .openSocket .. | .closeSocket _ | .liftMemoryLimit => .system call.command errno
  | _ => .command call.command errno

theorem SystemCall.errno_failure (call : SystemCall) (errno : Errno) :
    (call.failure errno).errno = errno := by
  cases call <;> rfl

/-- The calls are those of a plan, in its order, up to the first one that fails; and how that one failed. -/
inductive CarriedOut : List SystemCall → List AnsweredCall → Option BpfError → Prop
  | finished : CarriedOut [] [] none
  | refused (call : SystemCall) (rest : List SystemCall) (errno : Errno) :
      CarriedOut (call :: rest) [⟨call, .error errno⟩] (some (call.failure errno))
  | answered (call : SystemCall) (completion : Completion) {rest : List SystemCall}
      {calls : List AnsweredCall} {failure? : Option BpfError} (h : CarriedOut rest calls failure?) :
      CarriedOut (call :: rest) (⟨call, .ok completion⟩ :: calls) failure?

def AnsweredCall.Succeeds (x : AnsweredCall) : Prop :=
  ∃ completion, x.reply = .ok completion

namespace CarriedOut

variable {plan : List SystemCall} {calls : List AnsweredCall} {failure? : Option BpfError}

theorem failure_of_mem (h : CarriedOut plan calls failure?) {call : SystemCall} {errno : Errno}
    (hmem : ⟨call, .error errno⟩ ∈ calls) : failure? = some (call.failure errno) := by
  induction h with
  | finished => cases hmem
  | refused => cases List.mem_singleton.mp hmem; rfl
  | answered _ _ _ ih =>
    rcases List.mem_cons.mp hmem with heq | hmem
    · cases heq
    · exact ih hmem

theorem failure_eq_none_iff (h : CarriedOut plan calls failure?) :
    failure? = none ↔ ∀ x ∈ calls, x.Succeeds := by
  induction h with
  | finished => simp
  | refused => simp [AnsweredCall.Succeeds]
  | answered call completion _ ih => simp [ih, AnsweredCall.Succeeds]

theorem mem_plan (h : CarriedOut plan calls failure?) {x : AnsweredCall} (hx : x ∈ calls) :
    x.call ∈ plan := by
  induction h with
  | finished => cases hx
  | refused => cases List.mem_singleton.mp hx; exact List.mem_cons_self
  | answered _ _ _ ih =>
    rcases List.mem_cons.mp hx with rfl | hx
    · exact List.mem_cons_self
    · exact List.mem_cons_of_mem _ (ih hx)

/-- Nothing fails any more once the last call of a plan was answered. -/
theorem failure_of_last {before : List SystemCall} {last : SystemCall} {completion : Completion}
    (h : CarriedOut (before ++ [last]) calls failure?) (hbefore : last ∉ before)
    (hmem : ⟨last, .ok completion⟩ ∈ calls) : failure? = none := by
  induction before generalizing calls with
  | nil =>
    cases h with
    | refused => cases List.mem_singleton.mp hmem
    | answered _ _ h => cases h; rfl
  | cons first before ih =>
    obtain ⟨hne, hbefore⟩ := not_or.mp (mt List.mem_cons.mpr hbefore)
    cases h with
    | refused => cases List.mem_singleton.mp hmem
    | answered _ _ h =>
      rcases List.mem_cons.mp hmem with heq | hmem
      · cases heq
        exact absurd rfl hne
      · exact ih h hbefore hmem

/-- A plan that did not fail was carried out to its end. -/
theorem exists_mem (h : CarriedOut plan calls none) {call : SystemCall} (hcall : call ∈ plan) :
    ∃ completion, ⟨call, .ok completion⟩ ∈ calls := by
  generalize hnone : none = failure? at h
  induction h with
  | finished => cases hcall
  | refused => cases hnone
  | answered first completion _ ih =>
    rcases List.mem_cons.mp hcall with rfl | hcall
    · exact ⟨completion, List.mem_cons_self⟩
    · obtain ⟨completion, hmem⟩ := ih hcall hnone
      exact ⟨completion, List.mem_cons_of_mem _ hmem⟩

end CarriedOut

/-! ## What is asked for -/

structure PinRequest where
  path : Path
  mode : Nat
  keySize : Nat
  valueSize : Nat
  kernel : KernelVersion

/-- The flags that the kernel gets for each mode. -/
def modeFlags : List (Nat × Nat) :=
  [(0, 0), (8, 8), (16, 16), (24, 0)]

def MapAccess.mode : MapAccess → Nat
  | .readWrite => 0
  | .readOnly => 8
  | .writeOnly => 16
  | .exclusiveReadWrite => 24

theorem MapAccess.lookup_mode (access : MapAccess) :
    modeFlags.lookup access.mode = some access.fileFlags := by
  cases access <;> rfl

theorem MapAccess.mode_eq_iff (access : MapAccess) :
    access.mode = 24 ↔ access = .exclusiveReadWrite := by
  cases access <;> decide

/-- A number is the mode of one way to open a map, or it is refused. -/
theorem MapAccess.ofMode_cases (mode : Nat) :
    (∃ access : MapAccess, mode = access.mode ∧ ofMode mode = .ok access)
      ∨ modeFlags.lookup mode = none ∧ ofMode mode = .error (.accessMode mode) := by
  by_cases hmode : mode ∈ [0, 8, 16, 24]
  · left
    simp only [List.mem_cons, List.not_mem_nil, or_false] at hmode
    rcases hmode with rfl | rfl | rfl | rfl
    · exact ⟨.readWrite, rfl, rfl⟩
    · exact ⟨.readOnly, rfl, rfl⟩
    · exact ⟨.writeOnly, rfl, rfl⟩
    · exact ⟨.exclusiveReadWrite, rfl, rfl⟩
  · right
    simp only [List.mem_cons, List.not_mem_nil, or_false, not_or] at hmode
    obtain ⟨h0, h8, h16, h24⟩ := hmode
    constructor
    · simp [modeFlags, List.lookup_cons, beq_eq_false_iff_ne.mpr, *]
    · simp [ofMode, readOnlyFlag, writeOnlyFlag, *]

namespace PinRequest

def flags? (p : PinRequest) : Option Nat :=
  modeFlags.lookup p.mode

def lockPlan (p : PinRequest) (descriptor : Descriptor) : List SystemCall :=
  if p.mode = 24 then [.lock descriptor 6] else []

def infoPlan (p : PinRequest) (descriptor : Descriptor) : List SystemCall :=
  if .ofParts 4 14 0 ≤ p.kernel then [.mapInfo descriptor 24] else []

/-- The calls of an opening whose first call gets the descriptor. -/
def plan (p : PinRequest) (flags : Nat) (descriptor : Descriptor) : List SystemCall :=
  .objectGet p.path flags :: (p.lockPlan descriptor ++ p.infoPlan descriptor)

def opened (p : PinRequest) (descriptor : Descriptor) : BpfMap :=
  ⟨descriptor, p.keySize, p.valueSize⟩

/-! ## The parts of an opening -/

def inspect (k : Kernel κ) (p : PinRequest) (descriptor : Descriptor) : Operation κ BpfMap :=
  if p.kernel.isAtLeast 4 14 0 then
    BpfMap.describe k descriptor >>= fun info =>
      ExceptT.mk (pure (BpfMap.checkSizes info p.keySize p.valueSize)) >>= fun _ =>
        pure (p.opened descriptor)
  else pure (p.opened descriptor)

def lockAndInspect (k : Kernel κ) (p : PinRequest) (access : MapAccess) (descriptor : Descriptor) :
    Operation κ BpfMap :=
  if access = .exclusiveReadWrite then
    requestSystem k (.lock descriptor exclusiveLock) >>= fun _ => p.inspect k descriptor
  else p.inspect k descriptor

/-- The whole of it, as sessions do it. -/
def openMap (k : Kernel κ) (p : PinRequest) : Operation κ BpfMap := do
  let access ← ExceptT.mk (pure (MapAccess.ofMode p.mode))
  BpfMap.openPin k p.path access p.keySize p.valueSize p.kernel

theorem openPin_eq (k : Kernel κ) (p : PinRequest) (access : MapAccess) :
    BpfMap.openPin k p.path access p.keySize p.valueSize p.kernel
      = openPinned k p.path access.fileFlags >>= p.lockAndInspect k access := rfl

end PinRequest

theorem openPinned_of_hasNul {k : Kernel κ} {path : Path} {flags : Nat} (h : path.hasNul = true) :
    openPinned k path flags = throw (.path path.display) := by
  unfold openPinned
  rw [if_pos h]
  rfl

theorem openPinned_eq {k : Kernel κ} {path : Path} {flags : Nat} (h : path.hasNul = false) :
    openPinned k path flags
      = request k (.objectGet path flags) >>= fun completion => pure completion.descriptor := by
  unfold openPinned
  rw [if_neg (by simp [h])]

/-! ## What comes of it -/

/-- The description of a map that came with a reply, where it was asked for. -/
def AnsweredCall.info? : AnsweredCall → Option Completion
  | ⟨.mapInfo _ _, .ok completion⟩ => some completion
  | _ => none

/-- The description that was read, if one was. -/
def infoRead? (calls : List AnsweredCall) : Option Completion :=
  calls.findSome? AnsweredCall.info?

namespace PinRequest

/-- What a description of the map comes to, if no call failed. -/
def verdict (p : PinRequest) (descriptor : Descriptor) : Option Completion → Except BpfError BpfMap
  | none => .ok (p.opened descriptor)
  | some completion =>
      if completion.infoLength < neededInfoLength then .error (.infoTooShort completion.infoLength)
      else (BpfMap.checkSizes completion.info p.keySize p.valueSize).map fun _ => p.opened descriptor

/-- A plan was carried out, and the outcome is its failure or what the calls say about the map. -/
def Concludes (p : PinRequest) (descriptor : Descriptor) (plan : List SystemCall)
    (calls : List AnsweredCall) (outcome : Except BpfError BpfMap) : Prop :=
  ∃ failure?, CarriedOut plan calls failure?
    ∧ outcome = failure?.elim (p.verdict descriptor (infoRead? calls)) .error

section

variable {p : PinRequest} {descriptor : Descriptor} {call : SystemCall} {rest : List SystemCall}

theorem Concludes.refused (errno : Errno) :
    p.Concludes descriptor (call :: rest) [⟨call, .error errno⟩] (.error (call.failure errno)) :=
  ⟨some (call.failure errno), .refused call rest errno, rfl⟩

theorem Concludes.answered {calls : List AnsweredCall} {outcome : Except BpfError BpfMap}
    {completion : Completion} (h : p.Concludes descriptor rest calls outcome)
    (hcall : AnsweredCall.info? ⟨call, .ok completion⟩ = none) :
    p.Concludes descriptor (call :: rest) (⟨call, .ok completion⟩ :: calls) outcome := by
  obtain ⟨failure?, hcarried, rfl⟩ := h
  refine ⟨failure?, .answered call completion hcarried, ?_⟩
  rw [infoRead?, infoRead?, List.findSome?_cons, hcall]

end

variable (k : Kernel κ) (p : PinRequest)

/-- One call, and the verdict on its reply. -/
theorem inspect_eq (descriptor : Descriptor) :
    p.inspect k descriptor
      = if .ofParts 4 14 0 ≤ p.kernel then
          request k (.mapInfo descriptor 24) >>= fun completion =>
            ExceptT.mk (pure (p.verdict descriptor (some completion)))
        else ExceptT.mk (pure (p.verdict descriptor none)) := by
  simp only [inspect, KernelVersion.isAtLeast, decide_eq_true_eq, BpfMap.describe, bind_assoc]
  by_cases hkernel : KernelVersion.ofParts 4 14 0 ≤ p.kernel
  · rw [if_pos hkernel, if_pos hkernel]
    refine bind_congr fun completion => funext fun state => ?_
    by_cases hshort : completion.infoLength < neededInfoLength
    · simp only [verdict, if_pos hshort]
      rfl
    · simp only [verdict, if_neg hshort, pure_bind]
      cases BpfMap.checkSizes completion.info p.keySize p.valueSize <;> rfl
  · rw [if_neg hkernel, if_neg hkernel]
    rfl

theorem transcribes_inspect (descriptor : Descriptor) :
    Transcribes (p.Concludes descriptor (p.infoPlan descriptor)) (p.inspect k descriptor)
      (p.inspect k.transcribing descriptor) := by
  rw [inspect_eq, inspect_eq]
  by_cases hkernel : KernelVersion.ofParts 4 14 0 ≤ p.kernel
  · simp only [infoPlan, if_pos hkernel]
    refine Transcribes.asked_bind (Transcribes.request k _) (fun completion => ?_) fun errno => ?_
    · exact Transcribes.ended _ ⟨none, .answered _ completion .finished, rfl⟩
    · exact Concludes.refused errno
  · simp only [infoPlan, if_neg hkernel]
    exact Transcribes.ended _ ⟨none, .finished, rfl⟩

theorem transcribes_lockAndInspect {access : MapAccess} (hmode : p.mode = access.mode)
    (descriptor : Descriptor) :
    Transcribes (p.Concludes descriptor (p.lockPlan descriptor ++ p.infoPlan descriptor))
      (p.lockAndInspect k access descriptor) (p.lockAndInspect k.transcribing access descriptor) := by
  have hinspect := p.transcribes_inspect k descriptor
  have hexclusive : p.mode = 24 ↔ access = .exclusiveReadWrite := hmode ▸ access.mode_eq_iff
  by_cases hlock : access = .exclusiveReadWrite
  · simp only [lockAndInspect, lockPlan, if_pos hlock, if_pos (hexclusive.mpr hlock)]
    refine Transcribes.asked_bind (Transcribes.requestSystem k _) (fun completion => ?_) fun errno => ?_
    · exact hinspect.mono fun _ _ h => h.answered rfl
    · exact Concludes.refused errno
  · simp only [lockAndInspect, lockPlan, if_neg hlock, if_neg (mt hexclusive.mp hlock)]
    exact hinspect

/-- The calls of an opening in a known mode, of a path without NUL bytes. -/
def Opens (p : PinRequest) (flags : Nat) (calls : List AnsweredCall)
    (outcome : Except BpfError BpfMap) : Prop :=
  ∃ descriptor, p.Concludes descriptor (p.plan flags descriptor) calls outcome
    ∧ ∀ completion, calls.head? = some ⟨.objectGet p.path flags, .ok completion⟩ →
        completion.descriptor = descriptor

theorem transcribes_openPin_of_mode {access : MapAccess} (hmode : p.mode = access.mode)
    (hpath : p.path.hasNul = false) :
    Transcribes (p.Opens access.fileFlags)
      (BpfMap.openPin k p.path access p.keySize p.valueSize p.kernel)
      (BpfMap.openPin k.transcribing p.path access p.keySize p.valueSize p.kernel) := by
  rw [openPin_eq, openPin_eq, openPinned_eq hpath, openPinned_eq hpath, bind_assoc, bind_assoc]
  refine Transcribes.asked_bind (Transcribes.request k _) (fun completion => ?_) fun errno => ?_
  · refine (p.transcribes_lockAndInspect k hmode completion.descriptor).mono fun more outcome h => ?_
    refine ⟨completion.descriptor, h.answered rfl, fun other hhead => ?_⟩
    cases hhead
    rfl
  · exact ⟨⟨0⟩, Concludes.refused errno, by simp⟩

end PinRequest

/-! ## What an opening does -/

def FailsWith (outcome : Except BpfError α) (e : BpfError) (errno : Errno) : Prop :=
  outcome = .error e ∧ e.errno = errno

/-- What is true of the calls that an opening makes and of its outcome. -/
structure OpensPin (p : PinRequest) (calls : List AnsweredCall) (outcome : Except BpfError BpfMap) :
    Prop where
  unknownMode : p.flags? = none → calls = [] ∧ FailsWith outcome (.accessMode p.mode) .einval
  nulInPath : p.flags? ≠ none → 0 ∈ p.path.bytes →
    calls = [] ∧ FailsWith outcome (.path p.path.display) .einval
  carriedOut : ∀ flags, p.flags? = some flags → 0 ∉ p.path.bytes →
    ∃ descriptor failure?, CarriedOut (p.plan flags descriptor) calls failure?
      ∧ ∀ completion, calls.head? = some ⟨.objectGet p.path flags, .ok completion⟩ →
          completion.descriptor = descriptor
  refused : ∀ call errno, ⟨call, .error errno⟩ ∈ calls → FailsWith outcome (call.failure errno) errno
  opens_iff : (∃ m, outcome = .ok m) ↔
    p.flags? ≠ none ∧ 0 ∉ p.path.bytes ∧ (∀ x ∈ calls, x.Succeeds)
      ∧ ∀ completion, infoRead? calls = some completion →
          16 ≤ completion.infoLength ∧ completion.info = ⟨p.keySize, p.valueSize⟩
  tooShort : ∀ completion, infoRead? calls = some completion → completion.infoLength < 16 →
    FailsWith outcome (.infoTooShort completion.infoLength) .eopnotsupp
  wrongKeySize : ∀ completion, infoRead? calls = some completion → 16 ≤ completion.infoLength →
    completion.info.keySize ≠ p.keySize →
      FailsWith outcome (.sizeMismatch "key" completion.info.keySize p.keySize) .ebadfd
  wrongValueSize : ∀ completion, infoRead? calls = some completion → 16 ≤ completion.infoLength →
    completion.info.keySize = p.keySize → completion.info.valueSize ≠ p.valueSize →
      FailsWith outcome (.sizeMismatch "value" completion.info.valueSize p.valueSize) .ebadfd
  made : ∀ m, outcome = .ok m → ∃ flags completion, p.flags? = some flags
    ∧ calls.head? = some ⟨.objectGet p.path flags, .ok completion⟩
    ∧ m = ⟨completion.descriptor, p.keySize, p.valueSize⟩
  /-- On a kernel that tells the sizes of maps, a map has the kernel's own. -/
  kernelSizes : ∀ m, outcome = .ok m → .ofParts 4 14 0 ≤ p.kernel → ∃ completion,
    ⟨.mapInfo m.descriptor 24, .ok completion⟩ ∈ calls ∧ completion.info = ⟨m.keySize, m.valueSize⟩

theorem exists_mem_of_infoRead? {calls : List AnsweredCall} {completion : Completion}
    (h : infoRead? calls = some completion) :
    ∃ descriptor length, ⟨.mapInfo descriptor length, .ok completion⟩ ∈ calls := by
  obtain ⟨⟨call, reply⟩, hmem, hinfo⟩ := List.exists_of_findSome?_eq_some h
  cases call <;> cases reply <;> cases hinfo
  exact ⟨_, _, hmem⟩

theorem infoRead?_ne_none {calls : List AnsweredCall} {descriptor : Descriptor} {length : Nat}
    {completion : Completion} (hmem : ⟨.mapInfo descriptor length, .ok completion⟩ ∈ calls) :
    infoRead? calls ≠ none := by
  intro hnone
  have := List.findSome?_eq_none_iff.mp hnone _ hmem
  cases this

namespace PinRequest

section

variable {p : PinRequest} {descriptor : Descriptor} {completion : Completion}

theorem verdict_of_short (h : completion.infoLength < 16) :
    p.verdict descriptor (some completion) = .error (.infoTooShort completion.infoLength) :=
  if_pos h

theorem verdict_of_wrongKeySize (hlength : 16 ≤ completion.infoLength)
    (hkey : completion.info.keySize ≠ p.keySize) :
    p.verdict descriptor (some completion)
      = .error (.sizeMismatch "key" completion.info.keySize p.keySize) := by
  have hlong : ¬completion.infoLength < neededInfoLength := Nat.not_lt.mpr hlength
  simp [verdict, hlong, BpfMap.checkSizes, hkey, Except.map]

theorem verdict_of_wrongValueSize (hlength : 16 ≤ completion.infoLength)
    (hkey : completion.info.keySize = p.keySize) (hvalue : completion.info.valueSize ≠ p.valueSize) :
    p.verdict descriptor (some completion)
      = .error (.sizeMismatch "value" completion.info.valueSize p.valueSize) := by
  have hlong : ¬completion.infoLength < neededInfoLength := Nat.not_lt.mpr hlength
  simp [verdict, hlong, BpfMap.checkSizes, hkey, hvalue, Except.map]

theorem verdict_of_fits (hlength : 16 ≤ completion.infoLength)
    (hinfo : completion.info = ⟨p.keySize, p.valueSize⟩) :
    p.verdict descriptor (some completion) = .ok (p.opened descriptor) := by
  have hlong : ¬completion.infoLength < neededInfoLength := Nat.not_lt.mpr hlength
  simp [verdict, hlong, BpfMap.checkSizes, hinfo, Except.map]

theorem verdict_eq_ok_iff {info? : Option Completion} {m : BpfMap} :
    p.verdict descriptor info? = .ok m ↔ m = p.opened descriptor
      ∧ ∀ completion, info? = some completion →
          16 ≤ completion.infoLength ∧ completion.info = ⟨p.keySize, p.valueSize⟩ := by
  cases info? with
  | none => simp [verdict, eq_comm]
  | some completion =>
    -- The four ways that a description can be, in the order in which they are told apart.
    rcases Nat.lt_or_ge completion.infoLength 16 with hshort | hlength
    · simp [verdict_of_short hshort, Nat.not_le.mpr hshort]
    · by_cases hkey : completion.info.keySize = p.keySize
      · by_cases hvalue : completion.info.valueSize = p.valueSize
        · have hinfo : completion.info = ⟨p.keySize, p.valueSize⟩ := by rw [← hkey, ← hvalue]
          simp [verdict_of_fits hlength hinfo, hlength, hinfo, eq_comm]
        · have hinfo : completion.info ≠ ⟨p.keySize, p.valueSize⟩ := fun h => hvalue (by rw [h])
          simp [verdict_of_wrongValueSize hlength hkey hvalue, hinfo]
      · have hinfo : completion.info ≠ ⟨p.keySize, p.valueSize⟩ := fun h => hkey (by rw [h])
        simp [verdict_of_wrongKeySize hlength hkey, hinfo]

end

variable {p : PinRequest} {calls : List AnsweredCall} {outcome : Except BpfError BpfMap}

theorem plan_of_le {flags : Nat} {descriptor : Descriptor} (h : .ofParts 4 14 0 ≤ p.kernel) :
    p.plan flags descriptor
      = (.objectGet p.path flags :: p.lockPlan descriptor) ++ [.mapInfo descriptor 24] := by
  rw [plan, infoPlan, if_pos h, List.cons_append]

theorem mapInfo_notMem_lockPlan {descriptor other : Descriptor} {length : Nat} :
    .mapInfo other length ∉ p.lockPlan descriptor := by
  unfold lockPlan
  split <;> simp

theorem mapInfo_of_mem_plan {flags length : Nat} {descriptor other : Descriptor}
    (h : .mapInfo other length ∈ p.plan flags descriptor) :
    .ofParts 4 14 0 ≤ p.kernel ∧ other = descriptor ∧ length = 24 := by
  by_cases hkernel : .ofParts 4 14 0 ≤ p.kernel
  · simpa [plan, infoPlan, hkernel, mapInfo_notMem_lockPlan] using h
  · simp [plan, infoPlan, hkernel, mapInfo_notMem_lockPlan] at h

/-- The call that asks for a description is the last one, so a description that was read decides. -/
theorem Concludes.outcome_of_info {flags : Nat} {descriptor : Descriptor} {completion : Completion}
    (h : p.Concludes descriptor (p.plan flags descriptor) calls outcome)
    (hinfo : infoRead? calls = some completion) :
    ⟨.mapInfo descriptor 24, .ok completion⟩ ∈ calls
      ∧ outcome = p.verdict descriptor (some completion) := by
  obtain ⟨failure?, hcarried, houtcome⟩ := h
  obtain ⟨other, length, hmem⟩ := exists_mem_of_infoRead? hinfo
  obtain ⟨hkernel, rfl, rfl⟩ := mapInfo_of_mem_plan (hcarried.mem_plan hmem)
  refine ⟨hmem, ?_⟩
  rw [plan_of_le hkernel] at hcarried
  have hfailure : failure? = none :=
    hcarried.failure_of_last (by simp [mapInfo_notMem_lockPlan]) hmem
  rw [houtcome, hfailure, hinfo]
  rfl

theorem Concludes.of_ok {descriptor : Descriptor} {plan : List SystemCall} {m : BpfMap}
    (h : p.Concludes descriptor plan calls (.ok m)) :
    CarriedOut plan calls none ∧ m = p.opened descriptor
      ∧ ∀ completion, infoRead? calls = some completion →
          16 ≤ completion.infoLength ∧ completion.info = ⟨p.keySize, p.valueSize⟩ := by
  obtain ⟨failure?, hcarried, houtcome⟩ := h
  cases failure? with
  | none => exact ⟨hcarried, verdict_eq_ok_iff.mp houtcome.symm⟩
  | some e => cases houtcome

theorem Concludes.exists_ok_iff {descriptor : Descriptor} {plan : List SystemCall}
    (h : p.Concludes descriptor plan calls outcome) :
    (∃ m, outcome = .ok m) ↔ (∀ x ∈ calls, x.Succeeds)
      ∧ ∀ completion, infoRead? calls = some completion →
          16 ≤ completion.infoLength ∧ completion.info = ⟨p.keySize, p.valueSize⟩ := by
  constructor
  · rintro ⟨m, rfl⟩
    obtain ⟨hcarried, -, hfits⟩ := h.of_ok
    exact ⟨hcarried.failure_eq_none_iff.mp rfl, hfits⟩
  · rintro ⟨hsucceed, hfits⟩
    obtain ⟨failure?, hcarried, houtcome⟩ := h
    rw [hcarried.failure_eq_none_iff.mpr hsucceed] at houtcome
    exact ⟨p.opened descriptor, houtcome.trans (verdict_eq_ok_iff.mpr ⟨rfl, hfits⟩)⟩

theorem Opens.made {flags : Nat} {m : BpfMap} (h : p.Opens flags calls (.ok m)) :
    ∃ completion, calls.head? = some ⟨.objectGet p.path flags, .ok completion⟩
      ∧ m = ⟨completion.descriptor, p.keySize, p.valueSize⟩ := by
  obtain ⟨descriptor, hconcludes, hfirst⟩ := h
  obtain ⟨hcarried, rfl, -⟩ := hconcludes.of_ok
  cases hcarried with
  | answered call completion hrest =>
    obtain rfl := hfirst completion rfl
    exact ⟨completion, rfl, rfl⟩

theorem Opens.kernelSizes {flags : Nat} {m : BpfMap} (h : p.Opens flags calls (.ok m))
    (hkernel : .ofParts 4 14 0 ≤ p.kernel) :
    ∃ completion, ⟨.mapInfo m.descriptor 24, .ok completion⟩ ∈ calls
      ∧ completion.info = ⟨m.keySize, m.valueSize⟩ := by
  obtain ⟨descriptor, hconcludes, -⟩ := h
  obtain ⟨hcarried, rfl, hfits⟩ := hconcludes.of_ok
  -- The description was asked for, so one was read, and it is the one that was compared.
  have hplanned : .mapInfo descriptor 24 ∈ p.plan flags descriptor := by simp [plan_of_le hkernel]
  obtain ⟨_, hmem⟩ := hcarried.exists_mem hplanned
  obtain ⟨completion, hinfo⟩ := Option.ne_none_iff_exists'.mp (infoRead?_ne_none hmem)
  exact ⟨completion, (hconcludes.outcome_of_info hinfo).1, (hfits completion hinfo).2⟩

theorem Opens.opensPin {flags : Nat} (hflags : p.flags? = some flags) (hpath : 0 ∉ p.path.bytes)
    (h : p.Opens flags calls outcome) : OpensPin p calls outcome := by
  obtain ⟨descriptor, hconcludes, hfirst⟩ := id h
  obtain ⟨failure?, hcarried, houtcome⟩ := id hconcludes
  have hknown : p.flags? ≠ none := by simp [hflags]
  have hread : ∀ completion, infoRead? calls = some completion →
      outcome = p.verdict descriptor (some completion) :=
    fun completion hinfo => (hconcludes.outcome_of_info hinfo).2
  refine
    { unknownMode := fun hnone => absurd hnone hknown
      nulInPath := fun _ hnul => absurd hnul hpath
      carriedOut := ?carriedOut
      refused := ?refused
      opens_iff := ?opens
      tooShort := fun completion hinfo hshort =>
        ⟨(hread completion hinfo).trans (verdict_of_short hshort), rfl⟩
      wrongKeySize := fun completion hinfo hlength hkey =>
        ⟨(hread completion hinfo).trans (verdict_of_wrongKeySize hlength hkey), rfl⟩
      wrongValueSize := fun completion hinfo hlength hkey hvalue =>
        ⟨(hread completion hinfo).trans (verdict_of_wrongValueSize hlength hkey hvalue), rfl⟩
      made := ?made
      kernelSizes := ?kernelSizes }
  case carriedOut =>
    intro other hother hnul
    obtain rfl : flags = other := Option.some.inj (hflags.symm.trans hother)
    exact ⟨descriptor, failure?, hcarried, hfirst⟩
  case refused =>
    intro call errno hmem
    rw [hcarried.failure_of_mem hmem] at houtcome
    exact ⟨houtcome, call.errno_failure errno⟩
  case opens =>
    rw [hconcludes.exists_ok_iff]
    exact ⟨fun hopens => ⟨hknown, hpath, hopens⟩, fun hopens => hopens.2.2⟩
  case made =>
    rintro m rfl
    obtain ⟨completion, hhead, hm⟩ := h.made
    exact ⟨flags, completion, hflags, hhead, hm⟩
  case kernelSizes =>
    rintro m rfl hkernel
    exact h.kernelSizes hkernel

end PinRequest

theorem opensPin_of_nothing_asked {p : PinRequest} {e : BpfError}
    (hmode : p.flags? = none → e = .accessMode p.mode)
    (hpath : p.flags? ≠ none → 0 ∈ p.path.bytes ∧ e = .path p.path.display) :
    OpensPin p [] (.error e) where
  unknownMode hnone := by
    rw [hmode hnone]
    exact ⟨rfl, rfl, rfl⟩
  nulInPath hknown _ := by
    rw [(hpath hknown).2]
    exact ⟨rfl, rfl, rfl⟩
  carriedOut flags hflags hnul := absurd (hpath (by simp [hflags])).1 hnul
  refused := by simp
  opens_iff := ⟨by simp, fun ⟨hknown, hnul, _⟩ => absurd (hpath hknown).1 hnul⟩
  tooShort := by simp [infoRead?]
  wrongKeySize := by simp [infoRead?]
  wrongValueSize := by simp [infoRead?]
  made := by simp
  kernelSizes := by simp

/-- Whatever the kernel replies, opening a pinned map keeps to its plan. -/
theorem openMap_keeps_to_plan (k : Kernel κ) (p : PinRequest) :
    Transcribes (OpensPin p) (p.openMap k) (p.openMap k.transcribing) := by
  rcases MapAccess.ofMode_cases p.mode with ⟨access, hmode, hofMode⟩ | ⟨hnone, hofMode⟩
  · have hflags : p.flags? = some access.fileFlags := by
      rw [PinRequest.flags?, hmode, access.lookup_mode]
    rw [PinRequest.openMap, PinRequest.openMap, hofMode]
    change Transcribes (OpensPin p) (BpfMap.openPin k p.path access p.keySize p.valueSize p.kernel)
      (BpfMap.openPin k.transcribing p.path access p.keySize p.valueSize p.kernel)
    cases hnul : p.path.hasNul with
    | true =>
      rw [PinRequest.openPin_eq, PinRequest.openPin_eq, openPinned_of_hasNul hnul,
        openPinned_of_hasNul hnul]
      refine Transcribes.ended _ (opensPin_of_nothing_asked (by simp [hflags]) fun _ => ⟨?_, rfl⟩)
      simpa [Path.hasNul] using hnul
    | false =>
      refine (p.transcribes_openPin_of_mode k hmode hnul).mono fun calls outcome h => ?_
      exact h.opensPin hflags (by simpa [Path.hasNul] using hnul)
  · rw [PinRequest.openMap, PinRequest.openMap, hofMode]
    exact Transcribes.ended _ (opensPin_of_nothing_asked (fun _ => rfl) fun hknown => absurd hnone hknown)

-- The lock is held and the keys are right, but the values of the map are larger than expected.
example :
    (Operation.on
        (PinRequest.openMap scriptedKernel.transcribing ⟨.ofString "/m", 24, 4, 8, .ofParts 4 14 0⟩)
        (⟨[.succeeds [] ⟨0, 0⟩ 0, .succeeds [] ⟨0, 0⟩ 0, .succeeds [] ⟨4, 16⟩ 24], 7⟩, [])).map
      id (fun reached => reached.2.map (·.call))
      = (.error (.sizeMismatch "value" 16 8),
          [.objectGet (.ofString "/m") 0, .lock ⟨7⟩ 6, .mapInfo ⟨7⟩ 24]) := rfl

end BpfBoot.Bpf
