import BpfBoot.Bpf.Map

/-!
# Scripted kernels and sessions

A scripted kernel answers calls from a list of replies, whatever the calls are, and fails with
`ENOSYS` once the list is used up. A session runs operations on several maps against it; a map is
named by the number of the operation, among those that make maps, that made it.
-/

namespace BpfBoot.Bpf

inductive Reply where
  | fails (errno : Errno)
  | succeeds (output : Bytes) (info : MapInfo) (infoLength : Nat)
  deriving DecidableEq, Repr

structure Script where
  replies : List Reply
  nextDescriptor : Nat
  deriving DecidableEq, Repr

/-- Whether a call makes a descriptor that is counted. -/
def SystemCall.makesDescriptor : SystemCall → Bool
  | .mapCreate _ | .objectGet .. | .programLoad _ => true
  | _ => false

/-- The kernel that answers from a script. -/
def scriptedKernel : Kernel Script where
  answer call script :=
    match script.replies with
    | [] => (.error .enosys, script)
    | .fails errno :: rest => (.error errno, { script with replies := rest })
    | .succeeds output info infoLength :: rest =>
        let next := if call.makesDescriptor then script.nextDescriptor + 1 else script.nextDescriptor
        (.ok ⟨⟨script.nextDescriptor⟩, output, info, infoLength⟩, ⟨rest, next⟩)

inductive SessionStep where
  | create (shape : MapShape)
  | openPin (path : Path) (mode keySize valueSize : Nat) (kernel : KernelVersion)
  | write (map : Nat) (key value : Bytes) (flags : Nat)
  | find (map : Nat) (key buffer : Bytes)
  | delete (map : Nat) (key : Bytes)
  | nextKey (map : Nat) (key : Option Bytes) (buffer : Bytes)
  | firstKey (map : Nat) (buffer : Bytes)
  | drop (map : Nat)
  | selfTest
  | awaitGracePeriod
  | usable (path : Path)
  deriving DecidableEq, Repr

inductive StepResult where
  | done
  | answered (value : Bool)
  /-- An answer together with the result buffer. -/
  | filled (value : Bool) (buffer : Bytes)
  | failed (e : BpfError)
  /-- The map was never made, or it was dropped. -/
  | noSuchMap
  deriving DecidableEq, Repr

/-- The maps of a session; a number whose map failed or was dropped stands for nothing. -/
abbrev MapTable := List (Option BpfMap)

variable {κ : Type}

/-- Runs an operation that makes a map, which takes the next number even if it fails. -/
def SessionStep.making (make : Operation κ BpfMap) (maps : MapTable) (state : κ) :
    StepResult × MapTable × κ :=
  match make state with
  | (.ok m, state) => (.done, maps ++ [some m], state)
  | (.error e, state) => (.failed e, maps ++ [none], state)

/-- Runs an operation on a map of the table. -/
def SessionStep.withMap (maps : MapTable) (number : Nat)
    (use : BpfMap → Operation κ StepResult) (state : κ) : StepResult × MapTable × κ :=
  match maps[number]? with
  | some (some m) =>
      match use m state with
      | (.ok result, state) => (result, maps, state)
      | (.error e, state) => (.failed e, maps, state)
  | _ => (.noSuchMap, maps, state)

def SessionStep.run (k : Kernel κ) (step : SessionStep) (maps : MapTable) (state : κ) :
    StepResult × MapTable × κ :=
  match step with
  | .create shape => making (BpfMap.create k shape) maps state
  | .openPin path mode keySize valueSize kernel =>
      making (do
        let access ← ExceptT.mk (pure (MapAccess.ofMode mode))
        BpfMap.openPin k path access keySize valueSize kernel) maps state
  | .write map key value flags =>
      withMap maps map (fun m => do m.write k key value flags; return .done) state
  | .find map key buffer =>
      withMap maps map (fun m => do
        let (found, buffer) ← m.find k key buffer
        return .filled found buffer) state
  | .delete map key => withMap maps map (fun m => return .answered (← m.delete k key)) state
  | .nextKey map key buffer =>
      withMap maps map (fun m => do
        let (found, buffer) ← m.nextKey k key buffer
        return .filled found buffer) state
  | .firstKey map buffer =>
      withMap maps map (fun m => do
        let (found, buffer) ← m.firstKey k buffer
        return .filled found buffer) state
  | .drop map => (.done, maps.set map none, state)
  | .selfTest =>
      match Bpf.selfTest k state with
      | (.ok (), state) => (.done, maps, state)
      | (.error e, state) => (.failed e, maps, state)
  | .awaitGracePeriod =>
      match Bpf.awaitGracePeriod k state with
      | (.ok (), state) => (.done, maps, state)
      | (.error e, state) => (.failed e, maps, state)
  | .usable path =>
      let (answer, state) := isUsableProgram k path state
      (.answered answer, maps, state)

end BpfBoot.Bpf
