import Mathlib.Data.Finset.Sort
import BpfBoot.Bpf.Model
import BpfBoot.Proofs.Bpf.Simulation

/-!
# A kernel that keeps dictionaries

Each descriptor stands for a map of its own, whose content is a dictionary and whose keys have the order of the
bytes.
-/

namespace BpfBoot.Bpf

/-! ## The order of the bytes -/

instance : IsTrans Bytes (· ≤ ·) := ⟨fun _ _ _ => List.le_trans⟩

instance : Std.Antisymm (α := Bytes) (· ≤ ·) := ⟨fun _ _ => List.le_antisymm⟩

instance : Std.Total (α := Bytes) (· ≤ ·) := ⟨List.le_total⟩

instance : IsStrictTotalOrder Bytes (· < ·) where
  irrefl := List.lt_irrefl
  trans _ _ _ := List.lt_trans
  trichotomous _ _ hab hba := List.le_antisymm (List.not_lt.mp hba) (List.not_lt.mp hab)

namespace Dictionary

instance (last : Option Bytes) : DecidablePred (ComesAfter (· < ·) last) := fun key =>
  inferInstanceAs (Decidable (∀ k ∈ last, k < key))

/-- The first key after another one, or the first key of all. -/
def next? (d : Dictionary) (last : Option Bytes) : Option Bytes :=
  (d.keys.sort (· ≤ ·)).find? fun key => ComesAfter (· < ·) last key

variable {d : Dictionary} {last : Option Bytes} {next : Bytes}

theorem next?_of_isNext (h : d.IsNext (· < ·) last next) : d.next? last = some next := by
  have hmem : next ∈ d.keys.sort (· ≤ ·) := (Finset.mem_sort _).mpr (Finmap.mem_keys.mpr h.mem)
  cases hfound : d.next? last with
  | none =>
    have hnot := List.find?_eq_none.mp hfound next hmem
    exact absurd (decide_eq_true h.comesAfter) hnot
  | some key =>
    obtain ⟨hafter, earlier, later, hsort, hearlier⟩ := List.find?_eq_some_iff_append.mp hfound
    have hkey : key ∈ d := by
      rw [← Finmap.mem_keys, ← Finset.mem_sort (· ≤ ·), hsort]
      simp
    rcases h.least key hkey (of_decide_eq_true hafter) with rfl | hlt
    · rfl
    · -- The keys are sorted, so a smaller one that comes after `last` would have been found before.
      rw [hsort, List.mem_append, List.mem_cons] at hmem
      rcases hmem with hmem | rfl | hmem
      · have hnot := hearlier next hmem
        rw [decide_eq_true h.comesAfter] at hnot
        cases hnot
      · rfl
      · have hsorted := Finset.pairwise_sort d.keys (· ≤ ·)
        rw [hsort, List.pairwise_append, List.pairwise_cons] at hsorted
        exact absurd hlt (List.not_lt.mpr (hsorted.2.1.1 next hmem))

theorem next?_of_empty (h : d.keysAfter (· < ·) last = ∅) : d.next? last = none := by
  refine List.find?_eq_none.mpr fun key hkey hafter => ?_
  rw [Finset.mem_sort, Finmap.mem_keys] at hkey
  have hmem : key ∈ d.keysAfter (· < ·) last := mem_keysAfter.mpr ⟨hkey, of_decide_eq_true hafter⟩
  rw [h] at hmem
  exact Finset.notMem_empty key hmem

end Dictionary

/-! ## The kernel -/

/-- A success that gives back some bytes, if there are any. -/
def elementReply : Option Bytes → Except Errno Completion
  | some output => .ok (.writing output)
  | none => .error .enoent

def storeKernel : Kernel (Nat → Dictionary) where
  answer call state :=
    match call with
    | .update map key value _ =>
        (.ok (.writing []), Function.update state map.index ((state map.index).insert key value))
    | .lookup map key _ _ => (elementReply ((state map.index).lookup key), state)
    | .delete map key _ =>
        if key ∈ state map.index then
          (.ok (.writing []), Function.update state map.index ((state map.index).erase key))
        else (.error .enoent, state)
    | .nextKey map last _ _ => (elementReply ((state map.index).next? last), state)
    | _ => (.error .enosys, state)

/-- All maps have keys and values of the same sizes. -/
def storeView (keySize valueSize : Nat) : MapView (Nat → Dictionary) Nat where
  mapOf _ map := some map.index
  keySize _ := keySize
  valueSize _ := valueSize
  content state := state
  before _ := (· < ·)

theorem storeView_keeps (keySize valueSize : Nat) :
    (storeView keySize valueSize).Keeps storeKernel := by
  have hself : ∀ (state : Nat → Dictionary) (i : Nat),
      (storeView keySize valueSize).Moves state state i (state i) :=
    fun state i => ⟨rfl, (Function.update_eq_self i state).symm⟩
  constructor
  case order => exact fun _ => inferInstanceAs (IsStrictTotalOrder Bytes (· < ·))
  case update =>
    rintro state fd _ key value ⟨⟩ - -
    exact ⟨_, _, rfl, rfl, rfl⟩
  case lookupStored =>
    rintro state fd _ key value buffer ⟨⟩ - - hstored
    exact ⟨_, state, congrArg (elementReply · , state) hstored, rfl, hself state fd.index⟩
  case lookupAbsent =>
    rintro state fd _ key buffer ⟨⟩ - - habsent
    have hnone : (state fd.index).lookup key = none := Finmap.lookup_eq_none.mpr habsent
    exact ⟨state, congrArg (elementReply · , state) hnone, hself state fd.index⟩
  case deleteStored =>
    rintro state fd _ key ⟨⟩ - hstored
    exact ⟨_, _, if_pos hstored, rfl, rfl⟩
  case deleteAbsent =>
    rintro state fd _ key ⟨⟩ - habsent
    exact ⟨state, if_neg habsent, hself state fd.index⟩
  case nextFound =>
    rintro state fd _ last buffer key ⟨⟩ - - hnext
    exact ⟨_, state, congrArg (elementReply · , state) (Dictionary.next?_of_isNext hnext), rfl⟩
  case nextNone =>
    rintro state fd _ last buffer ⟨⟩ - - hnone
    exact ⟨state, congrArg (elementReply · , state) (Dictionary.next?_of_empty hnone)⟩
  case nextKeeps =>
    rintro state fd _ last buffer ⟨⟩ - -
    exact hself state fd.index

/-- A table whose maps have their own numbers as descriptors shows the state. -/
theorem storeView_shows {keySize valueSize : Nat} {maps : MapTable} {ds : Nat → Dictionary}
    (hmaps : ∀ (number : Nat) (m : BpfMap), maps[number]? = some (some m) →
      m = ⟨⟨number⟩, keySize, valueSize⟩)
    (hsized : ∀ number, (ds number).Sized keySize valueSize) :
    (storeView keySize valueSize).Shows id maps ds ds where
  backs number m hm := by
    obtain rfl := hmaps number m hm
    exact ⟨rfl, rfl, rfl, rfl, hsized number⟩
  distinct _ _ _ _ _ _ h := h

end BpfBoot.Bpf
