import Mathlib.Data.Finmap
import Mathlib.Order.RelClasses
import BpfBoot.Proofs.Bpf.Operation

/-!
# Dictionaries

A dictionary is a finite store from keys to values, and its keys have a fixed strict order. This module says
what a dictionary answers to each operation on elements and what it becomes, and what follows for many
dictionaries that are used in turn: a key holds what was last written to it, and the keys that come after a key
become fewer by one with each step to the next key.
-/

namespace BpfBoot.Bpf

abbrev Dictionary := Finmap fun _ : Bytes => Bytes

namespace Dictionary

/-- All keys and all values have their sizes. -/
def Sized (keySize valueSize : Nat) (d : Dictionary) : Prop :=
  ∀ key value, d.lookup key = some value → key.length = keySize ∧ value.length = valueSize

section

variable {keySize valueSize : Nat} {d : Dictionary} {key value : Bytes}

theorem Sized.insert (h : d.Sized keySize valueSize) (hkey : key.length = keySize)
    (hvalue : value.length = valueSize) : Sized keySize valueSize (d.insert key value) := by
  intro other stored hlookup
  by_cases heq : other = key
  · rw [heq, Finmap.lookup_insert, Option.some.injEq] at hlookup
    exact ⟨heq ▸ hkey, hlookup ▸ hvalue⟩
  · rw [Finmap.lookup_insert_of_ne d heq] at hlookup
    exact h other stored hlookup

theorem Sized.erase (h : d.Sized keySize valueSize) (key : Bytes) :
    Sized keySize valueSize (d.erase key) := by
  intro other stored hlookup
  by_cases heq : other = key
  · rw [heq, Finmap.lookup_erase] at hlookup
    cases hlookup
  · rw [Finmap.lookup_erase_ne heq] at hlookup
    exact h other stored hlookup

theorem erase_of_notMem (h : key ∉ d) : d.erase key = d := by
  refine Finmap.ext_lookup fun other => ?_
  by_cases heq : other = key
  · rw [heq, Finmap.lookup_erase, Finmap.lookup_eq_none.mpr h]
  · exact Finmap.lookup_erase_ne heq

theorem Sized.length_key (h : d.Sized keySize valueSize) (hkey : key ∈ d) : key.length = keySize := by
  obtain ⟨value, hvalue⟩ := Finmap.mem_iff.mp hkey
  exact (h key value hvalue).1

end

/-! ## The order of the keys -/

/-- The key comes after another one; every key comes after none. -/
def ComesAfter (before : Bytes → Bytes → Prop) (last : Option Bytes) (key : Bytes) : Prop :=
  ∀ k ∈ last, before k key

/-- The first of the keys that come after a key, or the first key of all. -/
structure IsNext (before : Bytes → Bytes → Prop) (d : Dictionary) (last : Option Bytes)
    (next : Bytes) : Prop where
  mem : next ∈ d
  comesAfter : ComesAfter before last next
  least : ∀ key ∈ d, ComesAfter before last key → key = next ∨ before next key

open scoped Classical in
noncomputable def keysAfter (before : Bytes → Bytes → Prop) (d : Dictionary) (last : Option Bytes) :
    Finset Bytes :=
  d.keys.filter (ComesAfter before last)

section

variable {before : Bytes → Bytes → Prop} {d : Dictionary} {last : Option Bytes} {key next : Bytes}

@[simp] theorem mem_keysAfter :
    key ∈ d.keysAfter before last ↔ key ∈ d ∧ ComesAfter before last key := by
  simp only [keysAfter, Finset.mem_filter, Finmap.mem_keys]

theorem keysAfter_none : d.keysAfter before none = d.keys := by
  ext key
  rw [mem_keysAfter, Finmap.mem_keys]
  exact and_iff_left (by simp [ComesAfter])

variable [IsStrictTotalOrder Bytes before]

theorem exists_least (before : Bytes → Bytes → Prop) [IsStrictTotalOrder Bytes before]
    {keys : Finset Bytes} (hkeys : keys.Nonempty) :
    ∃ next ∈ keys, ∀ key ∈ keys, key = next ∨ before next key := by
  -- A key that is added comes before the first one of the others, or it leaves that one in its place.
  induction hkeys using Finset.Nonempty.cons_induction with
  | singleton key => exact ⟨key, by simp, by simp⟩
  | cons key keys hkey hkeys ih =>
    obtain ⟨next, hnext, hleast⟩ := ih
    rcases trichotomous_of before key next with hlt | rfl | hgt
    · refine ⟨key, by simp, fun other hother => ?_⟩
      rcases Finset.mem_cons.mp hother with rfl | hother
      · exact .inl rfl
      · rcases hleast other hother with rfl | hbefore
        · exact .inr hlt
        · exact .inr (trans_of before hlt hbefore)
    · exact absurd hnext hkey
    · refine ⟨next, by simp [hnext], fun other hother => ?_⟩
      rcases Finset.mem_cons.mp hother with rfl | hother
      · exact .inr hgt
      · exact hleast other hother

theorem exists_isNext (h : (d.keysAfter before last).Nonempty) : ∃ next, d.IsNext before last next := by
  obtain ⟨next, hnext, hleast⟩ := exists_least before h
  rw [mem_keysAfter] at hnext
  exact ⟨next, hnext.1, hnext.2, fun key hkey hafter => hleast key (mem_keysAfter.mpr ⟨hkey, hafter⟩)⟩

/-- After a step to the next key, one key less is left. -/
theorem keysAfter_next (h : d.IsNext before last next) :
    d.keysAfter before (some next) = (d.keysAfter before last).erase next := by
  ext key
  rw [Finset.mem_erase, mem_keysAfter, mem_keysAfter]
  constructor
  · rintro ⟨hkey, hafter⟩
    have hbefore : before next key := hafter next rfl
    exact ⟨fun heq => irrefl_of before next (heq ▸ hbefore), hkey,
      fun k hk => trans_of before (h.comesAfter k hk) hbefore⟩
  · rintro ⟨hne, hkey, hafter⟩
    refine ⟨hkey, fun k hk => ?_⟩
    obtain rfl := Option.mem_some_iff.mp hk
    exact (h.least key hkey hafter).resolve_left hne

end

/-! ## Answers -/

def AnswersKey (before : Bytes → Bytes → Prop) (d : Dictionary) (last : Option Bytes)
    (buffer : Bytes) (result : StepResult) : Prop :=
  (∃ next, d.IsNext before last next ∧ result = .filled true next)
    ∨ d.keysAfter before last = ∅ ∧ result = .filled false buffer

/-- What a dictionary answers to an operation, and what it becomes. What comes after a key that is not stored is
left open. -/
def Answers (before : Bytes → Bytes → Prop) (d : Dictionary) (op : ElementOperation)
    (result : StepResult) (next : Dictionary) : Prop :=
  match op with
  | .write key value _ => result = .done ∧ next = d.insert key value
  | .find key buffer =>
      (match d.lookup key with
        | some value => result = .filled true value
        | none => result = .filled false buffer) ∧ next = d
  | .delete key => result = .answered (decide (key ∈ d)) ∧ next = d.erase key
  | .nextKey last buffer =>
      ((∀ key ∈ last, key ∈ d) → d.AnswersKey before last buffer result) ∧ next = d
  | .firstKey buffer => d.AnswersKey before none buffer result ∧ next = d

end Dictionary

/-! ## Many dictionaries -/

structure Request where
  number : Nat
  op : ElementOperation

/-- What dictionaries answer to requests, each of them on its own. -/
inductive AnswersAll (order : Nat → Bytes → Bytes → Prop) :
    (Nat → Dictionary) → List Request → List StepResult → (Nat → Dictionary) → Prop
  | nil (ds : Nat → Dictionary) : AnswersAll order ds [] [] ds
  | cons {ds ds' : Nat → Dictionary} {r : Request} {d : Dictionary} {result : StepResult}
      {rs : List Request} {results : List StepResult}
      (hfirst : (ds r.number).Answers (order r.number) r.op result d)
      (hrest : AnswersAll order (Function.update ds r.number d) rs results ds') :
      AnswersAll order ds (r :: rs) (result :: results) ds'

namespace ElementOperation

def readsOnly : ElementOperation → Bool
  | .write .. | .delete _ => false
  | .find .. | .nextKey .. | .firstKey _ => true

/-- What an operation does to a key: writes a value to it, or deletes it. -/
def effectOn (key : Bytes) : ElementOperation → Option (Option Bytes)
  | .write other value _ => if other = key then some (some value) else none
  | .delete other => if other = key then some none else none
  | .find .. | .nextKey .. | .firstKey _ => none

end ElementOperation

/-- The last effect of requests on a key of the map with a number. -/
def lastEffect (number : Nat) (key : Bytes) (rs : List Request) : Option (Option Bytes) :=
  (rs.filterMap fun r => if r.number = number then r.op.effectOn key else none).getLast?

theorem lastEffect_cons (number : Nat) (key : Bytes) (r : Request) (rs : List Request) :
    lastEffect number key (r :: rs)
      = (lastEffect number key rs).or
          (if r.number = number then r.op.effectOn key else none) := by
  unfold lastEffect
  rw [List.filterMap_cons]
  cases (if r.number = number then r.op.effectOn key else none) with
  | none => simp
  | some effect =>
    rw [List.getLast?_cons]
    cases (rs.filterMap fun r => if r.number = number then r.op.effectOn key else none).getLast? <;> rfl

theorem Dictionary.lookup_of_answers {before : Bytes → Bytes → Prop} {d next : Dictionary}
    {op : ElementOperation} {result : StepResult} (h : d.Answers before op result next) (key : Bytes) :
    next.lookup key = (op.effectOn key).getD (d.lookup key) := by
  cases op with
  | write other value _ =>
    obtain ⟨-, rfl⟩ := h
    by_cases heq : other = key
    · simp [ElementOperation.effectOn, heq]
    · simp [ElementOperation.effectOn, heq, Finmap.lookup_insert_of_ne d (Ne.symm heq)]
  | delete other =>
    obtain ⟨-, rfl⟩ := h
    by_cases heq : other = key
    · simp [ElementOperation.effectOn, heq]
    · simp [ElementOperation.effectOn, heq, Finmap.lookup_erase_ne (s := d) (Ne.symm heq)]
  | find other buffer | nextKey last buffer | firstKey buffer =>
    obtain ⟨-, rfl⟩ := h
    rfl

/-- What a key holds after requests: what was last written to it, unless it was deleted after that. -/
def lastWritten (ds : Nat → Dictionary) (rs : List Request) (number : Nat) (key : Bytes) :
    Option Bytes :=
  (lastEffect number key rs).getD ((ds number).lookup key)

theorem lookup_of_answersAll {order : Nat → Bytes → Bytes → Prop} {ds ds' : Nat → Dictionary}
    {rs : List Request} {results : List StepResult} (h : AnswersAll order ds rs results ds')
    (number : Nat) (key : Bytes) :
    (ds' number).lookup key = lastWritten ds rs number key := by
  unfold lastWritten
  -- A later effect on the key hides what the first request did to it.
  induction h with
  | nil ds => rfl
  | @cons ds ds' r d result rs results hfirst hrest ih =>
    rw [ih, lastEffect_cons]
    by_cases heq : r.number = number
    · rw [← heq, Function.update_self, Dictionary.lookup_of_answers hfirst]
      cases lastEffect r.number key rs <;> simp
    · rw [Function.update_of_ne (Ne.symm heq)]
      cases lastEffect number key rs <;> simp [heq]

theorem AnswersAll.split {order : Nat → Bytes → Bytes → Prop} {ds ds' : Nat → Dictionary}
    {earlier later : List Request} {r : Request} {results : List StepResult}
    (h : AnswersAll order ds (earlier ++ r :: later) results ds') :
    ∃ found reached result next, AnswersAll order ds earlier found reached
      ∧ (reached r.number).Answers (order r.number) r.op result next
      ∧ results[earlier.length]? = some result := by
  induction earlier generalizing ds results with
  | nil =>
    cases h with
    | cons hfirst hrest => exact ⟨[], ds, _, _, .nil ds, hfirst, rfl⟩
  | cons first earlier ih =>
    cases h with
    | cons hfirst hrest =>
      obtain ⟨found, reached, result, next, hearlier, hanswers, hresult⟩ := ih hrest
      exact ⟨_ :: found, reached, result, next, .cons hfirst hearlier, hanswers, hresult⟩

/-- Requests that only read a map leave its dictionary as it was. -/
theorem AnswersAll.keeps {order : Nat → Bytes → Bytes → Prop} {ds ds' : Nat → Dictionary}
    {rs : List Request} {results : List StepResult} (h : AnswersAll order ds rs results ds')
    {number : Nat} (hreads : ∀ r ∈ rs, r.number = number → r.op.readsOnly = true) :
    ds' number = ds number := by
  refine Finmap.ext_lookup fun key => ?_
  -- No request has an effect on any key, so each of them holds what it held.
  rw [lookup_of_answersAll h]
  suffices hnone : lastEffect number key rs = none by rw [lastWritten, hnone]; rfl
  rw [lastEffect, List.getLast?_eq_none_iff, List.filterMap_eq_nil_iff]
  intro r hr
  split
  · next heq =>
    have hread := hreads r hr heq
    cases hop : r.op <;> simp_all [ElementOperation.readsOnly, ElementOperation.effectOn]
  · rfl

end BpfBoot.Bpf
