import BpfBoot.Proofs.Bpf.Store

/-!
# Visiting the keys of a map

A visit asks for the first key, and then for the key after each key that it is given, until there is none. As
long as nobody writes to the map or deletes from it, each stored key is met once: with each step the keys that
are still to come become fewer by the one that is met.
-/

namespace BpfBoot.Bpf

variable {κ ι : Type}

/-- What is done on a visit: the buffer for each question, and the requests that are made between a key and the
next question. -/
structure Visitor where
  buffer : Option Bytes → Bytes
  meanwhile : Bytes → List Request

def question (last : Option Bytes) (buffer : Bytes) : ElementOperation :=
  match last with
  | none => .firstKey buffer
  | some key => .nextKey (some key) buffer

/-- Visits the keys of the map with a number after a key, or all of them, with a bound on the number of
questions. Gives back the keys that were met, if the questions came to an end. -/
def visit (k : Kernel κ) (number : Nat) (visitor : Visitor) :
    (bound : Nat) → (last : Option Bytes) → MapTable → κ → Option (List Bytes × MapTable × κ)
  | 0, _, _, _ => none
  | bound + 1, last, maps, state =>
      match ((question last (visitor.buffer last)).on number).run k maps state with
      | (.filled true key, maps, state) =>
          let (_, maps, state) := runAll k ((visitor.meanwhile key).map Request.step) maps state
          (visit k number visitor bound (some key) maps state).map fun (keys, reached) =>
            (key :: keys, reached)
      | (.filled false _, maps, state) => some ([], maps, state)
      | _ => none

/-- The buffers fit the map, the requests in between fit the table, and they only read the map that is
visited. -/
structure Visitor.Fits (visitor : Visitor) (maps : MapTable) (number : Nat) (m : BpfMap) : Prop where
  buffer : ∀ last, (visitor.buffer last).length = m.keySize
  meanwhile : ∀ key, ∀ r ∈ visitor.meanwhile key, ∃ m, r.Fits maps m
  reads : ∀ key, ∀ r ∈ visitor.meanwhile key, r.number = number → r.op.readsOnly = true

namespace MapView

open Dictionary

variable [DecidableEq ι] {v : MapView κ ι} {k : Kernel κ} {state next : κ} {m : BpfMap}
  {of : Nat → ι} {maps : MapTable} {ds : Nat → Dictionary} {number : Nat}

theorem answers_question {before : Bytes → Bytes → Prop} {d next : Dictionary} {last : Option Bytes}
    {buffer : Bytes} {result : StepResult} (h : d.Answers before (question last buffer) result next)
    (hlast : ∀ key ∈ last, key ∈ d) : d.AnswersKey before last buffer result ∧ next = d := by
  cases last with
  | none => exact h
  | some key => exact ⟨h.1 hlast, h.2⟩

theorem fits_question (hm : maps[number]? = some (some m)) {last : Option Bytes} {buffer : Bytes}
    (hlast : ∀ key ∈ last, key.length = m.keySize) (hbuffer : buffer.length = m.keySize) :
    Request.Fits maps ⟨number, question last buffer⟩ m := by
  refine ⟨hm, ElementOperation.wrongBuffer?_eq_none_iff.mpr ?_, ?_⟩
  · cases last with
    | none => simpa [question, ElementOperation.buffers] using hbuffer
    | some key => simpa [question, ElementOperation.buffers] using ⟨hlast key rfl, hbuffer⟩
  · cases last <;> rfl

theorem Shows.ask (hk : v.Keeps k) (h : v.Shows of maps state ds)
    (hm : maps[number]? = some (some m)) {last : Option Bytes} (hlast : ∀ key ∈ last, key ∈ ds number)
    {buffer : Bytes} (hbuffer : buffer.length = m.keySize) :
    ∃ result next, ((question last buffer).on number).run k maps state = (result, maps, next)
      ∧ (ds number).AnswersKey (v.before (of number)) last buffer result
      ∧ v.Shows of maps next ds := by
  have hsized : (ds number).Sized m.keySize m.valueSize := (h.backs number m hm).sized
  have hfits := fits_question hm (fun key hkey => hsized.length_key (hlast key hkey)) hbuffer
  obtain ⟨result, next, d, hrun, hanswers, hshows⟩ := h.step hk hfits
  obtain ⟨hkey, rfl⟩ := answers_question hanswers hlast
  rw [Function.update_eq_self] at hshows
  exact ⟨result, next, hrun, hkey, hshows⟩

/-- A visit meets the keys that come after the one where it starts, each of them once. -/
theorem Shows.visit (hk : v.Keeps k) {visitor : Visitor} (hvisitor : visitor.Fits maps number m)
    (hm : maps[number]? = some (some m)) (h : v.Shows of maps state ds)
    {last : Option Bytes} (hlast : ∀ key ∈ last, key ∈ ds number) {bound : Nat}
    (hbound : ((ds number).keysAfter (v.before (of number)) last).card < bound) :
    ∃ keys next ds', Bpf.visit k number visitor bound last maps state = some (keys, maps, next)
      ∧ keys.Nodup
      ∧ (∀ key, key ∈ keys ↔ key ∈ (ds number).keysAfter (v.before (of number)) last)
      ∧ v.Shows of maps next ds' ∧ ds' number = ds number := by
  have := hk.order (of number)
  -- By induction on the bound, which is larger than the number of the keys that are still to come.
  induction bound generalizing last state ds with
  | zero => simp at hbound
  | succ bound ih =>
    obtain ⟨result, next, hrun, hanswers, hshows⟩ := h.ask hk hm hlast (hvisitor.buffer last)
    simp only [Bpf.visit, hrun]
    rcases hanswers with ⟨key, hnext, rfl⟩ | ⟨hnone, rfl⟩
    · obtain ⟨results, reached, ds', hmeanwhile, hall, hshows'⟩ :=
        hshows.run hk (hvisitor.meanwhile key)
      have hkept : ds' number = ds number := hall.keeps (hvisitor.reads key)
      -- What is left for the rest of the visit is all but the key that was met.
      have hleft : (ds' number).keysAfter (v.before (of number)) (some key)
          = ((ds number).keysAfter (v.before (of number)) last).erase key := by
        rw [hkept, keysAfter_next hnext]
      have hkey : key ∈ (ds number).keysAfter (v.before (of number)) last :=
        mem_keysAfter.mpr ⟨hnext.mem, hnext.comesAfter⟩
      have hfewer : ((ds' number).keysAfter (v.before (of number)) (some key)).card < bound := by
        rw [hleft, Finset.card_erase_of_mem hkey]
        have hpos := Finset.card_pos.mpr ⟨key, hkey⟩
        omega
      have hstored : ∀ k ∈ some key, k ∈ ds' number := by simpa [hkept] using hnext.mem
      obtain ⟨keys, final, ds'', hvisit, hnodup, hmem, hfinal, hsame⟩ := ih hshows' hstored hfewer
      refine ⟨key :: keys, final, ds'', ?_, ?_, ?_, hfinal, hsame.trans hkept⟩
      · simp only [hmeanwhile, hvisit, Option.map_some]
      · refine List.nodup_cons.mpr ⟨fun hagain => ?_, hnodup⟩
        rw [hmem, hleft] at hagain
        exact Finset.notMem_erase key _ hagain
      · intro other
        rw [List.mem_cons, hmem, hleft, Finset.mem_erase]
        by_cases heq : other = key
        · simp [heq, hkey]
        · simp [heq]
    · exact ⟨[], next, ds, rfl, List.nodup_nil, by simp [hnone], hshows, rfl⟩

end MapView

/-! ## Maps act as dictionaries -/

/-- What is true of a run of requests, of its results and of the state that it ends in. -/
structure ActsAsDictionaries (k : Kernel κ) (order : Nat → Bytes → Bytes → Prop) (maps : MapTable)
    (ds : Nat → Dictionary) (rs : List Request) (results : List StepResult) (next : κ)
    (ds' : Nat → Dictionary) : Prop where
  /-- The results, with their buffers, are those of dictionaries that know nothing of each other. -/
  answers : AnswersAll order ds rs results ds'
  /-- A key is found with what was last written to it, or else the buffer is as it was. -/
  finds : ∀ earlier later number key buffer, rs = earlier ++ ⟨number, .find key buffer⟩ :: later →
    results[earlier.length]? = some (match lastWritten ds earlier number key with
      | some value => .filled true value
      | none => .filled false buffer)
  /-- Deleting a key tells whether there was one. -/
  deletes : ∀ earlier later number key, rs = earlier ++ ⟨number, .delete key⟩ :: later →
    results[earlier.length]? = some (.answered (lastWritten ds earlier number key).isSome)
  /-- A visit that neither writes nor deletes comes to an end and meets every stored key once. -/
  visits : ∀ (number : Nat) (m : BpfMap) (visitor : Visitor) (bound : Nat),
    maps[number]? = some (some m) → visitor.Fits maps number m → (ds' number).keys.card < bound →
    ∃ keys final, visit k number visitor bound none maps next = some (keys, maps, final)
      ∧ keys.Nodup ∧ ∀ key, key ∈ keys ↔ key ∈ ds' number

/-- Requests with buffers that fit are answered by open maps as by dictionaries. -/
theorem maps_act_as_dictionaries [DecidableEq ι] {v : MapView κ ι} {k : Kernel κ} (hk : v.Keeps k)
    {of : Nat → ι} {maps : MapTable} {state : κ} {ds : Nat → Dictionary}
    (h : v.Shows of maps state ds) {rs : List Request} (hrs : ∀ r ∈ rs, ∃ m, r.Fits maps m) :
    ∃ results next ds', runAll k (rs.map Request.step) maps state = (results, maps, next)
      ∧ ActsAsDictionaries k (fun number => v.before (of number)) maps ds rs results next ds' := by
  obtain ⟨results, next, ds', hrun, hall, hshows⟩ := h.run hk hrs
  refine ⟨results, next, ds', hrun, hall, ?_, ?_, ?_⟩
  · rintro earlier later number key buffer rfl
    obtain ⟨_, reached, result, _, hearlier, ⟨hresult, -⟩, hat⟩ := hall.split
    rw [hat, ← lookup_of_answersAll hearlier]
    cases hlookup : (reached number).lookup key with
    | some value =>
      rw [hlookup] at hresult
      rw [hresult]
    | none =>
      rw [hlookup] at hresult
      rw [hresult]
  · rintro earlier later number key rfl
    obtain ⟨_, reached, result, _, hearlier, ⟨hresult, -⟩, hat⟩ := hall.split
    have hstored : decide (key ∈ reached number) = ((reached number).lookup key).isSome := by
      rw [Bool.eq_iff_iff, decide_eq_true_iff, Finmap.lookup_isSome]
    rw [hat, ← lookup_of_answersAll hearlier, hresult, hstored]
  · intro number m visitor bound hm hvisitor hbound
    have hnone : ∀ key ∈ (none : Option Bytes), key ∈ ds' number := by simp
    obtain ⟨keys, final, -, hvisit, hnodup, hmem, -⟩ :=
      hshows.visit hk hvisitor hm hnone (by rwa [Dictionary.keysAfter_none])
    refine ⟨keys, final, hvisit, hnodup, fun key => ?_⟩
    rw [hmem, Dictionary.keysAfter_none, Finmap.mem_keys]

/-- A key is written to one of two maps of the store, and not found in the other one. -/
theorem maps_act_as_dictionaries_two_maps :
    let maps : MapTable := [some ⟨⟨0⟩, 2, 1⟩, some ⟨⟨1⟩, 2, 1⟩]
    let rs : List Request :=
      [⟨0, .write [1, 2] [3] anyFlag⟩, ⟨1, .find [1, 2] [9]⟩, ⟨0, .find [1, 2] [9]⟩]
    ∃ next ds', runAll storeKernel (rs.map Request.step) maps (fun _ => ∅)
        = ([.done, .filled false [9], .filled true [3]], maps, next)
      ∧ ActsAsDictionaries storeKernel (fun _ => (· < ·)) maps (fun _ => ∅) rs
          [.done, .filled false [9], .filled true [3]] next ds' := by
  intro maps rs
  have hmaps : ∀ (number : Nat) (m : BpfMap), maps[number]? = some (some m) →
      m = ⟨⟨number⟩, 2, 1⟩ := by
    intro number m hm
    rcases number with _ | _ | number
    · cases hm
      rfl
    · cases hm
      rfl
    · simp [maps] at hm
  have hsized : ∀ _ : Nat, (∅ : Dictionary).Sized 2 1 := fun _ key value h => by
    rw [Finmap.lookup_empty] at h
    cases h
  have hfits : ∀ r ∈ rs, ∃ m, r.Fits maps m := by
    simp only [rs, List.forall_mem_cons]
    exact ⟨⟨_, rfl, rfl, rfl⟩, ⟨_, rfl, rfl, rfl⟩, ⟨_, rfl, rfl, rfl⟩, by simp⟩
  have hresults : (runAll storeKernel (rs.map Request.step) maps (fun _ => ∅)).1
      = [.done, .filled false [9], .filled true [3]] := by decide
  obtain ⟨results, next, ds', hrun, hacts⟩ :=
    maps_act_as_dictionaries (storeView_keeps 2 1) (storeView_shows hmaps hsized) hfits
  rw [hrun] at hresults
  obtain rfl : results = _ := hresults
  exact ⟨next, ds', hrun, hacts⟩

end BpfBoot.Bpf
