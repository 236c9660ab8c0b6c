import BpfBoot.Settings.Load
import Mathlib.Data.List.Nodup

/-!
# Merging a file into the settings

A table that is put where there is one already leaves the entries that it does not name, and an entry that it
names is merged with the old one in turn. So what stands under a name after a file was merged hangs only on what
stood there before and on what the file has there.
-/

namespace BpfBoot.Settings

/-- The names are written in small letters, each once. -/
structure AreNames (names : List String) : Prop where
  nodup : names.Nodup
  lower : ∀ n ∈ names, Text.lower n = n

theorem AreNames.of_cons {name : String} {names : List String} (h : AreNames (name :: names)) :
    name ∉ names ∧ Text.lower name = name ∧ AreNames names :=
  ⟨(List.nodup_cons.mp h.nodup).1, h.lower name List.mem_cons_self, (List.nodup_cons.mp h.nodup).2,
    fun n hn => h.lower n (List.mem_cons_of_mem name hn)⟩

theorem lookup_eq_none_of_notMem {α : Type} {name : String} {entries : List (String × α)}
    (h : name ∉ entries.map Prod.fst) : entries.lookup name = none := by
  refine List.lookup_eq_none_iff.mpr fun entry hentry => ?_
  have hne : name ≠ entry.1 := by
    rintro rfl
    exact h (List.mem_map_of_mem hentry)
  simpa using hne

namespace Tree

theorem lookup_upsert (n name : String) (value : Tree) (entries : List (String × Tree)) :
    (upsert name value entries).lookup n = if n == name then some value else entries.lookup n := by
  induction entries with
  | nil =>
    rw [upsert, List.lookup_cons]
    cases n == name <;> rfl
  | cons entry entries ih =>
    obtain ⟨m, old⟩ := entry
    by_cases hm : m = name
    · subst hm
      rw [upsert, if_pos (beq_self_eq_true m), List.lookup_cons, List.lookup_cons]
      cases n == m <;> rfl
    · rw [upsert, if_neg (by simpa using hm), List.lookup_cons, List.lookup_cons, ih]
      cases hn : n == m with
      | true =>
        obtain rfl : n = m := by simpa using hn
        simp [hm]
      | false => rfl

theorem upsert_of_notMem {name : String} {entries : List (String × Tree)} (h : name ∉ entries.map Prod.fst)
    (value : Tree) : upsert name value entries = entries ++ [(name, value)] := by
  induction entries with
  | nil => rfl
  | cons entry entries ih =>
    obtain ⟨m, old⟩ := entry
    rw [List.map_cons, List.mem_cons, not_or] at h
    rw [upsert, if_neg (by simpa using Ne.symm h.1), ih h.2, List.cons_append]

/-- What comes to stand where `old` stood when a tree is put there. -/
def merged (old : Option Tree) : Tree → Tree
  | .table _ incoming => (old.getD empty).putAll incoming
  | t => t

theorem put_eq (root : Tree) (name : String) (value : Tree) :
    root.put name value = .table false
      (upsert (Text.lower name) (merged (root.entries.lookup (Text.lower name)) value) root.entries) := by
  cases value with
  | scalar | array => rw [put]; rfl
  | table => rw [put]; rfl

theorem lookup_put {name : String} (h : Text.lower name = name) (root value : Tree) (n : String) :
    (root.put name value).entries.lookup n
      = if n == name then some (merged (root.entries.lookup name) value) else root.entries.lookup n := by
  rw [put_eq, h]
  exact lookup_upsert n name _ _

/-- An entry after several were put, by the old entry of the name and the new one. -/
theorem lookup_putAll {incoming : List (String × Tree)} (h : AreNames (incoming.map Prod.fst)) (root : Tree)
    (n : String) :
    (root.putAll incoming).entries.lookup n
      = match incoming.lookup n with
        | none => root.entries.lookup n
        | some t => some (merged (root.entries.lookup n) t) := by
  induction incoming generalizing root with
  | nil =>
    rw [putAll]
    rfl
  | cons entry incoming ih =>
    obtain ⟨name, value⟩ := entry
    obtain ⟨hnew, hlower, hnames⟩ := h.of_cons
    rw [putAll, ih hnames, lookup_put hlower, List.lookup_cons]
    cases hn : n == name with
    | true =>
      -- The name does not come again.
      obtain rfl : n = name := by simpa using hn
      simp [lookup_eq_none_of_notMem hnew]
    | false => rfl

theorem exists_table_putAll (fromFile : Bool) (old incoming : List (String × Tree)) :
    ∃ fromFile' entries, (table fromFile old).putAll incoming = .table fromFile' entries := by
  induction incoming generalizing fromFile old with
  | nil => exact ⟨fromFile, old, by rw [putAll]⟩
  | cons entry incoming ih =>
    obtain ⟨name, value⟩ := entry
    rw [putAll, put_eq]
    exact ih _ _

theorem ofMembers_eq {members : List (String × Json5.Value)} {entries : List (String × Tree)}
    (h : (entries.map Prod.fst ++ members.map Prod.fst).Nodup) :
    ofValue.ofMembers members entries = entries ++ members.map fun m => (m.1, ofValue m.2) := by
  induction members generalizing entries with
  | nil => rw [ofValue.ofMembers, List.map_nil, List.append_nil]
  | cons member members ih =>
    obtain ⟨key, v⟩ := member
    have hnew : key ∉ entries.map Prod.fst := fun hold =>
      (List.nodup_append.mp h).2.2 key hold key List.mem_cons_self rfl
    rw [ofValue.ofMembers, upsert_of_notMem hnew, ih (by simpa using h), List.append_assoc]
    rfl

/-- The members of an object, each as a tree. -/
def entriesOf (members : List (String × Json5.Value)) : List (String × Tree) :=
  members.map fun m => (m.1, ofValue m.2)

theorem keys_entriesOf (members : List (String × Json5.Value)) :
    (entriesOf members).map Prod.fst = members.map Prod.fst :=
  List.map_map

/-- The tree of an object without repeated keys has its members. -/
theorem ofValue_object {members : List (String × Json5.Value)} (h : (members.map Prod.fst).Nodup) :
    ofValue (.object members) = .table true (entriesOf members) := by
  rw [ofValue, ofMembers_eq (by simpa using h), List.nil_append, entriesOf]

theorem ofElements_eq (elements : List Json5.Value) :
    ofValue.ofElements elements = elements.map ofValue := by
  induction elements with
  | nil => rw [ofValue.ofElements, List.map_nil]
  | cons v elements ih => rw [ofValue.ofElements, ih, List.map_cons]

/-- Keys that are names and no longer addresses are put as they are. -/
theorem merge_eq_putAll {file : List (String × Tree)}
    (h : ∀ name ∈ file.map Prod.fst, Address.ofKey name = ⟨name, []⟩) (root : Tree) :
    root.merge file = root.putAll file := by
  induction file generalizing root with
  | nil => rw [putAll]; rfl
  | cons entry file ih =>
    obtain ⟨name, value⟩ := entry
    have hkey : root.putKey name value = root.put name value := by
      rw [putKey, h name List.mem_cons_self, putAt]
    rw [putAll, ← hkey]
    exact ih (fun n hn => h n (List.mem_cons_of_mem name hn)) _

end Tree

end BpfBoot.Settings
