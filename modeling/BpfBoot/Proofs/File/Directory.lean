import BpfBoot.Proofs.File.Tree
import BpfBoot.Proofs.Text.Pieces

/-!
# Making directories

A directory is made at the place to which its path leads when no link under the last name is followed. An entry
at that place is in the way, whatever it is, and otherwise it is the only place that changes. Where a directory
stands at the end, a look-up that follows links finds it too.
-/

namespace BpfBoot.Files

open FileTree

variable {fs fs' : Files} {p : Path}

/-! ## Slashes at the end -/

theorem withoutFinalSlashes_cases (p : Path) :
    withoutFinalSlashes p = p
      ∨ ∃ kept more, withoutFinalSlashes p = ⟨kept⟩ ∧ p.bytes = kept ++ more ∧ kept ≠ []
        ∧ ∀ b ∈ more, b = Path.slash := by
  unfold withoutFinalSlashes
  by_cases hkept : (p.bytes.reverse.dropWhile (· == Path.slash)).reverse = []
  · rw [hkept]
    exact .inl rfl
  · refine .inr ⟨(p.bytes.reverse.dropWhile (· == Path.slash)).reverse,
      (p.bytes.reverse.takeWhile (· == Path.slash)).reverse, ?_, ?_, hkept, ?_⟩
    · exact if_neg (by simpa using hkept)
    · rw [← List.reverse_append, List.takeWhile_append_dropWhile, List.reverse_reverse]
    · intro b hb
      have hslash := List.all_takeWhile (l := p.bytes.reverse) (p := (· == Path.slash))
      rw [List.all_eq_true] at hslash
      exact eq_of_beq (hslash b (by simpa using hb))

theorem names_withoutFinalSlashes (p : Path) : (withoutFinalSlashes p).names = p.names := by
  rcases withoutFinalSlashes_cases p with h | ⟨kept, more, h, hbytes, _, hmore⟩
  · rw [h]
  · rw [h, ← Path.names_append_of_slashes kept more hmore, ← hbytes]

theorem isAbsolute_withoutFinalSlashes (p : Path) : (withoutFinalSlashes p).isAbsolute = p.isAbsolute := by
  rcases withoutFinalSlashes_cases p with h | ⟨kept, more, h, hbytes, hne, _⟩
  · rw [h]
  · obtain ⟨b, rest, rfl⟩ := List.exists_cons_of_ne_nil hne
    rw [h, Path.isAbsolute, Path.isAbsolute, hbytes]
    rfl

theorem endsWithSlash_of_withoutFinalSlashes (h : (withoutFinalSlashes p).endsWithSlash = true) :
    p.endsWithSlash = true := by
  rcases withoutFinalSlashes_cases p with hp | ⟨kept, more, hp, hbytes, _, hmore⟩
  · rwa [hp] at h
  · rw [hp] at h
    rw [Path.endsWithSlash, hbytes, List.getLast?_append]
    cases hlast : more.getLast? with
    | none => exact h
    | some b => simpa using hmore b (List.mem_of_getLast? hlast)

theorem length_withoutFinalSlashes_le (p : Path) :
    (withoutFinalSlashes p).bytes.length ≤ p.bytes.length := by
  rcases withoutFinalSlashes_cases p with h | ⟨kept, more, h, hbytes, _, _⟩
  · exact Nat.le_of_eq (by rw [h])
  · rw [h, hbytes, List.length_append]
    exact Nat.le_add_right _ _

theorem bytes_withoutFinalSlashes_eq_nil_iff : (withoutFinalSlashes p).bytes = [] ↔ p.bytes = [] := by
  rcases withoutFinalSlashes_cases p with h | ⟨kept, more, h, hbytes, hne, _⟩
  · rw [h]
  · rw [h, hbytes]
    simp [hne]

/-! ## Places of directories -/

/-- The place at which a directory with the given path would be made. -/
def placeOf (fs : Files) (p : Path) : Except Errno Place :=
  if p.hasNul then .error .einval
  else if pathLengthBound ≤ p.bytes.length then .error .enametoolong
  else fs.tree.resolve fs.cwd (withoutFinalSlashes p) false

/-- What making a directory does, by the place that its path leads to. -/
theorem makeDirectory_eq (fs : Files) (p : Path) (mode : Nat) :
    fs.makeDirectory p mode
      = match fs.placeOf p with
        | .ok (.present _ _) => .error .eexist
        | .ok (.absent dir name) => .ok { fs with
            tree := fs.tree.insert (dir ++ [name]) (.directory (fs.newDirectoryMode dir mode)) }
        | .error errno => .error errno := by
  unfold makeDirectory placeOf
  by_cases hnul : p.hasNul = true
  · rw [if_pos hnul, if_pos hnul]
    rfl
  · by_cases hlength : pathLengthBound ≤ p.bytes.length
    · rw [if_neg hnul, if_neg hnul, if_pos hlength, if_pos hlength]
      rfl
    · rw [if_neg hnul, if_neg hnul, if_neg hlength, if_neg hlength]
      cases fs.tree.resolve fs.cwd (withoutFinalSlashes p) false with
      | error errno => rfl
      | ok place => cases place <;> rfl

theorem placeOf_ne_eexist : fs.placeOf p ≠ .error .eexist := by
  unfold placeOf resolve
  split
  · nofun
  split
  · nofun
  split
  · nofun
  split
  · nofun
  exact walk_ne_eexist

/-- Apart from an entry in the way, a directory cannot be made because its path leads nowhere. -/
theorem makeDirectory_error_iff {mode : Nat} {errno : Errno} :
    errno ≠ .eexist ∧ fs.makeDirectory p mode = .error errno ↔ fs.placeOf p = .error errno := by
  rw [makeDirectory_eq]
  constructor
  · rintro ⟨herrno, hmake⟩
    cases hplace : fs.placeOf p with
    | error errno' =>
      rw [hplace] at hmake
      cases hmake
      rfl
    | ok place =>
      rw [hplace] at hmake
      cases place with
      | present key entry =>
        cases hmake
        exact absurd rfl herrno
      | absent dir name => cases hmake
  · intro hplace
    constructor
    · intro herrno
      rw [herrno] at hplace
      exact placeOf_ne_eexist hplace
    · rw [hplace]

/-- The path is one that a system call takes. -/
def IsTaken (p : Path) : Prop :=
  p.hasNul = false ∧ p.bytes ≠ [] ∧ p.bytes.length < pathLengthBound

/-- The directory where the look-up of a path starts. -/
def startOf (fs : Files) (p : Path) : Key :=
  if p.isAbsolute then [] else fs.cwd

theorem placeOf_of_isTaken (hp : IsTaken p) :
    fs.placeOf p = fs.tree.walk false (withoutFinalSlashes p).endsWithSlash maxLinks (fs.startOf p)
      p.names := by
  obtain ⟨hnul, hne, hlength⟩ := hp
  have hne' : (withoutFinalSlashes p).bytes ≠ [] := fun h =>
    hne (bytes_withoutFinalSlashes_eq_nil_iff.mp h)
  have hlength' := length_withoutFinalSlashes_le p
  rw [placeOf, resolve, hnul, if_neg Bool.false_ne_true, if_neg (by omega), if_neg (by simpa using hne'),
    if_neg (by omega), names_withoutFinalSlashes, isAbsolute_withoutFinalSlashes]
  rfl

theorem isTaken_of_placeOf {place : Place} (h : fs.placeOf p = .ok place) : IsTaken p := by
  unfold placeOf at h
  split at h
  · cases h
  · next hnul =>
    split at h
    · cases h
    · next hlength =>
      refine ⟨by simpa using hnul, fun hempty => ?_, by omega⟩
      have hempty' : (withoutFinalSlashes p).bytes.isEmpty = true := by
        rw [List.isEmpty_iff]
        exact bytes_withoutFinalSlashes_eq_nil_iff.mpr hempty
      rw [resolve, if_pos hempty'] at h
      cases h

theorem placeOf_eq_ok_iff {place : Place} :
    fs.placeOf p = .ok place
      ↔ IsTaken p ∧ Leads fs.tree false (withoutFinalSlashes p).endsWithSlash maxLinks (fs.startOf p)
          p.names place := by
  constructor
  · intro h
    have hp := isTaken_of_placeOf h
    rw [placeOf_of_isTaken hp] at h
    exact ⟨hp, walk_eq_ok_iff.mp h⟩
  · rintro ⟨hp, hleads⟩
    rw [placeOf_of_isTaken hp]
    exact hleads.walk_eq

theorem get?_of_placeOf_present {key : Key} {entry : Entry}
    (h : fs.placeOf p = .ok (.present key entry)) : fs.tree.get? key = some entry :=
  (placeOf_eq_ok_iff.mp h).2.get?_eq_some

theorem get?_of_placeOf_absent {dir : Key} {name : Name} (h : fs.placeOf p = .ok (.absent dir name)) :
    fs.tree.get? (dir ++ [name]) = none :=
  (placeOf_eq_ok_iff.mp h).2.get?_eq_none

theorem stat_eq (hp : IsTaken p) :
    fs.stat p
      = match fs.tree.walk true p.endsWithSlash maxLinks (fs.startOf p) p.names with
        | .ok (.present key entry) => .ok (key, entry)
        | .ok (.absent _ _) => .error .enoent
        | .error errno => .error errno := by
  obtain ⟨hnul, hne, hlength⟩ := hp
  unfold stat resolve startOf
  rw [hnul, if_neg Bool.false_ne_true, if_neg (by simpa using hne), if_neg (by omega)]
  cases fs.tree.walk true p.endsWithSlash maxLinks (if p.isAbsolute then [] else fs.cwd) p.names with
  | error errno => rfl
  | ok place => cases place <;> rfl

/-! ## Growing files -/

/-- All that was there is there still, and what the process sees of it is seen from the same place and made
with the same mask. -/
structure Grows (fs fs' : Files) : Prop where
  tree : fs.tree.IsWithin fs'.tree
  cwd : fs'.cwd = fs.cwd
  umask : fs'.umask = fs.umask

theorem Grows.refl (fs : Files) : fs.Grows fs :=
  ⟨.refl _, rfl, rfl⟩

theorem Grows.trans {fs'' : Files} (h : fs.Grows fs') (h' : fs'.Grows fs'') : fs.Grows fs'' :=
  ⟨h.tree.trans h'.tree, h'.cwd.trans h.cwd, h'.umask.trans h.umask⟩

theorem grows_insert {dir : Key} {name : Name} (entry : Entry) (h : fs.tree.get? (dir ++ [name]) = none) :
    fs.Grows { fs with tree := fs.tree.insert (dir ++ [name]) entry } :=
  ⟨isWithin_insert entry h, rfl, rfl⟩

theorem grows_of_makeDirectory {mode : Nat} (h : fs.makeDirectory p mode = .ok fs') : fs.Grows fs' := by
  rw [makeDirectory_eq] at h
  split at h
  · cases h
  next hplace =>
    cases h
    exact grows_insert _ (get?_of_placeOf_absent hplace)
  · cases h

theorem grows_of_makeDirectories_go {fuel : Nat} (h : makeDirectories.go fuel fs p = .ok fs') :
    fs.Grows fs' := by
  fun_induction makeDirectories.go fuel fs p generalizing fs' with
  | case1 | case2 | case9 =>
    cases h
    exact .refl _
  | case3 fuel fs p _ made hmade =>
    cases h
    exact grows_of_makeDirectory hmade
  | case4 fuel fs p _ _ _ _ parent _ above habove made hmade ih =>
    cases h
    exact (ih habove).trans (grows_of_makeDirectory hmade)
  | case5 fuel fs p _ _ _ _ parent _ above habove _ _ _ ih =>
    cases h
    exact ih habove
  | case6 | case7 | case8 | case10 => cases h

theorem grows_of_makeDirectories (h : fs.makeDirectories p = .ok fs') : fs.Grows fs' :=
  grows_of_makeDirectories_go h

theorem Grows.startOf_eq (h : fs.Grows fs') (p : Path) : fs'.startOf p = fs.startOf p := by
  rw [startOf, startOf, h.cwd]

theorem placeOf_of_present (hgrows : fs.Grows fs') {key : Key} {entry : Entry}
    (h : fs.placeOf p = .ok (.present key entry)) : fs'.placeOf p = .ok (.present key entry) := by
  rw [placeOf_eq_ok_iff] at h ⊢
  rw [hgrows.startOf_eq]
  exact ⟨h.1, h.2.of_isWithin hgrows.tree⟩

theorem placeOf_of_directory (hgrows : fs.Grows fs') {place : Place} {mode : Nat}
    (h : fs.placeOf p = .ok place) (hdirectory : fs'.tree.get? place.key = some (.directory mode)) :
    fs'.placeOf p = .ok (.present place.key (.directory mode)) := by
  rw [placeOf_eq_ok_iff] at h ⊢
  rw [hgrows.startOf_eq]
  exact ⟨h.1, h.2.of_directory hgrows.tree id hdirectory id⟩

theorem leadsToDirectory_of_directory (hgrows : fs.Grows fs') {place : Place} {mode : Nat}
    (h : fs.placeOf p = .ok place) (hdirectory : fs'.tree.get? place.key = some (.directory mode)) :
    fs'.leadsToDirectory p = true := by
  obtain ⟨htaken, hleads⟩ := placeOf_eq_ok_iff.mp h
  have hfound : Leads fs'.tree true p.endsWithSlash maxLinks (fs.startOf p) p.names
      (.present place.key (.directory mode)) :=
    hleads.of_directory hgrows.tree (fun _ => rfl) hdirectory endsWithSlash_of_withoutFinalSlashes
  rw [leadsToDirectory, stat_eq htaken, hgrows.startOf_eq, hfound.walk_eq]
  rfl

theorem leadsToDirectory_of_file {key : Key} {mode : Nat} {data : Bytes}
    (h : fs.placeOf p = .ok (.present key (.file mode data))) : fs.leadsToDirectory p = false := by
  obtain ⟨htaken, hleads⟩ := placeOf_eq_ok_iff.mp h
  rw [leadsToDirectory, stat_eq htaken]
  have hwalk : fs.tree.walk true p.endsWithSlash maxLinks (fs.startOf p) p.names
        = .ok (.present key (.file mode data))
      ∨ fs.tree.walk true p.endsWithSlash maxLinks (fs.startOf p) p.names = .error .enotdir :=
    hleads.walk_of_file (fun _ => rfl) endsWithSlash_of_withoutFinalSlashes
  rcases hwalk with hwalk | hwalk
  · rw [hwalk]
    rfl
  · rw [hwalk]

end BpfBoot.Files
