import BpfBoot.Proofs.Kernel.Saturation

/-!
# Branches and their tables

A version is on the branch of its major and minor number. The test for that asks whether the version lies
between the first releases of two branches, so it knows the next branch by its number: where there is no next
number, no version passes.

Two tables list branches by hand. What is found in them hangs on the branch alone and not on the order of
their entries, and from 4.19 on they list the same branches.
-/

namespace BpfBoot

namespace KernelVersion

def branch (v : KernelVersion) : Branch :=
  ⟨v.major, v.minor⟩

theorem major_le (v : KernelVersion) : v.major ≤ 0xff := by
  have hpacked := v.packed_lt
  rw [KernelVersion.major]
  omega

theorem minor_le (v : KernelVersion) : v.minor ≤ 0xff := by
  rw [KernelVersion.minor]
  omega

theorem sub_le (v : KernelVersion) : v.sub ≤ 0xffff := by
  rw [KernelVersion.sub]
  omega

/-- A version is made of its components. -/
theorem ofRelease_release (v : KernelVersion) : ofRelease v.release = v := by
  obtain ⟨packed, hpacked⟩ := v
  simp only [ofRelease, release, ofParts, KernelVersion.major, KernelVersion.minor, KernelVersion.sub,
    KernelVersion.mk.injEq]
  omega

/-! ## The test for a branch -/

/-- The test finds the one branch that a version belongs to, unless its minor number is the largest. -/
theorem isOnBranch_finds_branch (v : KernelVersion) :
    (∀ major minor, v.isOnBranch major minor = true
        ↔ v.major = min major 0xff ∧ v.minor = minor ∧ minor < 0xff)
      ∧ ((∃! branch : Branch, branch.major ≤ 0xff ∧ v.isOnBranch branch.major branch.minor = true)
        ↔ v.minor < 0xff) := by
  refine ⟨isOnBranch_iff_of_any v, ?_⟩
  constructor
  · rintro ⟨branch, ⟨-, hon⟩, -⟩
    obtain ⟨-, hminor, hlt⟩ := (isOnBranch_iff_of_any v _ _).mp hon
    omega
  · intro hlt
    have hmajor := v.major_le
    refine ⟨v.branch, ⟨hmajor, ?_⟩, ?_⟩
    · exact (isOnBranch_iff_of_any v _ _).mpr ⟨(Nat.min_eq_left hmajor).symm, rfl, hlt⟩
    · rintro ⟨major, minor⟩ ⟨hle, hon⟩
      obtain ⟨hmajor', hminor', -⟩ := (isOnBranch_iff_of_any v _ _).mp hon
      rw [Nat.min_eq_left hle] at hmajor'
      rw [branch, hmajor', hminor']

/-- Release 4.255.0 is on no branch, its own included. -/
example : (ofParts 4 255 0).isOnBranch 4 255 = false ∧ (ofParts 4 255 0).branch = ⟨4, 255⟩ := by decide

/-! ## Branches with long term support -/

theorem isLongTerm_iff_mem (v : KernelVersion) : v.isLongTerm = true ↔ v.branch ∈ ltsBranches := by
  have h := isLongTerm_ofRelease v.release
  rw [ofRelease_release] at h
  exact h

/-! ## Branches that need a point release -/

/-- The release that the version's branch must have reached, going by a table of point releases. -/
def requiredReleaseIn (table : List (Branch × Nat)) (v : KernelVersion) : Option KernelVersion :=
  (table.find? fun (branch, _) => v.isOnBranch branch.major branch.minor).map
    fun (branch, sub) => ofParts branch.major branch.minor sub

theorem requiredRelease?_eq (v : KernelVersion) :
    v.requiredRelease? = v.requiredReleaseIn requiredPointReleases := rfl

theorem isOnBranch_iff_of_mem {entry : Branch × Nat} (h : entry ∈ requiredPointReleases)
    (v : KernelVersion) : v.isOnBranch entry.1.major entry.1.minor = true ↔ v.branch = entry.1 := by
  have hbounds : ∀ entry ∈ requiredPointReleases, entry.1.major ≤ 0xff ∧ entry.1.minor < 0xff := by
    decide
  obtain ⟨hmajor, hminor⟩ := hbounds entry h
  rw [isOnBranch_iff v hmajor hminor, branch, Branch.mk.injEq]

theorem requiredPointReleases_unique {branch : Branch} {sub sub' : Nat}
    (h : (branch, sub) ∈ requiredPointReleases) (h' : (branch, sub') ∈ requiredPointReleases) :
    sub = sub' := by
  have hunique : ∀ entry ∈ requiredPointReleases, ∀ entry' ∈ requiredPointReleases,
      entry.1 = entry'.1 → entry.2 = entry'.2 := by
    decide
  exact hunique _ h _ h' rfl

theorem mem_of_find?_isOnBranch {table : List (Branch × Nat)} (htable : table.Perm requiredPointReleases)
    {v : KernelVersion} {entry : Branch × Nat}
    (h : table.find? (fun (branch, _) => v.isOnBranch branch.major branch.minor) = some entry) :
    entry ∈ requiredPointReleases ∧ v.branch = entry.1 := by
  have hmem := htable.mem_iff.mp (List.mem_of_find?_eq_some h)
  have hon : v.isOnBranch entry.1.major entry.1.minor = true := by simpa using List.find?_some h
  exact ⟨hmem, (isOnBranch_iff_of_mem hmem v).mp hon⟩

/-- What is found is the entry of the version's branch, in whatever order the entries stand. -/
theorem requiredReleaseIn_eq_some_iff {table : List (Branch × Nat)}
    (htable : table.Perm requiredPointReleases) (v m : KernelVersion) :
    v.requiredReleaseIn table = some m
      ↔ ∃ sub, (v.branch, sub) ∈ requiredPointReleases ∧ ofParts v.major v.minor sub = m := by
  rw [requiredReleaseIn, Option.map_eq_some_iff]
  constructor
  · rintro ⟨⟨branch, sub⟩, hfind, rfl⟩
    obtain ⟨hmem, rfl⟩ := mem_of_find?_isOnBranch htable hfind
    exact ⟨sub, hmem, rfl⟩
  · rintro ⟨sub, hmem, rfl⟩
    have hon := (isOnBranch_iff_of_mem hmem v).mpr rfl
    cases hfind : table.find? fun (branch, _) => v.isOnBranch branch.major branch.minor with
    | none =>
      exact absurd hon (List.find?_eq_none.mp hfind _ (htable.mem_iff.mpr hmem))
    | some entry =>
      obtain ⟨branch, sub'⟩ := entry
      obtain ⟨hmem', rfl⟩ := mem_of_find?_isOnBranch htable hfind
      rw [requiredPointReleases_unique hmem hmem']
      exact ⟨_, rfl, rfl⟩

theorem requiredRelease?_eq_some_iff (v m : KernelVersion) :
    v.requiredRelease? = some m
      ↔ ∃ sub, (v.branch, sub) ∈ requiredPointReleases ∧ ofParts v.major v.minor sub = m := by
  rw [requiredRelease?_eq]
  exact requiredReleaseIn_eq_some_iff (List.Perm.refl _) v m

theorem requiredReleaseIn_of_perm {table : List (Branch × Nat)}
    (htable : table.Perm requiredPointReleases) (v : KernelVersion) :
    v.requiredReleaseIn table = v.requiredRelease? := by
  apply Option.ext
  intro m
  rw [requiredReleaseIn_eq_some_iff htable, requiredRelease?_eq_some_iff]

/-- A required release is on the version's own branch. -/
theorem branch_of_requiredRelease? {v m : KernelVersion} (h : v.requiredRelease? = some m) :
    m.branch = v.branch ∧ (v.branch, m.sub) ∈ requiredPointReleases := by
  obtain ⟨sub, hmem, rfl⟩ := (requiredRelease?_eq_some_iff v m).mp h
  have hbounds : ∀ entry ∈ requiredPointReleases, entry.2 ≤ 0xffff := by decide
  have hsub : sub ≤ 0xffff := hbounds _ hmem
  rw [sub_ofParts, Nat.min_eq_left hsub, branch, major_ofParts, minor_ofParts,
    Nat.min_eq_left v.major_le, Nat.min_eq_left v.minor_le]
  exact ⟨rfl, hmem⟩

theorem requiredRelease?_of_branch {v m : KernelVersion} (hbranch : m.branch = v.branch)
    (hmem : (v.branch, m.sub) ∈ requiredPointReleases) : v.requiredRelease? = some m := by
  refine (requiredRelease?_eq_some_iff v m).mpr ⟨m.sub, hmem, ?_⟩
  have hmajor : m.major = v.major := congrArg Branch.major hbranch
  have hminor : m.minor = v.minor := congrArg Branch.minor hbranch
  rw [← hmajor, ← hminor]
  exact ofRelease_release m

/-- On one branch, versions compare by their last number. -/
theorem le_iff_of_branch {v w : KernelVersion} (h : w.branch = v.branch) : v ≤ w ↔ v.sub ≤ w.sub := by
  have hmajor : w.major = v.major := congrArg Branch.major h
  have hminor : w.minor = v.minor := congrArg Branch.minor h
  have hle := ofParts_le_iff_of_branch hmajor hminor v.sub_le
  have hself : ofParts v.major v.minor v.sub = v := ofRelease_release v
  rw [hself] at hle
  exact hle

theorem lt_iff_of_branch {v w : KernelVersion} (h : w.branch = v.branch) : v < w ↔ v.sub < w.sub := by
  have hle := le_iff_of_branch h.symm
  rw [KernelVersion.le_iff] at hle
  rw [KernelVersion.lt_iff]
  omega

/-! ## Both tables -/

/-- What the two tables say of a version, and that they agree about it. -/
structure TablesAgree (v : KernelVersion) : Prop where
  longTerm : v.isLongTerm = true ↔ v.branch ∈ ltsBranches
  required : ∀ m, v.requiredRelease? = some m
    ↔ m.branch = v.branch ∧ (v.branch, m.sub) ∈ requiredPointReleases
  isSome_required : v.requiredRelease?.isSome = true ↔ v.branch ∈ requiredPointReleases.map Prod.fst
  anyOrder : ∀ table : List (Branch × Nat), table.Perm requiredPointReleases →
    v.requiredReleaseIn table = v.requiredRelease?
  longTerm_of_required : ∀ m ∈ v.requiredRelease?, v.isLongTerm = true ∧ (v < m ↔ v.sub < m.sub)
  longTerm_iff_required : ofParts 4 19 0 ≤ v → (v.isLongTerm = true ↔ v.requiredRelease?.isSome = true)

theorem isSome_requiredRelease?_iff (v : KernelVersion) :
    v.requiredRelease?.isSome = true ↔ v.branch ∈ requiredPointReleases.map Prod.fst := by
  rw [Option.isSome_iff_exists, List.mem_map]
  constructor
  · rintro ⟨m, hm⟩
    exact ⟨_, (branch_of_requiredRelease? hm).2, rfl⟩
  · rintro ⟨⟨branch, sub⟩, hmem, rfl⟩
    exact ⟨_, (requiredRelease?_eq_some_iff v _).mpr ⟨sub, hmem, rfl⟩⟩

/-- Every branch that needs a point release has long term support, and is no older than 4.19. -/
theorem requiredPointReleases_subset : ∀ branch ∈ requiredPointReleases.map Prod.fst,
    branch ∈ ltsBranches ∧ (4 < branch.major ∨ branch.major = 4 ∧ 19 ≤ branch.minor) := by
  decide

/-- From 4.19 on, every branch with long term support needs a point release. -/
theorem ltsBranches_subset : ∀ branch ∈ ltsBranches,
    4 < branch.major ∨ branch.major = 4 ∧ 19 ≤ branch.minor →
      branch ∈ requiredPointReleases.map Prod.fst := by
  decide

theorem tablesAgree (v : KernelVersion) : TablesAgree v where
  longTerm := isLongTerm_iff_mem v
  required m := ⟨branch_of_requiredRelease?, fun ⟨hbranch, hmem⟩ => requiredRelease?_of_branch hbranch hmem⟩
  isSome_required := isSome_requiredRelease?_iff v
  anyOrder _ htable := requiredReleaseIn_of_perm htable v
  longTerm_of_required m hm := by
    obtain ⟨hbranch, hmem⟩ := branch_of_requiredRelease? hm
    have hlisted : v.branch ∈ requiredPointReleases.map Prod.fst := List.mem_map_of_mem hmem
    exact ⟨(isLongTerm_iff_mem v).mpr (requiredPointReleases_subset _ hlisted).1, lt_iff_of_branch hbranch⟩
  longTerm_iff_required hle := by
    rw [isLongTerm_iff_mem, isSome_requiredRelease?_iff]
    rw [ofParts_4_19_le_iff] at hle
    exact ⟨fun hmem => ltsBranches_subset _ hmem hle, fun hmem => (requiredPointReleases_subset _ hmem).1⟩

end KernelVersion

end BpfBoot
