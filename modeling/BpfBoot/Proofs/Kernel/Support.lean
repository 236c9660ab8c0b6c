import BpfBoot.Bootstrap

/-!
# Kernels that Android V supports

A kernel goes unwarned if it is on a branch with long term support and has reached the point release that
the branch needs. The two tables of branches are not the same: the one for long term support also lists
branches that are older than any kernel that Android V starts on. From 4.19 on they list the same
branches, so what remains of both is one table of releases.
-/

namespace BpfBoot

namespace KernelVersion

/-- A major number that is too large counts as the largest; a minor number that is the largest or larger
has no next one. -/
theorem isOnBranch_iff_of_any (v : KernelVersion) (major minor : Nat) :
    v.isOnBranch major minor = true ↔ v.major = min major 0xff ∧ v.minor = minor ∧ minor < 0xff := by
  have hpacked := v.packed_lt
  simp only [isOnBranch, isAtLeast, Bool.and_eq_true, Bool.not_eq_true', decide_eq_true_iff,
    decide_eq_false_iff_not, le_iff, packed_ofParts, KernelVersion.major, KernelVersion.minor]
  omega

/-- Being on a branch means having its major and minor number. A branch whose minor number is the greatest
possible has no successor, so it is left out. -/
theorem isOnBranch_iff (v : KernelVersion) {major minor : Nat} (hmajor : major ≤ 0xff)
    (hminor : minor < 0xff) :
    v.isOnBranch major minor = true ↔ v.major = major ∧ v.minor = minor := by
  rw [isOnBranch_iff_of_any, Nat.min_eq_left hmajor, and_iff_left hminor]

theorem isOnBranch_eq (v : KernelVersion) {major minor : Nat} (hmajor : major ≤ 0xff)
    (hminor : minor < 0xff) :
    v.isOnBranch major minor = (v.major == major && v.minor == minor) := by
  rw [Bool.eq_iff_iff, isOnBranch_iff v hmajor hminor, Bool.and_eq_true, beq_iff_eq, beq_iff_eq]

/-- Within a branch, releases compare by their last number. -/
theorem ofParts_le_iff_of_branch {v : KernelVersion} {major minor sub : Nat}
    (hmajor : v.major = major) (hminor : v.minor = minor) (hsub : sub ≤ 0xffff) :
    ofParts major minor sub ≤ v ↔ sub ≤ v.sub := by
  have hpacked := v.packed_lt
  simp only [le_iff, packed_ofParts, KernelVersion.major, KernelVersion.minor,
    KernelVersion.sub] at *
  omega

/-- The versions from 4.19 on, by their major and minor number. -/
theorem ofParts_4_19_le_iff (v : KernelVersion) :
    ofParts 4 19 0 ≤ v ↔ 4 < v.major ∨ v.major = 4 ∧ 19 ≤ v.minor := by
  have hpacked := v.packed_lt
  simp only [le_iff, packed_ofParts, KernelVersion.major, KernelVersion.minor]
  omega

/-- The first release of each branch that Android V supports. -/
def supportedReleases : List (Nat × Nat × Nat) :=
  [(4, 19, 236), (5, 4, 186), (5, 10, 199), (5, 15, 136), (6, 1, 57), (6, 6, 0)]

/-- The first release of each branch with long term support that goes unwarned. -/
def maintainedReleases : List (Nat × Nat × Nat) :=
  [(4, 4, 0), (4, 9, 0), (4, 14, 0)] ++ supportedReleases

/-- The kernel is on a branch with long term support and has come far enough on it. -/
def IsMaintained (v : KernelVersion) : Prop :=
  ∃ release ∈ maintainedReleases, v.major = release.1 ∧ v.minor = release.2.1 ∧ release.2.2 ≤ v.sub

instance (v : KernelVersion) : Decidable v.IsMaintained :=
  inferInstanceAs (Decidable (∃ release ∈ maintainedReleases, _))

theorem isMaintained_iff {v : KernelVersion} :
    v.IsMaintained ↔ (v.major = 4 ∧ v.minor ∈ [4, 9, 14])
      ∨ ∃ sub ≤ v.sub, (v.major, v.minor, sub) ∈ supportedReleases := by
  rw [IsMaintained, maintainedReleases]
  constructor
  · rintro ⟨⟨major, minor, sub⟩, hrelease, rfl, rfl, hsub⟩
    rcases List.mem_append.mp hrelease with hold | hsupported
    · left
      simp only [List.mem_cons, List.not_mem_nil, or_false, Prod.mk.injEq] at hold
      rcases hold with ⟨hmajor, hminor, -⟩ | ⟨hmajor, hminor, -⟩ | ⟨hmajor, hminor, -⟩
      all_goals simp [hmajor, hminor]
    · exact .inr ⟨sub, hsub, hsupported⟩
  · rintro (⟨hmajor, hminor⟩ | ⟨sub, hsub, hsupported⟩)
    · refine ⟨(v.major, v.minor, 0), List.mem_append_left _ ?_, rfl, rfl, Nat.zero_le _⟩
      simp only [List.mem_cons, List.not_mem_nil, or_false] at hminor
      rcases hminor with hminor | hminor | hminor
      all_goals simp [hmajor, hminor]
    · exact ⟨_, List.mem_append_right _ hsupported, rfl, rfl, hsub⟩

/-- The branches before 4.19 have long term support, but no point release is asked of them. -/
theorem requiredRelease?_eq_none {v : KernelVersion} (hmajor : v.major = 4) (hminor : v.minor ∈ [4, 9, 14]) :
    v.requiredRelease? = none := by
  simp only [List.mem_cons, List.not_mem_nil, or_false] at hminor
  unfold requiredRelease? requiredPointReleases
  rcases hminor with hminor | hminor | hminor
  all_goals simp [isOnBranch_eq, hmajor, hminor]

/-- On the branches from 4.19 on, the table of point releases names the first supported release. -/
theorem requiredRelease?_of_mem {v : KernelVersion} {sub : Nat}
    (h : (v.major, v.minor, sub) ∈ supportedReleases) :
    v.requiredRelease? = some (ofParts v.major v.minor sub) := by
  simp only [supportedReleases, List.mem_cons, List.not_mem_nil, or_false, Prod.mk.injEq] at h
  unfold requiredRelease? requiredPointReleases
  rcases h with ⟨hmajor, hminor, rfl⟩ | ⟨hmajor, hminor, rfl⟩ | ⟨hmajor, hminor, rfl⟩
    | ⟨hmajor, hminor, rfl⟩ | ⟨hmajor, hminor, rfl⟩ | ⟨hmajor, hminor, rfl⟩
  all_goals simp [isOnBranch_eq, hmajor, hminor]

theorem isLongTerm_iff {v : KernelVersion} :
    v.isLongTerm = true ↔ (v.major = 4 ∧ v.minor ∈ [4, 9, 14])
      ∨ ∃ sub, (v.major, v.minor, sub) ∈ supportedReleases := by
  have hlts : v.isLongTerm = true ↔ ∃ branch ∈ ltsBranches,
      v.isOnBranch branch.major branch.minor = true := List.any_eq_true
  rw [hlts]
  constructor
  · rintro ⟨branch, hbranch, hon⟩
    simp only [ltsBranches, List.mem_cons, List.not_mem_nil, or_false] at hbranch
    rcases hbranch with rfl | rfl | rfl | rfl | rfl | rfl | rfl | rfl | rfl
    all_goals
      rw [isOnBranch_iff v (by decide) (by decide)] at hon
      simp [supportedReleases, hon.1, hon.2]
  · intro h
    refine ⟨⟨v.major, v.minor⟩, ?_, ?_⟩
    · rcases h with ⟨hmajor, hminor⟩ | ⟨sub, hsub⟩
      · simp only [List.mem_cons, List.not_mem_nil, or_false] at hminor
        rcases hminor with hminor | hminor | hminor
        all_goals simp [ltsBranches, hmajor, hminor]
      · simp only [supportedReleases, List.mem_cons, List.not_mem_nil, or_false, Prod.mk.injEq] at hsub
        rcases hsub with ⟨hmajor, hminor, -⟩ | ⟨hmajor, hminor, -⟩ | ⟨hmajor, hminor, -⟩
          | ⟨hmajor, hminor, -⟩ | ⟨hmajor, hminor, -⟩ | ⟨hmajor, hminor, -⟩
        all_goals simp [ltsBranches, hmajor, hminor]
    · have hbounds : v.major ≤ 0xff ∧ v.minor < 0xff := by
        simp only [supportedReleases, List.mem_cons, List.not_mem_nil, or_false, Prod.mk.injEq] at h
        omega
      exact (isOnBranch_iff v hbounds.1 hbounds.2).mpr ⟨rfl, rfl⟩

end KernelVersion

open KernelVersion

/-- A kernel goes unwarned just if its branch has long term support and has come far enough. -/
theorem Bootstrap.kernelWarnings_eq_nil_iff {kernel : KernelVersion} :
    kernelWarnings kernel = [] ↔ kernel.IsMaintained := by
  have hbound {sub : Nat} (hmem : (kernel.major, kernel.minor, sub) ∈ supportedReleases) :
      sub ≤ 0xffff := by
    simp only [supportedReleases, List.mem_cons, List.not_mem_nil, or_false, Prod.mk.injEq] at hmem
    omega
  unfold kernelWarnings
  rw [List.append_eq_nil_iff, isMaintained_iff]
  constructor
  · rintro ⟨hlts, hrelease⟩
    have hlong : kernel.isLongTerm = true := by
      cases hlong : kernel.isLongTerm with
      | true => rfl
      | false =>
          rw [hlong] at hlts
          cases hlts
    rcases isLongTerm_iff.mp hlong with hold | ⟨sub, hmem⟩
    · exact .inl hold
    refine .inr ⟨sub, ?_, hmem⟩
    rw [requiredRelease?_of_mem hmem] at hrelease
    apply (ofParts_le_iff_of_branch rfl rfl (hbound hmem)).mp
    refine Nat.le_of_not_lt fun hlt => ?_
    have hwarned : kernel < ofParts kernel.major kernel.minor sub := hlt
    simp only [if_pos hwarned] at hrelease
    cases hrelease
  · rintro (⟨hmajor, hminor⟩ | ⟨sub, hsub, hmem⟩)
    · rw [if_pos (isLongTerm_iff.mpr (.inl ⟨hmajor, hminor⟩)), requiredRelease?_eq_none hmajor hminor]
      exact ⟨rfl, rfl⟩
    · have hle : ofParts kernel.major kernel.minor sub ≤ kernel :=
        (ofParts_le_iff_of_branch rfl rfl (hbound hmem)).mpr hsub
      rw [if_pos (isLongTerm_iff.mpr (.inr ⟨sub, hmem⟩)), requiredRelease?_of_mem hmem]
      exact ⟨rfl, if_neg (Nat.not_lt_of_le hle)⟩

/-- From 4.19 on, no branch is left that could do without a point release. -/
theorem KernelVersion.isMaintained_iff_of_le {kernel : KernelVersion} (h : ofParts 4 19 0 ≤ kernel) :
    kernel.IsMaintained
      ↔ ∃ sub ≤ kernel.sub, (kernel.major, kernel.minor, sub) ∈ supportedReleases := by
  rw [isMaintained_iff, or_iff_right]
  rintro ⟨hmajor, hminor⟩
  rw [ofParts_4_19_le_iff] at h
  simp only [List.mem_cons, List.not_mem_nil, or_false] at hminor
  omega

end BpfBoot
