import BpfBoot.Proofs.Kernel.Reading
import BpfBoot.Proofs.Kernel.Support
import Mathlib.Data.Prod.Lex

/-!
# Kernels with large numbers

A release may have components of any size, and a version keeps only as much of them as its fields hold. No
question that the loader asks about a kernel can tell the two apart: the floors and branches that it compares
with lie below the largest values of the fields, so a component that was limited is on the same side of them.
-/

namespace BpfBoot

/-- A release with its components as they are written. -/
structure KernelRelease where
  major : Nat
  minor : Nat
  sub : Nat
  deriving DecidableEq, Repr

namespace KernelRelease

/-- Releases compare by their first components that differ. -/
def lexicographic (r : KernelRelease) : ℕ ×ₗ ℕ ×ₗ ℕ :=
  toLex (r.major, toLex (r.minor, r.sub))

instance : LE KernelRelease := ⟨fun r r' => r.lexicographic ≤ r'.lexicographic⟩

instance : LT KernelRelease := ⟨fun r r' => r.lexicographic < r'.lexicographic⟩

theorem le_iff {r r' : KernelRelease} :
    r ≤ r' ↔ r.major < r'.major ∨ r.major = r'.major
      ∧ (r.minor < r'.minor ∨ r.minor = r'.minor ∧ r.sub ≤ r'.sub) := by
  change r.lexicographic ≤ r'.lexicographic ↔ _
  simp only [lexicographic, Prod.Lex.toLex_le_toLex]

theorem lt_iff {r r' : KernelRelease} :
    r < r' ↔ r.major < r'.major ∨ r.major = r'.major
      ∧ (r.minor < r'.minor ∨ r.minor = r'.minor ∧ r.sub < r'.sub) := by
  change r.lexicographic < r'.lexicographic ↔ _
  simp only [lexicographic, Prod.Lex.toLex_lt_toLex]

def branch (r : KernelRelease) : Branch :=
  ⟨r.major, r.minor⟩

def SupportsUdpOffload (r : KernelRelease) : Prop :=
  ⟨4, 14, 222⟩ ≤ r ∧ r < ⟨4, 19, 0⟩ ∨ ⟨4, 19, 176⟩ ≤ r ∧ r < ⟨5, 4, 0⟩ ∨ ⟨5, 4, 98⟩ ≤ r

/-- The release that the branch must have reached on Android V, if there is one. -/
def requiredRelease? (r : KernelRelease) : Option KernelRelease :=
  (requiredPointReleases.lookup r.branch).map fun sub => ⟨r.major, r.minor, sub⟩

end KernelRelease

namespace KernelVersion

open KernelRelease

def ofRelease (r : KernelRelease) : KernelVersion :=
  ofParts r.major r.minor r.sub

def release (v : KernelVersion) : KernelRelease :=
  ⟨v.major, v.minor, v.sub⟩

/-- A release that the fields of a version hold, the largest major and minor numbers excepted. -/
def IsModest (r : KernelRelease) : Prop :=
  r.major < 0xff ∧ r.minor < 0xff ∧ r.sub ≤ 0xffff

instance (r : KernelRelease) : Decidable (IsModest r) :=
  inferInstanceAs (Decidable (_ ∧ _))

theorem ofRelease_le_iff {floor r : KernelRelease} (h : IsModest floor) :
    ofRelease floor ≤ ofRelease r ↔ floor ≤ r := by
  obtain ⟨hmajor, hminor, hsub⟩ := h
  rw [KernelVersion.le_iff, KernelRelease.le_iff, ofRelease, ofRelease, packed_ofParts, packed_ofParts]
  omega

theorem ofRelease_lt_iff {bound r : KernelRelease} (h : IsModest bound) :
    ofRelease r < ofRelease bound ↔ r < bound := by
  obtain ⟨hmajor, hminor, hsub⟩ := h
  rw [KernelVersion.lt_iff, KernelRelease.lt_iff, ofRelease, ofRelease, packed_ofParts, packed_ofParts]
  omega

theorem isAtLeast_ofRelease {floor : KernelRelease} (h : IsModest floor) (r : KernelRelease) :
    (ofRelease r).isAtLeast floor.major floor.minor floor.sub = true ↔ floor ≤ r := by
  rw [isAtLeast, decide_eq_true_iff]
  exact ofRelease_le_iff h

theorem isOnBranch_ofRelease {branch : Branch} (hmajor : branch.major < 0xff) (hminor : branch.minor < 0xff)
    (r : KernelRelease) : (ofRelease r).isOnBranch branch.major branch.minor = true ↔ r.branch = branch := by
  rw [isOnBranch_iff _ (by omega) hminor, ofRelease, major_ofParts, minor_ofParts, KernelRelease.branch,
    Branch.mk.injEq]
  omega

theorem isLongTerm_ofRelease (r : KernelRelease) :
    (ofRelease r).isLongTerm = true ↔ r.branch ∈ ltsBranches := by
  have hbounds : ∀ branch ∈ ltsBranches, branch.major < 0xff ∧ branch.minor < 0xff := by decide
  rw [isLongTerm, List.any_eq_true]
  constructor
  · rintro ⟨branch, hbranch, hon⟩
    obtain ⟨hmajor, hminor⟩ := hbounds branch hbranch
    rw [(isOnBranch_ofRelease hmajor hminor r).mp hon]
    exact hbranch
  · intro hbranch
    obtain ⟨hmajor, hminor⟩ := hbounds r.branch hbranch
    exact ⟨r.branch, hbranch, (isOnBranch_ofRelease hmajor hminor r).mpr rfl⟩

theorem supportsUdpOffload_ofRelease (r : KernelRelease) :
    (ofRelease r).supportsUdpOffload = true ↔ r.SupportsUdpOffload := by
  have hle {floor : KernelRelease} (h : IsModest floor) :
      ofParts floor.major floor.minor floor.sub ≤ ofRelease r ↔ floor ≤ r := ofRelease_le_iff h
  have hlt {bound : KernelRelease} (h : IsModest bound) :
      ofRelease r < ofParts bound.major bound.minor bound.sub ↔ r < bound := ofRelease_lt_iff h
  simp only [supportsUdpOffload, isInRange, Bool.or_eq_true, Bool.and_eq_true, decide_eq_true_eq]
  rw [@hle ⟨4, 14, 222⟩ (by decide), @hlt ⟨4, 19, 0⟩ (by decide), @hle ⟨4, 19, 176⟩ (by decide),
    @hlt ⟨5, 4, 0⟩ (by decide), @isAtLeast_ofRelease ⟨5, 4, 98⟩ (by decide) r, or_assoc]
  exact Iff.rfl

theorem release_ofRelease {r : KernelRelease} (h : IsModest r) : (ofRelease r).release = r := by
  obtain ⟨hmajor, hminor, hsub⟩ := h
  rw [release, ofRelease, major_ofParts, minor_ofParts, sub_ofParts, Nat.min_eq_left (by omega),
    Nat.min_eq_left (by omega), Nat.min_eq_left hsub]

/-- A test that only the branch's own entries pass finds what looking the branch up finds. -/
theorem find?_eq_lookup {table : List (Branch × Nat)} {branch : Branch} {test : Branch × Nat → Bool}
    (htest : ∀ entry ∈ table, test entry = (branch == entry.1)) :
    table.find? test = (table.lookup branch).map fun sub => (branch, sub) := by
  induction table with
  | nil => rfl
  | cons entry table ih =>
    have hrest := ih fun other hother => htest other (List.mem_cons_of_mem entry hother)
    have hentry := htest entry List.mem_cons_self
    rw [List.find?_cons, hentry, List.lookup_cons, hrest]
    cases hbranch : branch == entry.1 with
    | true =>
      rw [beq_iff_eq] at hbranch
      subst hbranch
      rfl
    | false => rfl

theorem requiredRelease?_ofRelease (r : KernelRelease) :
    (ofRelease r).requiredRelease? = r.requiredRelease?.map ofRelease := by
  have hbounds : ∀ entry ∈ requiredPointReleases, entry.1.major < 0xff ∧ entry.1.minor < 0xff := by
    decide
  have hfind : requiredPointReleases.find?
        (fun entry => (ofRelease r).isOnBranch entry.1.major entry.1.minor)
      = (requiredPointReleases.lookup r.branch).map fun sub => (r.branch, sub) := by
    refine find?_eq_lookup fun entry hentry => ?_
    obtain ⟨hmajor, hminor⟩ := hbounds entry hentry
    rw [Bool.eq_iff_iff, beq_iff_eq]
    exact isOnBranch_ofRelease hmajor hminor r
  have hrequired : (ofRelease r).requiredRelease?
      = (requiredPointReleases.find? fun entry =>
            (ofRelease r).isOnBranch entry.1.major entry.1.minor).map
          fun entry => ofParts entry.1.major entry.1.minor entry.2 := rfl
  rw [hrequired, hfind, KernelRelease.requiredRelease?, Option.map_map, Option.map_map]
  rfl

theorem isModest_of_mem_requiredRelease? {r required : KernelRelease}
    (h : required ∈ r.requiredRelease?) : IsModest required := by
  have hbounds : ∀ entry ∈ requiredPointReleases, IsModest ⟨entry.1.major, entry.1.minor, entry.2⟩ := by
    decide
  obtain ⟨sub, hlookup, rfl⟩ := Option.map_eq_some_iff.mp h
  obtain ⟨before, after, htable, -⟩ := List.lookup_eq_some_iff.mp hlookup
  exact hbounds (r.branch, sub) (htable ▸ by simp)

/-- The floors that a kernel must reach, by Android release and for programs of 32 bits. -/
def floors : List KernelRelease :=
  [⟨4, 9, 0⟩, ⟨4, 14, 0⟩, ⟨4, 19, 0⟩, ⟨6, 2, 0⟩]

/-- What the loader asks about a kernel has the same answers for a version and for a release. -/
structure AnswersAs (v : KernelVersion) (r : KernelRelease) : Prop where
  floors : ∀ floor ∈ floors, v.isAtLeast floor.major floor.minor floor.sub = true ↔ floor ≤ r
  longTerm : v.isLongTerm = true ↔ r.branch ∈ ltsBranches
  udpOffload : v.supportsUdpOffload = true ↔ r.SupportsUdpOffload
  required : v.requiredRelease?.map release = r.requiredRelease?
  below : ∀ required ∈ v.requiredRelease?, v < required ↔ r < required.release

theorem answersAs_ofRelease (r : KernelRelease) : AnswersAs (ofRelease r) r where
  floors floor hfloor := by
    have hmodest : ∀ floor ∈ KernelVersion.floors, IsModest floor := by decide
    exact isAtLeast_ofRelease (hmodest floor hfloor) r
  longTerm := isLongTerm_ofRelease r
  udpOffload := supportsUdpOffload_ofRelease r
  required := by
    rw [requiredRelease?_ofRelease, Option.map_map]
    cases hrequired : r.requiredRelease? with
    | none => rfl
    | some required =>
      have hmodest := isModest_of_mem_requiredRelease? hrequired
      exact congrArg some (release_ofRelease hmodest)
  below := by
    rw [requiredRelease?_ofRelease]
    rintro required hrequired
    obtain ⟨required, hmem, rfl⟩ := Option.map_eq_some_iff.mp hrequired
    have hmodest := isModest_of_mem_requiredRelease? hmem
    rw [release_ofRelease hmodest]
    exact ofRelease_lt_iff hmodest

/-! ## Releases as they are written -/

end KernelVersion

namespace KernelRelease

/-- The components in base ten, each with some zeros before it. -/
def written (r : KernelRelease) (zeros₁ zeros₂ zeros₃ : Nat) : List (List Char) :=
  [Text.paddedDecimal zeros₁ r.major, Text.paddedDecimal zeros₂ r.minor, Text.paddedDecimal zeros₃ r.sub]

end KernelRelease

namespace KernelVersion

theorem leads_written (r : KernelRelease) (zeros₁ zeros₂ zeros₃ : Nat) {suffix : List Char}
    (hsuffix : StopsDigits suffix) :
    Leads (r.written zeros₁ zeros₂ zeros₃)
      (['.'].intercalate (r.written zeros₁ zeros₂ zeros₃) ++ suffix) suffix where
  numerals := by
    simp [KernelRelease.written, Text.isNumeral_paddedDecimal]
  count := ⟨by simp [KernelRelease.written], Nat.le_refl 3⟩
  split := rfl
  maximal := hsuffix

/-- A release that is read has its components limited to the fields, and to nothing less. -/
theorem parse_written (r : KernelRelease) (zeros₁ zeros₂ zeros₃ : Nat) {suffix : List Char}
    (hsuffix : StopsDigits suffix) :
    parse (String.ofList (['.'].intercalate (r.written zeros₁ zeros₂ zeros₃) ++ suffix)) = ofRelease r := by
  have hleads := leads_written r zeros₁ zeros₂ zeros₃ hsuffix
  have hcount := (exists_leadingRuns_append 3 (['.'].intercalate (r.written zeros₁ zeros₂ zeros₃) ++ suffix)).2.1
  have hruns : r.written zeros₁ zeros₂ zeros₃ = leadingRuns 3 _ := hleads.isPrefix.eq_of_length_le hcount
  rw [parse, String.toList_ofList, hleads.dropSpace_eq, ← hruns, ofRuns_eq hleads.numerals]
  simp only [partNumber, KernelRelease.written, List.getElem?_cons_zero, List.getElem?_cons_succ,
    Option.map_some, Option.getD_some, Text.ofDigitChars_paddedDecimal]
  rw [ofRelease, ofParts, ofParts]
  simp

/-- However large its components are, a release that is read is judged as it is written. -/
theorem parse_answers_exactly (r : KernelRelease) (zeros₁ zeros₂ zeros₃ : Nat) {suffix : List Char}
    (hsuffix : StopsDigits suffix) :
    AnswersAs (parse (String.ofList (['.'].intercalate (r.written zeros₁ zeros₂ zeros₃) ++ suffix))) r := by
  rw [parse_written r zeros₁ zeros₂ zeros₃ hsuffix]
  exact answersAs_ofRelease r

/-- A point release of 33 bits, whose lowest 32 bits are zero. -/
theorem parse_answers_exactly_past_32_bits :
    StopsDigits "-rc1".toList ∧ AnswersAs (parse "4.014.4294967296-rc1") ⟨4, 14, 4294967296⟩ := by
  have hsuffix : StopsDigits "-rc1".toList := by
    rintro _ ⟨⟩
    rfl
  have htext : String.ofList
      (['.'].intercalate (KernelRelease.written ⟨4, 14, 4294967296⟩ 0 1 0) ++ "-rc1".toList)
        = "4.014.4294967296-rc1" := by
    decide +kernel
  exact ⟨hsuffix, htext ▸ parse_answers_exactly ⟨4, 14, 4294967296⟩ 0 1 0 hsuffix⟩

end KernelVersion

end BpfBoot
