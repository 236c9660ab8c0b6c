import BpfBoot.Proofs.Kernel.Branches

/-!
# Versions in 32 bits

A version is packed by shifts and additions of words. Each component is limited to its field before it is
shifted, so no step needs more than 32 bits and no field runs into the next one, and the components come out
again by shifts and masks. So versions compare by their components, the first that differs deciding, and a
version that is written out is read back from any text that goes on with anything but a digit.
-/

namespace BpfBoot.KernelVersion

/-! ## Words -/

/-- The word shifted to the left, if all its bits stay in it. -/
def shiftWord? (word count : UInt32) : Option UInt32 :=
  if word.toNat <<< count.toNat < UInt32.size then some (word <<< count) else none

/-- The sum of two words, if it is a word. -/
def addWords? (word word' : UInt32) : Option UInt32 :=
  if word.toNat + word'.toNat < UInt32.size then some (word + word') else none

/-- The smaller of a component and the largest value of its field. -/
def limitWord (component largest : UInt32) : UInt32 :=
  if largest < component then largest else component

/-- The components packed word by word; nothing if one of the steps needs more than a word. -/
def packWords? (major minor sub : UInt32) : Option UInt32 := do
  let high ← shiftWord? (limitWord major 0xff) 24
  let middle ← shiftWord? (limitWord minor 0xff) 16
  let upper ← addWords? high middle
  addWords? upper (limitWord sub 0xffff)

/-- The version that a word holds. -/
def ofWord (word : UInt32) : KernelVersion :=
  ⟨word.toNat, word.toNat_lt⟩

theorem toNat_limitWord (component largest : UInt32) :
    (limitWord component largest).toNat = min component.toNat largest.toNat := by
  rw [limitWord]
  split
  · next hlt =>
    have := UInt32.lt_iff_toNat_lt.mp hlt
    omega
  · next hle =>
    have := mt UInt32.lt_iff_toNat_lt.mpr hle
    omega

theorem exists_shiftWord? (word count : UInt32) (hcount : count.toNat < 32)
    (h : word.toNat <<< count.toNat < UInt32.size) :
    ∃ shifted, shiftWord? word count = some shifted ∧ shifted.toNat = word.toNat <<< count.toNat := by
  refine ⟨word <<< count, if_pos h, ?_⟩
  rw [UInt32.toNat_shiftLeft, Nat.mod_eq_of_lt hcount]
  exact Nat.mod_eq_of_lt h

theorem exists_addWords? (word word' : UInt32) (h : word.toNat + word'.toNat < UInt32.size) :
    ∃ sum, addWords? word word' = some sum ∧ sum.toNat = word.toNat + word'.toNat := by
  refine ⟨word + word', if_pos h, ?_⟩
  rw [UInt32.toNat_add]
  exact Nat.mod_eq_of_lt h

/-- Packing never leaves the 32 bits. -/
theorem exists_packWords? (major minor sub : UInt32) :
    ∃ word, packWords? major minor sub = some word
      ∧ ofWord word = ofParts major.toNat minor.toNat sub.toNat := by
  have hmajor : (limitWord major 0xff).toNat = min major.toNat 0xff := toNat_limitWord major 0xff
  have hminor : (limitWord minor 0xff).toNat = min minor.toNat 0xff := toNat_limitWord minor 0xff
  have hsub : (limitWord sub 0xffff).toNat = min sub.toNat 0xffff := toNat_limitWord sub 0xffff
  obtain ⟨high, hhigh, hhighValue⟩ := exists_shiftWord? (limitWord major 0xff) 24 (by decide)
    (by simp only [hmajor, UInt32.reduceToNat, Nat.shiftLeft_eq, UInt32.size]; omega)
  obtain ⟨middle, hmiddle, hmiddleValue⟩ := exists_shiftWord? (limitWord minor 0xff) 16 (by decide)
    (by simp only [hminor, UInt32.reduceToNat, Nat.shiftLeft_eq, UInt32.size]; omega)
  simp only [hmajor, UInt32.reduceToNat, Nat.shiftLeft_eq] at hhighValue
  simp only [hminor, UInt32.reduceToNat, Nat.shiftLeft_eq] at hmiddleValue
  obtain ⟨upper, hupper, hupperValue⟩ := exists_addWords? high middle (by simp only [UInt32.size]; omega)
  obtain ⟨word, hword, hwordValue⟩ := exists_addWords? upper (limitWord sub 0xffff)
    (by simp only [UInt32.size]; omega)
  refine ⟨word, ?_, ?_⟩
  · simp only [packWords?, hhigh, hmiddle, hupper, hword, Option.bind_eq_bind, Option.bind_some]
  · simp only [ofWord, ofParts, KernelVersion.mk.injEq]
    omega

theorem toNat_shift_24 (word : UInt32) : (word >>> 24).toNat = (ofWord word).major := by
  rw [UInt32.toNat_shiftRight, KernelVersion.major, Nat.shiftRight_eq_div_pow]
  rfl

theorem toNat_shift_16_and (word : UInt32) : (word >>> 16 &&& 0xff).toNat = (ofWord word).minor := by
  rw [UInt32.toNat_and, UInt32.toNat_shiftRight, KernelVersion.minor, Nat.shiftRight_eq_div_pow]
  exact Nat.and_two_pow_sub_one_eq_mod _ 8

theorem toNat_and (word : UInt32) : (word &&& 0xffff).toNat = (ofWord word).sub := by
  rw [UInt32.toNat_and, KernelVersion.sub]
  exact Nat.and_two_pow_sub_one_eq_mod _ 16

/-! ## The order of versions -/

/-- The order of two versions by the first of their components that differs. -/
def compareComponents (v w : KernelVersion) : Ordering :=
  (Ord.compare v.major w.major).then ((Ord.compare v.minor w.minor).then (Ord.compare v.sub w.sub))

/-- Of two numbers in a base, the leading parts decide first. -/
theorem compare_mul_add {base low low' : Nat} (hlow : low < base) (hlow' : low' < base) (high high' : Nat) :
    Ord.compare (high * base + low) (high' * base + low')
      = (Ord.compare high high').then (Ord.compare low low') := by
  rcases Nat.lt_trichotomy high high' with hlt | rfl | hgt
  · have := Nat.mul_le_mul_right base (Nat.succ_le_of_lt hlt)
    rw [Nat.succ_mul] at this
    rw [Nat.compare_eq_lt.mpr hlt, Nat.compare_eq_lt.mpr (by omega)]
    rfl
  · rw [Nat.compare_eq_eq.mpr rfl, Ordering.eq_then]
    rcases Nat.lt_trichotomy low low' with hlt | rfl | hgt
    · rw [Nat.compare_eq_lt.mpr hlt, Nat.compare_eq_lt.mpr (by omega)]
    · rw [Nat.compare_eq_eq.mpr rfl, Nat.compare_eq_eq.mpr rfl]
    · rw [Nat.compare_eq_gt.mpr hgt, Nat.compare_eq_gt.mpr (by omega)]
  · have := Nat.mul_le_mul_right base (Nat.succ_le_of_lt hgt)
    rw [Nat.succ_mul] at this
    rw [Nat.compare_eq_gt.mpr hgt, Nat.compare_eq_gt.mpr (by omega)]
    rfl

theorem packed_eq (v : KernelVersion) :
    v.packed = (v.major * 0x100 + v.minor) * 0x10000 + v.sub := by
  rw [KernelVersion.major, KernelVersion.minor, KernelVersion.sub]
  omega

theorem compare_eq (v w : KernelVersion) : v.compare w = v.compareComponents w := by
  have hminor (v : KernelVersion) : v.minor < 0x100 := Nat.lt_succ_of_le v.minor_le
  have hsub (v : KernelVersion) : v.sub < 0x10000 := Nat.lt_succ_of_le v.sub_le
  rw [KernelVersion.compare, packed_eq, packed_eq, compare_mul_add (hsub v) (hsub w),
    compare_mul_add (hminor v) (hminor w), Ordering.then_assoc, compareComponents]

theorem le_iff_release (v w : KernelVersion) : v ≤ w ↔ v.release ≤ w.release := by
  rw [KernelVersion.le_iff, packed_eq, packed_eq, KernelRelease.le_iff]
  have := v.minor_le
  have := v.sub_le
  have := w.minor_le
  have := w.sub_le
  simp only [release]
  omega

/-- Releases whose first two components fit their fields are packed in order; a point release that is too
large only gets closer to the next branch. -/
theorem ofRelease_mono {r r' : KernelRelease} (hmajor : r'.major ≤ 0xff) (hminor : r.minor ≤ 0xff)
    (hminor' : r'.minor ≤ 0xff) (h : r ≤ r') : ofRelease r ≤ ofRelease r' := by
  rw [KernelRelease.le_iff] at h
  rw [KernelVersion.le_iff, ofRelease, ofRelease, packed_ofParts, packed_ofParts]
  omega

/-! ## Versions as they are written -/

theorem display_eq (v : KernelVersion) :
    v.display = String.ofList (['.'].intercalate (v.release.written 0 0 0)) := by
  apply String.toList_inj.mp
  simp [display, release, KernelRelease.written, Text.paddedDecimal, Text.decimal]

/-- A version is read back, whatever comes after it, unless its last number goes on. -/
theorem parse_display_append (v : KernelVersion) {suffix : String} (hsuffix : StopsDigits suffix.toList) :
    parse (v.display ++ suffix) = v := by
  have htext : v.display ++ suffix
      = String.ofList (['.'].intercalate (v.release.written 0 0 0) ++ suffix.toList) := by
    rw [display_eq, String.ofList_append, String.ofList_toList]
  rw [htext, parse_written v.release 0 0 0 hsuffix, ofRelease_release]

theorem display_injective : Function.Injective display := by
  have hparse (v : KernelVersion) : parse v.display = v := by
    have hempty : StopsDigits "".toList := by rintro _ ⟨⟩
    simpa using v.parse_display_append hempty
  exact Function.LeftInverse.injective hparse

/-! ## Both together -/

/-- What is kept of a version when it is packed, compared, written out and read. -/
structure PacksExactly : Prop where
  word : ∀ major minor sub : UInt32, ∃ word, packWords? major minor sub = some word
    ∧ ofWord word = ofParts major.toNat minor.toNat sub.toNat
  fields : ∀ word : UInt32, (word >>> 24).toNat = (ofWord word).major
    ∧ (word >>> 16 &&& 0xff).toNat = (ofWord word).minor ∧ (word &&& 0xffff).toNat = (ofWord word).sub
  components : ∀ major minor sub, (ofParts major minor sub).major = min major 255
    ∧ (ofParts major minor sub).minor = min minor 255 ∧ (ofParts major minor sub).sub = min sub 65535
  ofComponents : ∀ v : KernelVersion, ofParts v.major v.minor v.sub = v
  compare : ∀ v w : KernelVersion, v.compare w = v.compareComponents w
  le : ∀ v w : KernelVersion, v ≤ w ↔ v.release ≤ w.release
  mono : ∀ r r' : KernelRelease, r.major ≤ 255 → r.minor ≤ 255 → r'.major ≤ 255 → r'.minor ≤ 255 →
    r ≤ r' → ofRelease r ≤ ofRelease r'
  parse_display : ∀ (v : KernelVersion) (suffix : String), StopsDigits suffix.toList →
    parse (v.display ++ suffix) = v
  display_injective : Function.Injective display

theorem packsExactly : PacksExactly where
  word := exists_packWords?
  fields word := ⟨toNat_shift_24 word, toNat_shift_16_and word, toNat_and word⟩
  components _ _ _ := ⟨major_ofParts .., minor_ofParts .., sub_ofParts ..⟩
  ofComponents := ofRelease_release
  compare := compare_eq
  le := le_iff_release
  mono _ _ _ hminor hmajor' hminor' h := ofRelease_mono hmajor' hminor hminor' h
  parse_display v _ hsuffix := v.parse_display_append hsuffix
  display_injective := display_injective

end BpfBoot.KernelVersion
