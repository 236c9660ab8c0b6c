import Mathlib.Data.List.Forall2
import BpfBoot.Proofs.Text.Utf8
import BpfBoot.Text.LetterCase

/-!
# Small letters in place

Making the ASCII capitals of a text small leaves every other character as it is. In the UTF-8 form of the text
this changes single bytes. The bytes of characters outside ASCII all lie above the capitals, so none of them is
taken for one, and the form keeps its length.
-/

namespace BpfBoot.Text

/-- The second character is the small letter of the first one if that is an ASCII capital, and otherwise it is
the same character. -/
def MadeSmall (c d : Char) : Prop :=
  if 'A' ≤ c ∧ c ≤ 'Z' then d.toNat = c.toNat + 32 else d = c

/-- The byte of the small letter for the byte of an ASCII capital, and every other byte as it is. -/
def smallByte (b : UInt8) : UInt8 :=
  if 0x41 ≤ b ∧ b ≤ 0x5a then b + 0x20 else b

/-- The second text is the first one with its ASCII capitals made small, character by character and, in the
UTF-8 form, byte by byte. -/
structure IsLowered (s t : String) : Prop where
  chars : List.Forall₂ MadeSmall s.toList t.toList
  length_eq : t.length = s.length
  bytes : Utf8.encode t = (Utf8.encode s).map smallByte

/-! ## Characters -/

theorem toNat_toLower_of_capital {c : Char} (h : 65 ≤ c.toNat ∧ c.toNat ≤ 90) :
    c.toLower.toNat = c.toNat + 32 := by
  unfold Char.toLower
  rw [dif_pos (show c.val ≥ 'A'.val ∧ c.val ≤ 'Z'.val from h)]
  change (c.val + ('a'.val - 'A'.val)).toNat = c.toNat + 32
  rw [UInt32.toNat_add]
  change (c.toNat + 32) % 2 ^ 32 = c.toNat + 32
  omega

theorem toLower_of_not_capital {c : Char} (h : ¬ (65 ≤ c.toNat ∧ c.toNat ≤ 90)) : c.toLower = c := by
  unfold Char.toLower
  exact dif_neg h

theorem capital_iff {c : Char} : 'A' ≤ c ∧ c ≤ 'Z' ↔ 65 ≤ c.toNat ∧ c.toNat ≤ 90 :=
  Iff.rfl

theorem madeSmall_iff {c d : Char} : MadeSmall c d ↔ c.toLower = d := by
  unfold MadeSmall
  split
  · next hcapital =>
    rw [← Char.toNat_inj, toNat_toLower_of_capital (capital_iff.mp hcapital)]
    exact eq_comm
  · next hother =>
    rw [toLower_of_not_capital (mt capital_iff.mpr hother)]
    exact eq_comm

/-- A letter that was made small is no capital any more. -/
theorem toLower_of_madeSmall {c d : Char} (h : MadeSmall c d) : d.toLower = d := by
  obtain rfl := madeSmall_iff.mp h
  apply toLower_of_not_capital
  by_cases hcapital : 65 ≤ c.toNat ∧ c.toNat ≤ 90
  · rw [toNat_toLower_of_capital hcapital]
    omega
  · rwa [toLower_of_not_capital hcapital]

theorem forall₂_madeSmall_iff {s t : List Char} : List.Forall₂ MadeSmall s t ↔ s.map Char.toLower = t := by
  have hsmall : MadeSmall = fun c d => c.toLower = d := by
    funext c d
    exact propext madeSmall_iff
  rw [hsmall, ← List.forall₂_map_left_iff, List.forall₂_eq_eq_eq]

theorem asciiLower_asciiLower (s : String) : asciiLower (asciiLower s) = asciiLower s := by
  rw [← String.toList_inj]
  simp only [asciiLower, String.toList_map, List.map_map]
  apply List.map_congr_left
  intro c _
  exact toLower_of_madeSmall (madeSmall_iff.mpr rfl)

/-! ## Bytes -/

theorem toNat_smallByte (b : UInt8) :
    (smallByte b).toNat = if 65 ≤ b.toNat ∧ b.toNat ≤ 90 then b.toNat + 32 else b.toNat := by
  simp only [smallByte, UInt8.le_iff_toNat_le, UInt8.reduceToNat]
  split
  · rw [UInt8.toNat_add]
    change (b.toNat + 32) % 2 ^ 8 = b.toNat + 32
    omega
  · rfl

theorem encodeChar_toLower (c : Char) :
    String.utf8EncodeChar c.toLower = (String.utf8EncodeChar c).map smallByte := by
  by_cases hcapital : 65 ≤ c.toNat ∧ c.toNat ≤ 90
  · have hlower := toNat_toLower_of_capital hcapital
    obtain ⟨b, hb⟩ := Utf8.exists_byte (n := c.toNat) (by omega)
    have hsmall : (smallByte b).toNat = c.toLower.toNat := by
      rw [toNat_smallByte, hb, hlower, if_pos hcapital]
    rw [Utf8.encodeChar_one (by omega) hb, Utf8.encodeChar_one (by omega) hsmall]
    rfl
  · have hbyte : ∀ b ∈ String.utf8EncodeChar c, smallByte b = b := by
      intro b hb
      rw [← UInt8.toNat_inj, toNat_smallByte, if_neg]
      intro hrange
      have hc := (Utf8.ascii_mem_encodeChar_iff (by omega)).mp hb
      exact hcapital (hc ▸ hrange)
    rw [toLower_of_not_capital hcapital, List.map_congr_left hbyte, List.map_id']

theorem isLowered_asciiLower (s : String) : IsLowered s (asciiLower s) where
  chars := by
    rw [forall₂_madeSmall_iff, asciiLower, String.toList_map]
  length_eq := String.length_map
  bytes := by
    simp only [Utf8.encode, asciiLower, String.toList_map, List.flatMap_map, List.map_flatMap, encodeChar_toLower]

end BpfBoot.Text
