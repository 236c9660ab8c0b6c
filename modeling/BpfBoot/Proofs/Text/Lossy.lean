import BpfBoot.Proofs.Text.Utf8

/-!
# Texts that are read in spite of errors

Reading a byte string leniently puts a sign of replacement for whatever is no character. An ASCII byte is always
read as itself: it neither goes on with a character that was begun in front of it, nor is it swallowed together
with one. So a byte string can be read in two parts, the second of which starts with an ASCII byte.
-/

namespace BpfBoot.Text.Utf8

/-! ## What stands at the front -/

theorem front_append_of_char {bytes rest : Bytes} {c : Char} (h : front bytes = .char c rest) (more : Bytes) :
    front (bytes ++ more) = .char c (rest ++ more) := by
  rw [front_eq_char_iff] at h ⊢
  rw [h, List.append_assoc]

section

variable {b : UInt8} {tail rest more : Bytes} {length : Nat}

theorem two_append_of_malformed (h : front.two b tail = .malformed length rest) :
    front.two b (tail ++ more) = .malformed length (rest ++ more) := by
  rcases tail with _ | ⟨b₂, tail⟩ <;> simp only [List.cons_append, front.two] at h ⊢ <;> grind

theorem three_append_of_malformed (h : front.three b tail = .malformed length rest) :
    front.three b (tail ++ more) = .malformed length (rest ++ more) := by
  rcases tail with _ | ⟨b₂, _ | ⟨b₃, tail⟩⟩ <;> simp only [List.cons_append, front.three] at h ⊢ <;> grind

theorem four_append_of_malformed (h : front.four b tail = .malformed length rest) :
    front.four b (tail ++ more) = .malformed length (rest ++ more) := by
  rcases tail with _ | ⟨b₂, _ | ⟨b₃, _ | ⟨b₄, tail⟩⟩⟩ <;>
    simp only [List.cons_append, front.four] at h ⊢ <;> grind

end

theorem front_append_of_malformed {bytes rest : Bytes} {length : Nat} (h : front bytes = .malformed length rest)
    (more : Bytes) : front (bytes ++ more) = .malformed length (rest ++ more) := by
  cases bytes with
  | nil => cases h
  | cons b tail =>
    simp only [List.cons_append, front] at h ⊢
    split at h
    · cases h
    · exact two_append_of_malformed h
    · exact three_append_of_malformed h
    · exact four_append_of_malformed h
    · cases h
      rfl

section

variable {b b' : UInt8} {tail more : Bytes}

theorem isContinuation_of_ascii (hb : b.toNat < 0x80) : isContinuation b = false := by
  rw [Bool.eq_false_iff, ne_eq, isContinuation_iff]
  omega

theorem isSecond_of_ascii (hb : b.toNat < 0x80) (lead : UInt8) : isSecond lead b = false := by
  rw [Bool.eq_false_iff, ne_eq, isSecond_iff]
  omega

theorem two_append_of_truncated (h : front.two b' tail = .truncated) (hb : b.toNat < 0x80) :
    front.two b' (tail ++ b :: more) = .malformed (tail.length + 1) (b :: more) := by
  have hsecond := isSecond_of_ascii hb
  rcases tail with _ | ⟨b₂, tail⟩ <;> simp only [List.cons_append, List.nil_append, front.two] at h ⊢ <;> grind

theorem three_append_of_truncated (h : front.three b' tail = .truncated) (hb : b.toNat < 0x80) :
    front.three b' (tail ++ b :: more) = .malformed (tail.length + 1) (b :: more) := by
  have hsecond := isSecond_of_ascii hb
  have hcontinuation := isContinuation_of_ascii hb
  rcases tail with _ | ⟨b₂, _ | ⟨b₃, tail⟩⟩ <;>
    simp only [List.cons_append, List.nil_append, front.three] at h ⊢ <;> grind

theorem four_append_of_truncated (h : front.four b' tail = .truncated) (hb : b.toNat < 0x80) :
    front.four b' (tail ++ b :: more) = .malformed (tail.length + 1) (b :: more) := by
  have hsecond := isSecond_of_ascii hb
  have hcontinuation := isContinuation_of_ascii hb
  rcases tail with _ | ⟨b₂, _ | ⟨b₃, _ | ⟨b₄, tail⟩⟩⟩ <;>
    simp only [List.cons_append, List.nil_append, front.four] at h ⊢ <;> grind

end

/-- A character that was begun ends in front of an ASCII byte, and is malformed. -/
theorem front_append_of_truncated {bytes : Bytes} {b : UInt8} (h : front bytes = .truncated) (hb : b.toNat < 0x80)
    (more : Bytes) : front (bytes ++ b :: more) = .malformed bytes.length (b :: more) := by
  cases bytes with
  | nil => cases h
  | cons b' tail =>
    simp only [List.cons_append, front] at h ⊢
    split at h
    · cases h
    · exact two_append_of_truncated h hb
    · exact three_append_of_truncated h hb
    · exact four_append_of_truncated h hb
    · cases h

/-! ## Texts -/

theorem decodeLossyList_of_char {bytes rest : Bytes} {c : Char} (h : front bytes = .char c rest) :
    decodeLossyList bytes = c :: decodeLossyList rest := by
  cases bytes with
  | nil => cases h
  | cons b tail =>
    rw [decodeLossyList]
    split <;> simp_all

theorem decodeLossyList_of_malformed {bytes rest : Bytes} {length : Nat}
    (h : front bytes = .malformed length rest) :
    decodeLossyList bytes = '\ufffd' :: decodeLossyList rest := by
  cases bytes with
  | nil => cases h
  | cons b tail =>
    rw [decodeLossyList]
    split <;> simp_all

theorem decodeLossyList_append_ascii (bytes : Bytes) {b : UInt8} (hb : b.toNat < 0x80) (more : Bytes) :
    decodeLossyList (bytes ++ b :: more) = decodeLossyList bytes ++ decodeLossyList (b :: more) := by
  fun_induction decodeLossyList bytes with
  | case1 => rfl
  | case2 b' tail hdone => exact absurd hdone (front_cons_ne_done b' tail)
  | case3 b' tail c rest hchar _ ih =>
    rw [decodeLossyList_of_char (front_append_of_char hchar _), ih, List.cons_append]
  | case4 b' tail length rest hmalformed _ ih =>
    rw [decodeLossyList_of_malformed (front_append_of_malformed hmalformed _), ih, List.cons_append]
  | case5 b' tail htruncated =>
    rw [decodeLossyList_of_malformed (front_append_of_truncated htruncated hb more), List.singleton_append]

end BpfBoot.Text.Utf8
