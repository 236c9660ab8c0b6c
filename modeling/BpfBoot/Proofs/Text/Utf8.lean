import BpfBoot.Text.Utf8

/-!
# UTF-8 is decoded exactly

A byte string decodes to a text just if it is the UTF-8 form of that text. The lemmas follow the length of a
character's form: from its bytes to its number, and from its number back to its bytes. A text can also be cut
after a number of bytes, unless that falls inside a character.
-/

namespace BpfBoot.Text.Utf8

/-! ## The bytes of a character -/

theorem width_eq (b : UInt8) :
    width b = if b.toNat < 0x80 then 1 else if b.toNat < 0xc2 then 0 else if b.toNat < 0xe0 then 2
      else if b.toNat < 0xf0 then 3 else if b.toNat < 0xf5 then 4 else 0 := by
  simp only [width, UInt8.lt_iff_toNat_lt]
  rfl

theorem width_eq_one_iff {b : UInt8} : width b = 1 ↔ b.toNat < 0x80 := by
  grind [width_eq]

theorem width_eq_two_iff {b : UInt8} : width b = 2 ↔ 0xc2 ≤ b.toNat ∧ b.toNat < 0xe0 := by
  grind [width_eq]

theorem width_eq_three_iff {b : UInt8} : width b = 3 ↔ 0xe0 ≤ b.toNat ∧ b.toNat < 0xf0 := by
  grind [width_eq]

theorem width_eq_four_iff {b : UInt8} : width b = 4 ↔ 0xf0 ≤ b.toNat ∧ b.toNat < 0xf5 := by
  grind [width_eq]

theorem isContinuation_iff (b : UInt8) :
    isContinuation b = true ↔ 0x80 ≤ b.toNat ∧ b.toNat ≤ 0xbf := by
  simp only [isContinuation, Bool.and_eq_true, decide_eq_true_eq, UInt8.le_iff_toNat_le]
  rfl

theorem isSecond_iff (lead b : UInt8) :
    isSecond lead b = true ↔ 0x80 ≤ b.toNat ∧ b.toNat ≤ 0xbf
      ∧ (lead.toNat = 0xe0 → 0xa0 ≤ b.toNat) ∧ (lead.toNat = 0xed → b.toNat ≤ 0x9f)
      ∧ (lead.toNat = 0xf0 → 0x90 ≤ b.toNat) ∧ (lead.toNat = 0xf4 → b.toNat ≤ 0x8f) := by
  simp only [isSecond, secondBounds, beq_iff_eq, ← UInt8.toNat_inj, Bool.and_eq_true, decide_eq_true_eq,
    UInt8.le_iff_toNat_le, UInt8.reduceToNat]
  repeat' split
  all_goals
    simp only [UInt8.reduceToNat]
    omega

theorem toNat_ofNat {n : Nat} (h : n < 0xd800 ∨ 0xdfff < n ∧ n < 0x110000) :
    (Char.ofNat n).toNat = n := by
  rw [Char.ofNat, dif_pos h]
  rfl

theorem toNat_cases (c : Char) : c.toNat < 0xd800 ∨ 0xdfff < c.toNat ∧ c.toNat < 0x110000 := c.valid

theorem exists_byte {n : Nat} (h : n < 256) : ∃ b : UInt8, b.toNat = n :=
  ⟨UInt8.ofNat n, by rw [UInt8.toNat_ofNat']; omega⟩

theorem ofNat_eq {n : Nat} {b : UInt8} (h : b.toNat = n) : UInt8.ofNat n = b := by
  rw [← h, UInt8.ofNat_toNat]

section

variable {c : Char} {b b₂ b₃ b₄ : UInt8}

theorem encodeChar_one (hc : c.toNat < 0x80) (hb : b.toNat = c.toNat) :
    String.utf8EncodeChar c = [b] := by
  simp only [String.utf8EncodeChar, Char.toNat_val]
  rw [if_pos (by omega), ofNat_eq hb]

theorem encodeChar_two (hc : 0x80 ≤ c.toNat) (hc' : c.toNat < 0x800)
    (hb : b.toNat = c.toNat / 64 + 192) (hb₂ : b₂.toNat = c.toNat % 64 + 128) :
    String.utf8EncodeChar c = [b, b₂] := by
  have hlead : b.toNat = c.toNat / 64 % 32 + 192 := by omega
  simp only [String.utf8EncodeChar, Char.toNat_val]
  rw [if_neg (by omega), if_pos (by omega), ofNat_eq hlead, ofNat_eq hb₂]

theorem encodeChar_three (hc : 0x800 ≤ c.toNat) (hc' : c.toNat < 0x10000)
    (hb : b.toNat = c.toNat / 4096 + 224) (hb₂ : b₂.toNat = c.toNat / 64 % 64 + 128)
    (hb₃ : b₃.toNat = c.toNat % 64 + 128) : String.utf8EncodeChar c = [b, b₂, b₃] := by
  have hlead : b.toNat = c.toNat / 4096 % 16 + 224 := by omega
  simp only [String.utf8EncodeChar, Char.toNat_val]
  rw [if_neg (by omega), if_neg (by omega), if_pos (by omega), ofNat_eq hlead, ofNat_eq hb₂, ofNat_eq hb₃]

theorem encodeChar_four (hc : 0x10000 ≤ c.toNat)
    (hb : b.toNat = c.toNat / 262144 + 240) (hb₂ : b₂.toNat = c.toNat / 4096 % 64 + 128)
    (hb₃ : b₃.toNat = c.toNat / 64 % 64 + 128) (hb₄ : b₄.toNat = c.toNat % 64 + 128) :
    String.utf8EncodeChar c = [b, b₂, b₃, b₄] := by
  have hlead : b.toNat = c.toNat / 262144 % 8 + 240 := by
    have := toNat_cases c
    omega
  simp only [String.utf8EncodeChar, Char.toNat_val]
  rw [if_neg (by omega), if_neg (by omega), if_neg (by omega), ofNat_eq hlead, ofNat_eq hb₂, ofNat_eq hb₃, ofNat_eq hb₄]

end

theorem front_encodeChar (c : Char) (rest : Bytes) :
    front (String.utf8EncodeChar c ++ rest) = .char c rest := by
  have hvalid := toNat_cases c
  have hc : Char.ofNat c.toNat = c := Char.ofNat_toNat c
  rcases Nat.lt_or_ge c.toNat 0x80 with h1 | h1
  · obtain ⟨b, hb⟩ := exists_byte (n := c.toNat) (by omega)
    have hwidth : width b = 1 := width_eq_one_iff.mpr (by omega)
    simp only [encodeChar_one h1 hb, List.cons_append, List.nil_append, front, hwidth, hb, hc]
  rcases Nat.lt_or_ge c.toNat 0x800 with h2 | h2
  · obtain ⟨b, hb⟩ := exists_byte (n := c.toNat / 64 + 192) (by omega)
    obtain ⟨b₂, hb₂⟩ := exists_byte (n := c.toNat % 64 + 128) (by omega)
    have hwidth : width b = 2 := width_eq_two_iff.mpr (by omega)
    have hsecond : isSecond b b₂ = true := by rw [isSecond_iff]; omega
    have hnumber : b.toNat % 32 * 64 + payload b₂ = c.toNat := by rw [payload]; omega
    simp only [encodeChar_two h1 h2 hb hb₂, List.cons_append, List.nil_append, front, hwidth, front.two,
      hsecond, if_true, hnumber, hc]
  rcases Nat.lt_or_ge c.toNat 0x10000 with h3 | h3
  · obtain ⟨b, hb⟩ := exists_byte (n := c.toNat / 4096 + 224) (by omega)
    obtain ⟨b₂, hb₂⟩ := exists_byte (n := c.toNat / 64 % 64 + 128) (by omega)
    obtain ⟨b₃, hb₃⟩ := exists_byte (n := c.toNat % 64 + 128) (by omega)
    have hwidth : width b = 3 := width_eq_three_iff.mpr (by omega)
    have hsecond : isSecond b b₂ = true := by rw [isSecond_iff]; omega
    have hthird : isContinuation b₃ = true := by rw [isContinuation_iff]; omega
    have hnumber : (b.toNat % 16 * 64 + payload b₂) * 64 + payload b₃ = c.toNat := by
      rw [payload, payload]; omega
    simp only [encodeChar_three h2 h3 hb hb₂ hb₃, List.cons_append, List.nil_append, front, hwidth,
      front.three, hsecond, hthird, Bool.not_true, Bool.false_eq_true, if_true, if_false, hnumber, hc]
  · obtain ⟨b, hb⟩ := exists_byte (n := c.toNat / 262144 + 240) (by omega)
    obtain ⟨b₂, hb₂⟩ := exists_byte (n := c.toNat / 4096 % 64 + 128) (by omega)
    obtain ⟨b₃, hb₃⟩ := exists_byte (n := c.toNat / 64 % 64 + 128) (by omega)
    obtain ⟨b₄, hb₄⟩ := exists_byte (n := c.toNat % 64 + 128) (by omega)
    have hwidth : width b = 4 := width_eq_four_iff.mpr (by omega)
    have hsecond : isSecond b b₂ = true := by rw [isSecond_iff]; omega
    have hthird : isContinuation b₃ = true := by rw [isContinuation_iff]; omega
    have hfourth : isContinuation b₄ = true := by rw [isContinuation_iff]; omega
    have hnumber : ((b.toNat % 8 * 64 + payload b₂) * 64 + payload b₃) * 64 + payload b₄ = c.toNat := by
      rw [payload, payload, payload]; omega
    simp only [encodeChar_four h3 hb hb₂ hb₃ hb₄, List.cons_append, List.nil_append, front, hwidth,
      front.four, hsecond, hthird, hfourth, Bool.not_true, Bool.false_eq_true, if_true, if_false, hnumber,
      hc]

section

variable {b : UInt8} {c : Char} {tail rest : Bytes}

theorem two_eq_char (h : front.two b tail = .char c rest) :
    ∃ b₂, tail = b₂ :: rest ∧ isSecond b b₂ = true
      ∧ c = Char.ofNat (b.toNat % 32 * 64 + payload b₂) := by
  rcases tail with _ | ⟨b₂, tail⟩ <;> grind [front.two]

theorem three_eq_char (h : front.three b tail = .char c rest) :
    ∃ b₂ b₃, tail = b₂ :: b₃ :: rest ∧ isSecond b b₂ = true ∧ isContinuation b₃ = true
      ∧ c = Char.ofNat ((b.toNat % 16 * 64 + payload b₂) * 64 + payload b₃) := by
  rcases tail with _ | ⟨b₂, _ | ⟨b₃, tail⟩⟩ <;> grind [front.three]

theorem four_eq_char (h : front.four b tail = .char c rest) :
    ∃ b₂ b₃ b₄, tail = b₂ :: b₃ :: b₄ :: rest ∧ isSecond b b₂ = true ∧ isContinuation b₃ = true
      ∧ isContinuation b₄ = true
      ∧ c = Char.ofNat (((b.toNat % 8 * 64 + payload b₂) * 64 + payload b₃) * 64 + payload b₄) := by
  rcases tail with _ | ⟨b₂, _ | ⟨b₃, _ | ⟨b₄, tail⟩⟩⟩ <;> grind [front.four]

end

theorem eq_of_front_eq_char {bytes rest : Bytes} {c : Char} (h : front bytes = .char c rest) :
    bytes = String.utf8EncodeChar c ++ rest := by
  cases bytes with
  | nil => cases h
  | cons b tail =>
    simp only [front] at h
    split at h
    case h_1 hwidth =>
      rw [width_eq_one_iff] at hwidth
      obtain ⟨hc, rfl⟩ := Front.char.inj h
      have hnumber : c.toNat = b.toNat := hc ▸ toNat_ofNat (by omega)
      have hform : String.utf8EncodeChar c = [b] := encodeChar_one (by omega) hnumber.symm
      rw [hform]
      rfl
    case h_2 hwidth =>
      rw [width_eq_two_iff] at hwidth
      obtain ⟨b₂, rfl, hsecond, hc⟩ := two_eq_char h
      rw [isSecond_iff] at hsecond
      unfold payload at hc
      have hnumber : c.toNat = b.toNat % 32 * 64 + b₂.toNat % 64 := hc ▸ toNat_ofNat (by omega)
      have hform : String.utf8EncodeChar c = [b, b₂] :=
        encodeChar_two (by omega) (by omega) (by omega) (by omega)
      rw [hform]
      rfl
    case h_3 hwidth =>
      rw [width_eq_three_iff] at hwidth
      obtain ⟨b₂, b₃, rfl, hsecond, hthird, hc⟩ := three_eq_char h
      rw [isSecond_iff] at hsecond
      rw [isContinuation_iff] at hthird
      unfold payload at hc
      have hnumber : c.toNat = (b.toNat % 16 * 64 + b₂.toNat % 64) * 64 + b₃.toNat % 64 :=
        hc ▸ toNat_ofNat (by omega)
      have hform : String.utf8EncodeChar c = [b, b₂, b₃] :=
        encodeChar_three (by omega) (by omega) (by omega) (by omega) (by omega)
      rw [hform]
      rfl
    case h_4 hwidth =>
      rw [width_eq_four_iff] at hwidth
      obtain ⟨b₂, b₃, b₄, rfl, hsecond, hthird, hfourth, hc⟩ := four_eq_char h
      rw [isSecond_iff] at hsecond
      rw [isContinuation_iff] at hthird hfourth
      unfold payload at hc
      have hnumber : c.toNat
          = ((b.toNat % 8 * 64 + b₂.toNat % 64) * 64 + b₃.toNat % 64) * 64 + b₄.toNat % 64 :=
        hc ▸ toNat_ofNat (by omega)
      have hform : String.utf8EncodeChar c = [b, b₂, b₃, b₄] :=
        encodeChar_four (by omega) (by omega) (by omega) (by omega) (by omega)
      rw [hform]
      rfl
    case h_5 => cases h

theorem front_eq_char_iff {bytes rest : Bytes} {c : Char} :
    front bytes = .char c rest ↔ bytes = String.utf8EncodeChar c ++ rest := by
  refine ⟨eq_of_front_eq_char, ?_⟩
  rintro rfl
  exact front_encodeChar c rest

/-- A form that starts with an ASCII byte is that byte alone. -/
theorem encodeChar_of_ascii {c : Char} {b : UInt8} {more : Bytes}
    (h : String.utf8EncodeChar c = b :: more) (hb : b.toNat < 0x80) : more = [] ∧ c.toNat = b.toNat := by
  have hfront := front_encodeChar c []
  have hwidth : width b = 1 := width_eq_one_iff.mpr hb
  rw [h, List.append_nil] at hfront
  simp only [front, hwidth] at hfront
  obtain ⟨rfl, hmore⟩ := Front.char.inj hfront
  exact ⟨hmore, toNat_ofNat (by omega)⟩

theorem le_toNat_of_mem_encodeChar {c : Char} {b : UInt8} (hc : 0x80 ≤ c.toNat)
    (hb : b ∈ String.utf8EncodeChar c) : 0x80 ≤ b.toNat := by
  have hbyte : ∀ n, b = UInt8.ofNat n → b.toNat = n % 256 := by
    rintro n rfl
    exact UInt8.toNat_ofNat'
  simp only [String.utf8EncodeChar, Char.toNat_val] at hb
  repeat' split at hb
  all_goals
    simp only [List.mem_cons, List.not_mem_nil, or_false] at hb
    grind

/-- An ASCII byte is never a part of a longer form. -/
theorem ascii_mem_encodeChar_iff {c : Char} {b : UInt8} (hb : b.toNat < 0x80) :
    b ∈ String.utf8EncodeChar c ↔ c.toNat = b.toNat := by
  rcases Nat.lt_or_ge c.toNat 0x80 with hc | hc
  · obtain ⟨b', hb'⟩ := exists_byte (n := c.toNat) (by omega)
    rw [encodeChar_one hc hb', List.mem_singleton, ← UInt8.toNat_inj, hb', eq_comm]
  · constructor
    · intro hmem
      have hhigh := le_toNat_of_mem_encodeChar hc hmem
      omega
    · intro hsame
      omega

/-! ## Texts -/

theorem decodeFrom_of_front {bytes rest : Bytes} {c : Char} (h : front bytes = .char c rest)
    (position : Nat) :
    decodeFrom position bytes
      = (decodeFrom (position + (bytes.length - rest.length)) rest).map (c :: ·) := by
  cases bytes with
  | nil => cases h
  | cons b tail =>
    rw [decodeFrom]
    split
    · next hdone => rw [h] at hdone; cases hdone
    · next hchar =>
      rw [h] at hchar
      obtain ⟨rfl, rfl⟩ := Front.char.inj hchar
      rfl
    · next hmalformed => rw [h] at hmalformed; cases hmalformed
    · next htruncated => rw [h] at htruncated; cases htruncated

theorem decodeFrom_encode (s : List Char) (position : Nat) :
    decodeFrom position (s.flatMap String.utf8EncodeChar) = .ok s := by
  induction s generalizing position with
  | nil => rw [List.flatMap_nil, decodeFrom]
  | cons c s ih =>
    rw [List.flatMap_cons, decodeFrom_of_front (front_encodeChar c _), ih]
    rfl

theorem flatMap_encodeChar_inj {s t : List Char}
    (h : s.flatMap String.utf8EncodeChar = t.flatMap String.utf8EncodeChar) : s = t := by
  have hs := decodeFrom_encode s 0
  rw [h, decodeFrom_encode] at hs
  exact (Except.ok.inj hs).symm

theorem front_cons_ne_done (b : UInt8) (tail : Bytes) : front (b :: tail) ≠ .done := by
  intro hdone
  simp only [front] at hdone
  split at hdone
  · cases hdone
  · unfold front.two at hdone
    grind
  · unfold front.three at hdone
    grind
  · unfold front.four at hdone
    grind
  · cases hdone

/-- What decodes to a text starts with the text's first character. -/
theorem front_of_decodeFrom {position : Nat} {b : UInt8} {tail : Bytes} {s : List Char}
    (h : decodeFrom position (b :: tail) = .ok s) :
    ∃ c rest position' s', front (b :: tail) = .char c rest ∧ decodeFrom position' rest = .ok s'
      ∧ s = c :: s' := by
  cases hfront : front (b :: tail) with
  | done => exact absurd hfront (front_cons_ne_done b tail)
  | char c rest =>
    rw [decodeFrom_of_front hfront] at h
    cases hrest : decodeFrom (position + ((b :: tail).length - rest.length)) rest with
    | error e =>
      rw [hrest] at h
      cases h
    | ok s' =>
      rw [hrest] at h
      cases h
      exact ⟨c, rest, _, s', rfl, hrest, rfl⟩
  | malformed length rest =>
    rw [decodeFrom] at h
    split at h <;> simp_all
  | truncated =>
    rw [decodeFrom] at h
    split at h <;> simp_all

theorem eq_encode_of_decodeFrom {position : Nat} {bytes : Bytes} {s : List Char}
    (h : decodeFrom position bytes = .ok s) : bytes = s.flatMap String.utf8EncodeChar := by
  induction s generalizing position bytes with
  | nil =>
    cases bytes with
    | nil => rfl
    | cons b tail =>
      obtain ⟨c, rest, _, s', -, -, hs⟩ := front_of_decodeFrom h
      cases hs
  | cons c s ih =>
    cases bytes with
    | nil =>
      rw [decodeFrom] at h
      cases h
    | cons b tail =>
      obtain ⟨c', rest, _, s', hfront, hrest, hs⟩ := front_of_decodeFrom h
      obtain ⟨rfl, rfl⟩ := List.cons.inj hs
      rw [front_eq_char_iff.mp hfront, ih hrest, List.flatMap_cons]

theorem decode_eq_ok_iff {bytes : Bytes} {text : String} :
    decode bytes = .ok text ↔ encode text = bytes := by
  constructor
  · intro h
    cases hchars : decodeFrom 0 bytes with
    | error e =>
      rw [decode, hchars] at h
      cases h
    | ok s =>
      rw [decode, hchars] at h
      cases h
      rw [encode, String.toList_ofList, eq_encode_of_decodeFrom hchars]
  · rintro rfl
    rw [decode, encode, decodeFrom_encode]
    exact congrArg Except.ok String.ofList_toList

/-! ## Cuts -/

/-- A text cut after some bytes of its UTF-8 form. Inside a character there is no cut. -/
def cut? : (count : Nat) → List Char → Option (List Char × List Char)
  | 0, s => some ([], s)
  | _ + 1, [] => none
  | count + 1, c :: s =>
      if c.utf8Size ≤ count + 1 then
        (cut? (count + 1 - c.utf8Size) s).map fun (before, after) => (c :: before, after)
      else none

theorem cut?_append (before after : List Char) :
    cut? (before.flatMap String.utf8EncodeChar).length (before ++ after) = some (before, after) := by
  induction before with
  | nil => rw [List.flatMap_nil, List.length_nil, List.nil_append, cut?]
  | cons c before ih =>
    have hsize : (String.utf8EncodeChar c).length = c.utf8Size := String.length_utf8EncodeChar c
    have hpos := Char.utf8Size_pos c
    rw [List.flatMap_cons, List.length_append, hsize]
    obtain ⟨count, hcount⟩ : ∃ count, c.utf8Size + (before.flatMap String.utf8EncodeChar).length = count + 1 :=
      ⟨_, (Nat.succ_pred_eq_of_pos (by omega)).symm⟩
    rw [hcount, List.cons_append, cut?, if_pos (by omega), ← hcount, Nat.add_sub_cancel_left, ih]
    rfl

theorem exists_cut_at_ascii {s : List Char} {b : UInt8} {before after : Bytes} (hb : b.toNat < 0x80)
    (h : s.flatMap String.utf8EncodeChar = before ++ b :: after) :
    ∃ t c u, s = t ++ c :: u ∧ c.toNat = b.toNat ∧ t.flatMap String.utf8EncodeChar = before
      ∧ u.flatMap String.utf8EncodeChar = after := by
  induction s generalizing before with
  | nil => simp at h
  | cons c s ih =>
    rw [List.flatMap_cons] at h
    rcases List.append_eq_append_iff.mp h with ⟨more, hbefore, hrest⟩ | ⟨more, hform, hrest⟩
    · obtain ⟨t, d, u, rfl, hd, ht, hu⟩ := ih hrest
      exact ⟨c :: t, d, u, rfl, hd, by rw [List.flatMap_cons, ht, hbefore], hu⟩
    · cases more with
      | nil =>
        -- The byte comes right behind the form of `c`.
        have hnext : s.flatMap String.utf8EncodeChar = [] ++ b :: after := hrest.symm
        obtain ⟨t, d, u, rfl, hd, ht, hu⟩ := ih hnext
        exact ⟨c :: t, d, u, rfl, hd, by simp [ht, hform], hu⟩
      | cons b' more =>
        -- The byte is in the form of `c`, and so it is all of that form.
        obtain ⟨rfl, hafter⟩ := List.cons.inj hrest
        have hc : c.toNat = b.toNat := (ascii_mem_encodeChar_iff hb).mp (by simp [hform])
        rw [encodeChar_one (hc ▸ hb) hc.symm] at hform
        obtain ⟨rfl, rfl⟩ : before = [] ∧ more = [] := by
          rcases List.append_eq_singleton_iff.mp hform.symm with ⟨hbefore, hmore⟩ | ⟨-, hmore⟩
          · exact ⟨hbefore, (List.cons.inj hmore).2⟩
          · cases hmore
        exact ⟨[], c, s, rfl, hc, rfl, hafter.symm⟩

end BpfBoot.Text.Utf8
