import Mathlib.Order.Bounds.Defs
import BpfBoot.Proofs.Text.Pieces
import BpfBoot.Proofs.Text.Utf8

/-!
# Texts that end at a NUL

A buffer holds a text up to its first NUL, or throughout if it has none. Reading the buffer gives this text if the
bytes of that part are UTF-8. If they are not, then the error tells how far they are: characters are read off the
front until none stands there any more, and since no character's form is the start of another one's, no other way
of reading gets further.
-/

namespace BpfBoot.Text.Utf8

/-- The bytes are the forms of some characters, one after the other. -/
def IsUtf8 (bytes : Bytes) : Prop :=
  ∃ text, encode text = bytes

theorem isUtf8_iff {bytes : Bytes} :
    IsUtf8 bytes ↔ ∃ s : List Char, s.flatMap String.utf8EncodeChar = bytes := by
  constructor
  · rintro ⟨text, htext⟩
    exact ⟨text.toList, htext⟩
  · rintro ⟨s, hs⟩
    exact ⟨String.ofList s, by rw [encode, String.toList_ofList, hs]⟩

theorem isUtf8_iff_decode {bytes : Bytes} : IsUtf8 bytes ↔ ∃ text, decode bytes = .ok text :=
  exists_congr fun _ => decode_eq_ok_iff.symm

/-! ## Where reading stops -/

/-- No character stands at the front, though something does. -/
def IsStuck (bytes : Bytes) : Prop :=
  bytes ≠ [] ∧ ∀ c rest, bytes ≠ String.utf8EncodeChar c ++ rest

theorem isStuck_of_front {b : UInt8} {tail : Bytes}
    (h : ∀ c rest, front (b :: tail) ≠ .char c rest) : IsStuck (b :: tail) :=
  ⟨List.cons_ne_nil b tail, fun c rest heq => h c rest (front_eq_char_iff.mpr heq)⟩

theorem encodeChar_append_inj {c d : Char} {rest rest' : Bytes}
    (h : String.utf8EncodeChar c ++ rest = String.utf8EncodeChar d ++ rest') : c = d ∧ rest = rest' := by
  have hfront := front_encodeChar c rest
  rw [h, front_encodeChar] at hfront
  obtain ⟨rfl, rfl⟩ := Front.char.inj hfront
  exact ⟨rfl, rfl⟩

/-- In front of the place of an error stand characters, and behind it none does. -/
theorem exists_stuck_of_decodeFrom {position : Nat} {bytes : Bytes} {e : DecodeError}
    (h : decodeFrom position bytes = .error e) :
    ∃ (s : List Char) (rest : Bytes), bytes = s.flatMap String.utf8EncodeChar ++ rest ∧ IsStuck rest
      ∧ e.validUpTo = position + (s.flatMap String.utf8EncodeChar).length := by
  fun_induction decodeFrom position bytes with
  | case1 => cases h
  | case2 position b tail hdone => exact absurd hdone (front_cons_ne_done b tail)
  | case3 position b tail c rest hchar _ ih =>
    -- The position goes ahead by the bytes of the character, which come in front of those that were read.
    have hbytes := front_eq_char_iff.mp hchar
    have hlength : (b :: tail).length - rest.length = (String.utf8EncodeChar c).length := by
      rw [hbytes, List.length_append, Nat.add_sub_cancel]
    cases hrest : decodeFrom (position + ((b :: tail).length - rest.length)) rest with
    | ok s =>
      rw [hrest] at h
      cases h
    | error e' =>
      rw [hrest] at h
      cases h
      obtain ⟨s, stuck, rfl, hstuck, hplace⟩ := ih hrest
      refine ⟨c :: s, stuck, ?_, hstuck, ?_⟩
      · rw [hbytes, List.flatMap_cons, List.append_assoc]
      · rw [hplace, hlength, List.flatMap_cons, List.length_append, Nat.add_assoc]
  | case4 position b tail length rest hmalformed =>
    cases h
    exact ⟨[], b :: tail, rfl, isStuck_of_front (by simp [hmalformed]), rfl⟩
  | case5 position b tail htruncated =>
    cases h
    exact ⟨[], b :: tail, rfl, isStuck_of_front (by simp [htruncated]), rfl⟩

/-- Characters that are read off the front are the ones that stand there. -/
theorem length_le_of_stuck {s t : List Char} {rest more : Bytes} (hstuck : IsStuck rest)
    (h : t.flatMap String.utf8EncodeChar ++ more = s.flatMap String.utf8EncodeChar ++ rest) :
    (t.flatMap String.utf8EncodeChar).length ≤ (s.flatMap String.utf8EncodeChar).length := by
  induction t generalizing s with
  | nil => exact Nat.zero_le _
  | cons c t ih =>
    rw [List.flatMap_cons, List.append_assoc] at h
    cases s with
    -- The characters of `s` are used up, and the next one of `t` would stand where none does.
    | nil => exact absurd h.symm (hstuck.2 c _)
    | cons d s =>
      rw [List.flatMap_cons, List.append_assoc] at h
      obtain ⟨rfl, htail⟩ := encodeChar_append_inj h
      have hle := ih htail
      simp only [List.flatMap_cons, List.length_append]
      omega

theorem isGreatest_validUpTo {bytes : Bytes} {e : DecodeError} (h : decode bytes = .error e) :
    IsGreatest {n | n ≤ bytes.length ∧ IsUtf8 (bytes.take n)} e.validUpTo := by
  have hchars : decodeFrom 0 bytes = .error e := by
    rw [decode] at h
    cases hchars : decodeFrom 0 bytes with
    | ok s =>
      rw [hchars] at h
      cases h
    | error e' =>
      rw [hchars] at h
      cases h
      rfl
  obtain ⟨s, rest, rfl, hstuck, hplace⟩ := exists_stuck_of_decodeFrom hchars
  rw [Nat.zero_add] at hplace
  constructor
  · refine ⟨by rw [hplace, List.length_append]; exact Nat.le_add_right _ _, ?_⟩
    rw [hplace, List.take_left, isUtf8_iff]
    exact ⟨s, rfl⟩
  · rintro n ⟨hn, hutf8⟩
    obtain ⟨t, ht⟩ := isUtf8_iff.mp hutf8
    have hsplit := List.take_append_drop n (s.flatMap String.utf8EncodeChar ++ rest)
    rw [← ht] at hsplit
    have hle := length_le_of_stuck hstuck hsplit
    rw [ht, List.length_take, Nat.min_eq_left hn] at hle
    exact hplace ▸ hle

/-! ## The part before the NUL -/

/-- The part of a buffer that counts is what stands before its first NUL, or all of it. -/
def IsTextPart (buffer part : Bytes) : Prop :=
  0 ∉ part ∧ (buffer = part ∨ ∃ rest, buffer = part ++ 0 :: rest)

theorem isTextPart_upToNul (buffer : Bytes) : IsTextPart buffer buffer.upToNul :=
  takeWhile_ne_eq_iff.mp rfl

theorem IsTextPart.eq {buffer part : Bytes} (h : IsTextPart buffer part) : buffer.upToNul = part :=
  takeWhile_ne_eq_iff.mpr h

theorem zero_mem_encodeChar_iff {c : Char} : 0 ∈ String.utf8EncodeChar c ↔ c = '\x00' := by
  rw [ascii_mem_encodeChar_iff (by decide), ← Char.toNat_inj]
  rfl

theorem zero_mem_encode_iff {text : String} : 0 ∈ encode text ↔ '\x00' ∈ text.toList := by
  simp [encode, List.mem_flatMap, zero_mem_encodeChar_iff]

/-! ## What is read -/

/-- What the reading of a part that counts comes to. -/
structure ReadsPart (part : Bytes) (outcome : Except DecodeError String) : Prop where
  reads_iff : (∃ text, outcome = .ok text) ↔ IsUtf8 part
  encode_eq : ∀ text, outcome = .ok text → encode text = part
  /-- The error tells the length of the longest prefix that is UTF-8. -/
  isGreatest : ∀ e, outcome = .error e →
    IsGreatest {n | n ≤ part.length ∧ IsUtf8 (part.take n)} e.validUpTo

theorem readsPart_decode (part : Bytes) : ReadsPart part (decode part) where
  reads_iff := isUtf8_iff_decode.symm
  encode_eq _ := decode_eq_ok_iff.mp
  isGreatest _ := isGreatest_validUpTo

/-- Only the part before the first NUL counts, and it is read just if it is UTF-8. -/
theorem decodeUpToNul_reads :
    (∀ buffer, ∃! part, IsTextPart buffer part)
      ∧ (∀ buffer part, IsTextPart buffer part →
          ReadsPart part (decodeUpToNul buffer) ∧ decodeUpToNul buffer = decodeUpToNul part)
      ∧ ∀ (text : String) (rest : Bytes), '\x00' ∉ text.toList →
          decodeUpToNul (encode text ++ 0 :: rest) = .ok text := by
  refine ⟨fun buffer => ?_, fun buffer part hpart => ?_, fun text rest hnul => ?_⟩
  · exact ⟨_, isTextPart_upToNul buffer, fun part hpart => hpart.eq.symm⟩
  · have hself : IsTextPart part part := ⟨hpart.1, .inl rfl⟩
    rw [decodeUpToNul, decodeUpToNul, hpart.eq, hself.eq]
    exact ⟨readsPart_decode part, rfl⟩
  · have hpart : IsTextPart (encode text ++ 0 :: rest) (encode text) :=
      ⟨mt zero_mem_encode_iff.mp hnul, .inr ⟨rest, rfl⟩⟩
    rw [decodeUpToNul, hpart.eq, decode_eq_ok_iff]

/-- A surrogate before the NUL, and a text with bytes behind its NUL that are not UTF-8. -/
theorem decodeUpToNul_reads_surrogate :
    (IsTextPart [0x47, 0xed, 0xa0, 0x80, 0, 0x50] [0x47, 0xed, 0xa0, 0x80]
        ∧ ReadsPart [0x47, 0xed, 0xa0, 0x80] (decodeUpToNul [0x47, 0xed, 0xa0, 0x80, 0, 0x50]))
      ∧ ('\x00' ∉ "GPL".toList ∧ decodeUpToNul (encode "GPL" ++ [0, 0xff]) = .ok "GPL") := by
  have hpart : IsTextPart [0x47, 0xed, 0xa0, 0x80, 0, 0x50] [0x47, 0xed, 0xa0, 0x80] :=
    ⟨by decide, .inr ⟨[0x50], rfl⟩⟩
  have hnul : '\x00' ∉ "GPL".toList := by decide
  exact ⟨⟨hpart, (decodeUpToNul_reads.2.1 _ _ hpart).1⟩, hnul, decodeUpToNul_reads.2.2 "GPL" [0xff] hnul⟩

end BpfBoot.Text.Utf8
