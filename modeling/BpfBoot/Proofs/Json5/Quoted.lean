import BpfBoot.Proofs.Json5.Document

/-!
# Gaps, strings and names are read

The reader takes each gap, each string and each name of the grammar and leaves what comes after it. A name is
read as far as it goes, so what comes after it matters: blanks, comments and the characters between values go on
with no name, and with no number.
-/

namespace BpfBoot.Json5

open Text

/-! ## ASCII characters -/

/-- The ranges of the ASCII characters that names go on with. -/
def asciiNameRanges : CodeRanges :=
  [(0x24, 0x24), (0x30, 0x39), (0x41, 0x5a), (0x5e, 0x60), (0x61, 0x7a)]

/-- An ASCII character that stands in no name. -/
def IsMark (c : Char) : Prop :=
  c.toNat < 0x80 ∧ asciiNameRanges.contains c = false

instance (c : Char) : Decidable (IsMark c) :=
  inferInstanceAs (Decidable (_ ∧ _))

theorem continuesName_of_isMark {c : Char} (h : IsMark c) : continuesName c = false := by
  obtain ⟨hascii, hmark⟩ := h
  have htables : ∀ r ∈ letterRanges ++ nameMarkRanges, r ∈ asciiNameRanges ∨ 0x80 ≤ r.1 := by
    decide +kernel
  have houtside {ranges : CodeRanges} (hranges : ranges ⊆ letterRanges ++ nameMarkRanges) :
      ranges.contains c = false := by
    refine Bool.eq_false_iff.mpr fun hin => ?_
    obtain ⟨r, hr, hlow, hhigh⟩ := CodeRanges.contains_iff.mp hin
    rcases htables r (hranges hr) with hname | hlarge
    · rw [CodeRanges.contains_iff.mpr ⟨r, hname, hlow, hhigh⟩] at hmark
      cases hmark
    · omega
  have hletter := houtside (List.subset_append_left letterRanges nameMarkRanges)
  have hnameMark := houtside (List.subset_append_right letterRanges nameMarkRanges)
  have hdollar : c ≠ '$' := by
    rintro rfl
    exact absurd hmark (by decide)
  have hline : c ≠ '_' := by
    rintro rfl
    exact absurd hmark (by decide)
  simp [continuesName, startsName, hletter, hnameMark, hdollar, hline]
  omega

theorem startsName_of_isMark {c : Char} (h : IsMark c) : startsName c = false := by
  have hname := continuesName_of_isMark h
  simp only [continuesName, Bool.or_eq_false_iff] at hname
  exact hname.1.1.1

/-! ## Blanks and comments -/

def blankCodes : List Nat :=
  [0x9, 0xa, 0xb, 0xc, 0xd, 0x20, 0xa0, 0x1680] ++ List.range' 0x2000 11
    ++ [0x2028, 0x2029, 0x202f, 0x205f, 0x3000, 0xfeff]

theorem toNat_mem_of_isBlank {c : Char} (h : isBlank c = true) : c.toNat ∈ blankCodes := by
  simp only [isBlank, endsLine, Bool.or_eq_true, beq_iff_eq, CodeRanges.contains_iff] at h
  rcases h with (((rfl | rfl) | h) | h) | ⟨r, hr, hlow, hhigh⟩
  · decide
  · decide
  · rw [h]; decide
  · rw [h]; decide
  · simp only [blankRanges, List.mem_cons, List.not_mem_nil, or_false] at hr
    simp only [blankCodes, List.mem_append, List.mem_cons, List.mem_range'_1, List.not_mem_nil, or_false]
    rcases hr with rfl | rfl | rfl | rfl | rfl | rfl | rfl | rfl | rfl | rfl <;>
      simp only at hlow hhigh <;> omega

/-- White space makes no mark on the page. -/
theorem isBlank_of_graphic {c : Char} (h : 0x20 < c.toNat) (h' : c.toNat < 0x80) : isBlank c = false := by
  have hcodes : ∀ n ∈ blankCodes, n ≤ 0x20 ∨ 0x80 ≤ n := by decide
  refine Bool.eq_false_iff.mpr fun hblank => ?_
  have hcode := hcodes _ (toNat_mem_of_isBlank hblank)
  omega

/-- A property of characters that is seen on a list of codes. -/
theorem of_toNat_mem {p : Char → Prop} {codes : List Nat} (h : ∀ n ∈ codes, p (Char.ofNat n)) {c : Char}
    (hc : c.toNat ∈ codes) : p c := by
  simpa using h _ hc

/-- A character that neither a name nor a number goes on with. -/
def Breaks (c : Char) : Prop :=
  continuesName c = false ∧ c ≠ '\\' ∧ c ≠ '.' ∧ isHexDigit c = false ∧ isDigit c = false
    ∧ c ≠ 'e' ∧ c ≠ 'E' ∧ c ≠ 'x' ∧ c ≠ 'X'

instance (c : Char) : Decidable (Breaks c) :=
  inferInstanceAs (Decidable (_ ∧ _))

theorem breaks_of_isBlank {c : Char} (h : isBlank c = true) : Breaks c := by
  have hcodes : ∀ n ∈ blankCodes, Breaks (Char.ofNat n) := by decide +kernel
  exact of_toNat_mem hcodes (toNat_mem_of_isBlank h)

/-- What a name or a number stands before. -/
def Ends (s : List Char) : Prop :=
  ∀ c ∈ s.head?, Breaks c

/-- A text that begins with a token. -/
def Stops (s : List Char) : Prop :=
  ∀ c ∈ s.head?, isBlank c = false ∧ c ≠ '/'

theorem skipSome_of_stops {s : List Char} (h : Stops s) (fuel : Nat) : skipSome fuel s = s := by
  cases fuel with
  | zero => rfl
  | succ fuel =>
    cases s with
    | nil => rfl
    | cons c s =>
      obtain ⟨hblank, hslash⟩ := h c rfl
      unfold skipSome
      split
      case h_1 heq => exact absurd (List.cons.inj heq).1 hslash
      case h_2 heq => exact absurd (List.cons.inj heq).1 hslash
      case h_3 heq =>
        obtain ⟨rfl, rfl⟩ := List.cons.inj heq
        rw [if_neg (by simp [hblank])]
      case h_4 heq => cases heq

theorem afterBlockComment?_append {comment : List Char} (h : ¬ ['*', '/'] <:+: comment ++ ['*'])
    (s : List Char) : afterBlockComment? (comment ++ '*' :: '/' :: s) = some s := by
  induction comment with
  | nil => rfl
  | cons c comment ih =>
    have hshorter : ¬ ['*', '/'] <:+: comment ++ ['*'] := fun hin =>
      h (hin.trans (List.suffix_cons c _).isInfix)
    rw [List.cons_append, afterBlockComment?.eq_def]
    split
    next rest heq =>
      obtain ⟨rfl, hrest⟩ := List.cons.inj heq
      -- A slash after this star would end the comment here.
      cases comment with
      | nil => simp at hrest
      | cons d comment =>
        obtain ⟨rfl, -⟩ := List.cons.inj hrest
        exact absurd (List.prefix_append ['*', '/'] (comment ++ ['*'])).isInfix h
    next heq =>
      obtain ⟨rfl, rfl⟩ := List.cons.inj heq
      exact ih hshorter
    next heq => cases heq

theorem dropWhile_append_of_endsLine {comment : List Char} (h : ∀ c ∈ comment, endsLine c = false)
    (s : List Char) : (comment ++ s).dropWhile (!endsLine ·) = s.dropWhile (!endsLine ·) :=
  List.dropWhile_append_of_pos fun c hc => by simp [h c hc]

theorem Gap.length_le {rest s : List Char} (h : Gap rest s) : rest.length ≤ s.length := by
  induction h with
  | none => exact le_rfl
  | blank _ _ ih => simpa using Nat.le_succ_of_le ih
  | block _ _ ih | line _ _ _ ih =>
    simp only [List.length_cons, List.length_append]
    omega
  | lastLine _ hrest => simp [hrest]

theorem isBlank_of_endsLine {c : Char} (h : endsLine c = true) : isBlank c = true := by
  simp [isBlank, h]

theorem not_comment_of_isBlank {c : Char} (h : isBlank c = true) : c ≠ '/' := by
  rintro rfl
  rw [isBlank_of_graphic (by decide) (by decide)] at h
  cases h

theorem skipSome_blank {c : Char} (h : isBlank c = true) (fuel : Nat) (s : List Char) :
    skipSome (fuel + 1) (c :: s) = skipSome fuel s := by
  have hslash := not_comment_of_isBlank h
  conv_lhs => unfold skipSome
  split
  next heq => exact absurd (List.cons.inj heq).1 hslash
  next heq => exact absurd (List.cons.inj heq).1 hslash
  next heq =>
    obtain ⟨rfl, rfl⟩ := List.cons.inj heq
    exact if_pos h
  next heq => cases heq

theorem skipSome_line (fuel : Nat) (s : List Char) :
    skipSome (fuel + 1) ('/' :: '/' :: s) = skipSome fuel (s.dropWhile (!endsLine ·)) := rfl

theorem skipSome_of_gap {rest s : List Char} (h : Gap rest s) (hstops : Stops rest) {fuel : Nat}
    (hfuel : s.length ≤ fuel) : skipSome fuel s = rest := by
  -- Each blank and each comment takes one step and at least one character.
  induction h generalizing fuel with
  | none => exact skipSome_of_stops hstops fuel
  | @blank c s hc _ ih =>
    obtain ⟨fuel, rfl⟩ := Nat.exists_eq_add_one.mpr (Nat.lt_of_lt_of_le (Nat.succ_pos _) hfuel)
    rw [skipSome_blank hc]
    exact ih (by simpa using hfuel)
  | @block comment s hcomment _ ih =>
    obtain ⟨fuel, rfl⟩ := Nat.exists_eq_add_one.mpr (Nat.lt_of_lt_of_le (Nat.succ_pos _) hfuel)
    simp only [skipSome, afterBlockComment?_append hcomment]
    refine ih ?_
    simp only [List.length_cons, List.length_append] at hfuel
    omega
  | @line comment c s hcomment hc _ ih =>
    obtain ⟨fuel, rfl⟩ := Nat.exists_eq_add_one.mpr (Nat.lt_of_lt_of_le (Nat.succ_pos _) hfuel)
    simp only [List.length_cons, List.length_append] at hfuel
    obtain ⟨fuel, rfl⟩ := Nat.exists_eq_add_one.mpr (by omega : 0 < fuel)
    rw [skipSome_line, dropWhile_append_of_endsLine hcomment,
      List.dropWhile_cons_of_neg (by simp [hc]), skipSome_blank (isBlank_of_endsLine hc)]
    exact ih (by omega)
  | @lastLine comment hcomment hrest =>
    subst hrest
    obtain ⟨fuel, rfl⟩ := Nat.exists_eq_add_one.mpr (Nat.lt_of_lt_of_le (Nat.succ_pos _) hfuel)
    have hdrop : comment.dropWhile (!endsLine ·) = [] := by
      simpa using dropWhile_append_of_endsLine hcomment []
    rw [skipSome_line, hdrop]
    exact skipSome_of_stops hstops fuel

theorem skip_of_gap {rest s : List Char} (h : Gap rest s) (hstops : Stops rest) : skip s = rest :=
  skipSome_of_gap h hstops le_rfl

/-- A gap before something that ends names and numbers ends them as well. -/
theorem ends_of_gap {rest s : List Char} (h : Gap rest s) (hends : Ends rest) : Ends s := by
  have hslash : Breaks '/' := ⟨continuesName_of_isMark (by decide), by decide⟩
  intro d hd
  cases h with
  | none => exact hends d hd
  | blank hc =>
    obtain rfl := Option.some.inj hd
    exact breaks_of_isBlank hc
  | block | line | lastLine =>
    obtain rfl := Option.some.inj hd
    exact hslash

/-! ## Strings -/

theorem codeOf?_eq {digits : List Char} (h : AreHexDigits digits) :
    codeOf? digits = some (numeralValue 16 digits) :=
  if_pos (List.all_eq_true.mpr h)

theorem not_surrogate_of_isValidChar {n : Nat} (h : n.isValidChar) :
    isHighSurrogate n = false ∧ isLowSurrogate n = false := by
  simp only [isHighSurrogate, isLowSurrogate, Bool.and_eq_false_iff, decide_eq_false_iff_not]
  rcases h with h | ⟨h, -⟩ <;> omega

theorem joinPieces?_code {n : Nat} (h : n.isValidChar) (pieces : List Piece) :
    joinPieces? (.code n :: pieces) = (joinPieces? pieces).map (Char.ofNat n :: ·) := by
  obtain ⟨hhigh, hlow⟩ := not_surrogate_of_isValidChar h
  match pieces with
  | [] => simp [joinPieces?, hhigh, hlow]
  | .character c :: pieces => simp [joinPieces?, hhigh, hlow]
  | .code m :: pieces => simp [joinPieces?, hhigh, hlow]

theorem or_eq_add {a b : Nat} (h : b < 0x400) : a * 0x400 ||| b = a * 0x400 + b := by
  have hor := Nat.two_pow_add_eq_or_of_lt (show b < 2 ^ 10 from h) a
  rw [Nat.mul_comm a]
  exact hor.symm

/-- Setting the bit of U+10000 adds it, if it is not set before. -/
theorem or_plane {x : Nat} (h : x / 0x10000 % 2 = 0) : x ||| 0x10000 = x + 0x10000 := by
  obtain ⟨k, hk⟩ : ∃ k, x / 0x10000 = 2 * k := ⟨x / 0x10000 / 2, by omega⟩
  have hx : x = 2 ^ 17 * k + x % 0x10000 := by omega
  have hlow : x % 0x10000 < 2 ^ 16 := Nat.mod_lt _ (by decide)
  generalize x % 0x10000 = low at hx hlow
  have hbit : 0x10000 + low = 0x10000 ||| low := by
    simpa using Nat.two_pow_add_eq_or_of_lt hlow 1
  calc x ||| 0x10000 = 2 ^ 17 * k ||| low ||| 0x10000 := by
        rw [hx, Nat.two_pow_add_eq_or_of_lt (by omega)]
    _ = 2 ^ 17 * k ||| (0x10000 + low) := by rw [Nat.or_assoc, Nat.or_comm low, hbit]
    _ = 2 ^ 17 * k + (0x10000 + low) := (Nat.two_pow_add_eq_or_of_lt (by omega) k).symm
    _ = x + 0x10000 := by omega

theorem ofSurrogates_eq {high low : Nat} (hhigh : isHighSurrogate high = true)
    (hlow : isLowSurrogate low = true) (hplane : pairPlane high low % 2 ≠ 0) :
    ofSurrogates high low = Char.ofNat (pairValue high low) := by
  simp only [isHighSurrogate, isLowSurrogate, Bool.and_eq_true, decide_eq_true_eq] at hhigh hlow
  rw [pairPlane, pairValue] at hplane
  rw [ofSurrogates, pairValue, or_eq_add (by omega), or_plane (by omega)]

/-- The reader takes the pieces of a string and leaves the rest, whatever fuel is left over. -/
def ReadsPieces (quote : Char) (s : List Char) (pieces : List Piece) (rest : List Char) : Prop :=
  ∀ fuel, s.length ≤ fuel → readPieces? quote fuel s = some (pieces, rest)

section

variable {quote : Char} {s t rest : List Char} {piece pieces : List Piece}

theorem readsPieces_close : ReadsPieces quote (quote :: rest) [] rest := by
  intro fuel hfuel
  obtain ⟨fuel, rfl⟩ := Nat.exists_eq_add_one.mpr (Nat.lt_of_lt_of_le (Nat.succ_pos _) hfuel)
  simp [readPieces?]

theorem readsPieces_character {c : Char} (hquote : c ≠ quote) (hbackslash : c ≠ '\\')
    (hline : endsLine c = false) (h : ReadsPieces quote s pieces rest) :
    ReadsPieces quote (c :: s) (.character c :: pieces) rest := by
  intro fuel hfuel
  obtain ⟨fuel, rfl⟩ := Nat.exists_eq_add_one.mpr (Nat.lt_of_lt_of_le (Nat.succ_pos _) hfuel)
  simp [readPieces?, hquote, hbackslash, hline, h fuel (by simpa using hfuel)]

theorem readsPieces_escape (hquote : quote ≠ '\\') (hescape : readEscape? s = some (piece, t))
    (hlength : t.length ≤ s.length) (h : ReadsPieces quote t pieces rest) :
    ReadsPieces quote ('\\' :: s) (piece ++ pieces) rest := by
  intro fuel hfuel
  obtain ⟨fuel, rfl⟩ := Nat.exists_eq_add_one.mpr (Nat.lt_of_lt_of_le (Nat.succ_pos _) hfuel)
  have hshort : t.length ≤ fuel := hlength.trans (by simpa using hfuel)
  simp [readPieces?, hquote.symm, hescape, h fuel hshort]

end

theorem readEscape?_character {c : Char} (hcode : c ≠ 'x' ∧ c ≠ 'u') (hdigit : isDigit c = false)
    (hline : endsLine c = false) (s : List Char) :
    readEscape? (c :: s) = some ([.character (escaped c)], s) := by
  unfold readEscape?
  split
  case h_1 heq => cases heq
  case h_2 heq => exact absurd (List.cons.inj heq).1 hcode.1
  case h_3 heq => exact absurd (List.cons.inj heq).1 hcode.2
  case h_4 heq =>
    obtain ⟨rfl, -⟩ := List.cons.inj heq
    exact absurd hdigit (by decide)
  case h_5 heq =>
    obtain ⟨rfl, -⟩ := List.cons.inj heq
    exact absurd hline (by decide)
  case h_6 heq =>
    obtain ⟨rfl, rfl⟩ := List.cons.inj heq
    simp [hline, hcode, hdigit]

theorem readEscape?_line {c : Char} (hc : endsLine c = true) {s : List Char} (hnext : s.head? ≠ some '\n') :
    readEscape? (c :: s) = some ([], s) := by
  have hne {d : Char} (hd : endsLine d = false) : c ≠ d := by
    rintro rfl
    rw [hc] at hd
    cases hd
  unfold readEscape?
  split
  case h_1 heq => cases heq
  case h_2 heq => exact absurd (List.cons.inj heq).1 (hne (by decide))
  case h_3 heq => exact absurd (List.cons.inj heq).1 (hne (by decide))
  case h_4 heq => exact absurd (List.cons.inj heq).1 (hne (by decide))
  case h_5 heq =>
    obtain ⟨-, rfl⟩ := List.cons.inj heq
    exact absurd rfl hnext
  case h_6 heq =>
    obtain ⟨rfl, rfl⟩ := List.cons.inj heq
    rw [if_pos hc]

/-- A line does not end within quotes without a backslash. -/
theorem InString.head?_ne {forms : Forms} {quote : Char} {rest meaning s : List Char}
    (h : InString forms quote rest meaning s) (hquote : quote ≠ '\n') : s.head? ≠ some '\n' := by
  cases h with
  | literal hc => simpa using hc.2.2.1
  | close => simpa using hquote
  | _ => simp

theorem Continued.head?_ne {rest s : List Char} (h : Continued rest s) (hrest : rest.head? ≠ some '\n') :
    s.head? ≠ some '\n' := by
  cases h with
  | none => exact hrest
  | _ => simp

theorem readsPieces_continued {quote : Char} {pieces : List Piece} {rest s t : List Char}
    (hquote : quote ≠ '\\') (hnext : t.head? ≠ some '\n') (hbetween : Continued t s)
    (h : ReadsPieces quote t pieces rest) : ReadsPieces quote s pieces rest := by
  induction hbetween with
  | none => exact h
  | line hc hmore ih =>
    exact readsPieces_escape hquote (readEscape?_line hc (hmore.head?_ne hnext)) (Nat.le_succ _) ih
  | @carriageReturn s _ ih =>
    have hescape : readEscape? ('\r' :: '\n' :: s) = some ([], s) := rfl
    exact readsPieces_escape hquote hescape ((Nat.le_succ _).trans (Nat.le_succ _)) ih

theorem IsLiteral.endsLine_eq {quote c : Char} (h : IsLiteral .plain quote c) : endsLine c = false := by
  by_contra hline
  have hforms := h.2.2.2.2 (by simpa using hline)
  cases hforms

/-- The pieces of a string are those of what it stands for. -/
theorem exists_readsPieces {quote : Char} {rest meaning s : List Char}
    (h : InString .plain quote rest meaning s) (hquote : quote = '"' ∨ quote = '\x27') :
    ∃ pieces, ReadsPieces quote s pieces rest ∧ joinPieces? pieces = some meaning := by
  have hbackslash : quote ≠ '\\' := by rcases hquote with rfl | rfl <;> decide
  have hline : quote ≠ '\n' := by rcases hquote with rfl | rfl <;> decide
  induction h with
  | close => exact ⟨[], readsPieces_close, rfl⟩
  | @literal c meaning s hc _ ih =>
    obtain ⟨pieces, hreads, hjoin⟩ := ih
    exact ⟨.character c :: pieces, readsPieces_character hc.1 hc.2.1 hc.endsLine_eq hreads,
      by simp [joinPieces?, hjoin]⟩
  | @escape c meaning s hcode hdigit hends _ ih =>
    obtain ⟨pieces, hreads, hjoin⟩ := ih
    exact ⟨[.character (escaped c)] ++ pieces,
      readsPieces_escape hbackslash (readEscape?_character hcode hdigit hends s) (Nat.le_succ _) hreads,
      by simp [joinPieces?, hjoin]⟩
  | @nul meaning s _ _ ih =>
    obtain ⟨pieces, hreads, hjoin⟩ := ih
    have hescape : readEscape? ('0' :: s) = some ([.character '\x00'], s) := rfl
    exact ⟨[.character '\x00'] ++ pieces, readsPieces_escape hbackslash hescape (Nat.le_succ _) hreads,
      by simp [joinPieces?, hjoin]⟩
  | @byte a b meaning s hdigits _ ih =>
    obtain ⟨pieces, hreads, hjoin⟩ := ih
    have hescape : readEscape? ('x' :: a :: b :: s)
        = some ([.character (Char.ofNat (numeralValue 16 [a, b]))], s) := by
      simp [readEscape?, codeOf?_eq hdigits]
    exact ⟨[.character _] ++ pieces, readsPieces_escape hbackslash hescape (by simp +arith) hreads,
      by simp [joinPieces?, hjoin]⟩
  | @code a b c d meaning s hdigits hvalid _ ih =>
    obtain ⟨pieces, hreads, hjoin⟩ := ih
    have hescape : readEscape? ('u' :: a :: b :: c :: d :: s)
        = some ([.code (numeralValue 16 [a, b, c, d])], s) := by
      simp [readEscape?, codeOf?_eq hdigits]
    exact ⟨[.code _] ++ pieces, readsPieces_escape hbackslash hescape (by simp +arith) hreads,
      by simp [joinPieces?_code hvalid, hjoin]⟩
  | @pair a b c d a' b' c' d' high low meaning s between hdigits hdigits' hhigh hlow hpair hplane
      hbetween _ ih =>
    obtain ⟨pieces, hreads, hjoin⟩ := ih
    have hescape : readEscape? ('u' :: a :: b :: c :: d :: between) = some ([.code high], between) := by
      simp [readEscape?, codeOf?_eq hdigits, hhigh]
    have hescape' : readEscape? ('u' :: a' :: b' :: c' :: d' :: s) = some ([.code low], s) := by
      simp [readEscape?, codeOf?_eq hdigits', hlow]
    have hodd : pairPlane high low % 2 ≠ 0 := fun heven => Forms.noConfusion (hplane heven)
    have hreads' := readsPieces_escape hbackslash hescape' (by simp +arith) hreads
    have hreads'' := readsPieces_continued hbackslash (by simp) hbetween hreads'
    exact ⟨[.code high] ++ ([.code low] ++ pieces),
      readsPieces_escape hbackslash hescape (by simp +arith) hreads'',
      by simp [joinPieces?, hpair, hjoin, ofSurrogates_eq hpair.1 hpair.2 hodd]⟩
  | @continued c meaning s hc hmore ih =>
    obtain ⟨pieces, hreads, hjoin⟩ := ih
    exact ⟨pieces, readsPieces_continued hbackslash (hmore.head?_ne hline) (.line hc .none) hreads, hjoin⟩
  | carriageReturn hmore ih =>
    obtain ⟨pieces, hreads, hjoin⟩ := ih
    exact ⟨pieces,
      readsPieces_continued hbackslash (hmore.head?_ne hline) (.carriageReturn .none) hreads, hjoin⟩

theorem readString?_of_inString {quote : Char} {rest meaning s : List Char}
    (h : InString .plain quote rest meaning s) (hquote : quote = '"' ∨ quote = '\x27') :
    readString? quote s = some (String.ofList meaning, rest) := by
  obtain ⟨pieces, hreads, hjoin⟩ := exists_readsPieces h hquote
  simp [readString?, hreads (s.length + 1) (Nat.le_succ _), hjoin]

/-! ## Names -/

/-- Names have neither backslashes nor the character NUL. -/
def IsNamePredicate (allowed : Char → Bool) : Prop :=
  allowed '\\' = false ∧ allowed '\x00' = false

theorem isNamePredicate_startsName : IsNamePredicate startsName :=
  ⟨startsName_of_isMark (by decide), startsName_of_isMark (by decide)⟩

theorem isNamePredicate_continuesName : IsNamePredicate continuesName :=
  ⟨continuesName_of_isMark (by decide), continuesName_of_isMark (by decide)⟩

theorem exists_readNameChar? {allowed : Char → Bool} (hallowed : IsNamePredicate allowed) {c : Char}
    {rest s : List Char} (h : InName allowed rest c s) :
    ∃ piece, readNameChar? allowed s = some (piece, rest)
      ∧ ∀ pieces, joinPieces? (piece :: pieces) = (joinPieces? pieces).map (c :: ·) := by
  cases h with
  | literal hc =>
    refine ⟨.character c, ?_, fun pieces => rfl⟩
    unfold readNameChar?
    split
    next heq =>
      obtain ⟨rfl, -⟩ := List.cons.inj heq
      rw [hallowed.1] at hc
      cases hc
    next heq =>
      obtain ⟨rfl, rfl⟩ := List.cons.inj heq
      rw [if_pos hc]
    next heq => cases heq
  | @code a b c d _ hdigits hx hc =>
    subst hx
    have hvalid : (numeralValue 16 [a, b, c, d]).isValidChar := by
      by_contra hinvalid
      have hnul : Char.ofNat (numeralValue 16 [a, b, c, d]) = '\x00' := dif_neg hinvalid
      rw [hnul, hallowed.2] at hc
      cases hc
    exact ⟨.code _, by simp [readNameChar?, codeOf?_eq hdigits], joinPieces?_code hvalid⟩

theorem readNameChar?_of_ends {rest : List Char} (h : Ends rest) :
    readNameChar? continuesName rest = none := by
  cases rest with
  | nil => rfl
  | cons c rest =>
    obtain ⟨hname, hbackslash, -⟩ := h c rfl
    unfold readNameChar?
    split
    next heq => exact absurd (List.cons.inj heq).1 hbackslash
    next heq =>
      obtain ⟨rfl, rfl⟩ := List.cons.inj heq
      rw [if_neg (by simp [hname])]
    next heq => rfl

theorem InName.length_lt {allowed : Char → Bool} {c : Char} {rest s : List Char}
    (h : InName allowed rest c s) : rest.length < s.length := by
  cases h <;> simp +arith

theorem exists_readNameRest {rest meaning s : List Char} (h : NameRest rest meaning s) (hends : Ends rest)
    {fuel : Nat} (hfuel : s.length ≤ fuel) :
    ∃ pieces, readNameRest fuel s = (pieces, rest) ∧ joinPieces? pieces = some meaning := by
  induction h generalizing fuel with
  | none =>
    refine ⟨[], ?_, rfl⟩
    cases fuel with
    | zero => rfl
    | succ fuel => simp [readNameRest, readNameChar?_of_ends hends]
  | more hc _ ih =>
    have hlength := hc.length_lt
    obtain ⟨fuel, rfl⟩ := Nat.exists_eq_add_one.mpr (Nat.lt_of_lt_of_le (Nat.zero_lt_of_lt hlength) hfuel)
    obtain ⟨piece, hread, hjoin⟩ := exists_readNameChar? isNamePredicate_continuesName hc
    obtain ⟨pieces, hreads, hjoins⟩ := ih (Nat.le_of_lt_succ (Nat.lt_of_lt_of_le hlength hfuel))
    exact ⟨piece :: pieces, by simp [readNameRest, hread, hreads], by simp [hjoin, hjoins]⟩

theorem readName?_of_name {c : Char} {rest meaning s t : List Char} (hc : InName startsName s c t)
    (h : NameRest rest meaning s) (hends : Ends rest) :
    readName? t = some (String.ofList (c :: meaning), rest) := by
  obtain ⟨piece, hread, hjoin⟩ := exists_readNameChar? isNamePredicate_startsName hc
  obtain ⟨pieces, hreads, hjoins⟩ := exists_readNameRest h hends le_rfl
  simp [readName?, hread, hreads, hjoin, hjoins]

theorem InName.head_ne {c d : Char} {rest s : List Char} (h : InName startsName rest c s)
    (hd : startsName d = false) (hbackslash : d ≠ '\\') : s.head? ≠ some d := by
  cases h with
  | literal hc =>
    intro heq
    obtain rfl := Option.some.inj heq
    rw [hd] at hc
    cases hc
  | code => simpa using hbackslash.symm

theorem readKey?_of_key {rest meaning s : List Char} (h : MemberKey .plain rest meaning s) (hends : Ends rest) :
    readKey? s = some (String.ofList meaning, rest) := by
  cases h with
  | quoted h =>
    obtain ⟨quote, hquote, t, rfl, h⟩ := h
    have hread := readString?_of_inString h hquote
    rcases hquote with rfl | rfl <;> exact hread
  | name hc h =>
    have hdouble := hc.head_ne (d := '"') (startsName_of_isMark (by decide)) (by decide)
    have hsingle := hc.head_ne (d := '\x27') (startsName_of_isMark (by decide)) (by decide)
    unfold readKey?
    split
    · exact absurd rfl hdouble
    · exact absurd rfl hsingle
    · exact readName?_of_name hc h hends

end BpfBoot.Json5
