import BpfBoot.Proofs.Json5.Quoted
import BpfBoot.Proofs.Number.Whole

/-!
# Numbers are read

Every natural number of at most 53 bits is read off each of its forms, with or without a point and an exponent:
as an integer, or as the floating point number that is equal to it.
-/

namespace BpfBoot.Json5

open Number Text

/-- The value is a natural number. -/
inductive Value.IsNatural (n : Nat) : Value → Prop where
  | integer : IsNatural n (.integer (Int.ofNat n))
  | float {x : Binary64} (h : Binary64.IsWhole n x) : IsNatural n (.float x)

theorem span_append {p : Char → Bool} {s t : List Char} (hs : ∀ c ∈ s, p c = true)
    (ht : ∀ c ∈ t.head?, p c = false) : (s ++ t).span p = (s, t) := by
  have htake : t.takeWhile p = [] := by
    cases t with
    | nil => rfl
    | cons c t => simp [ht c rfl]
  have hdrop : t.dropWhile p = t := by
    cases t with
    | nil => rfl
    | cons c t => simp [ht c rfl]
  rw [List.span_eq_takeWhile_dropWhile, List.takeWhile_append_of_pos hs, List.dropWhile_append_of_pos hs,
    htake, hdrop, List.append_nil]

/-- What comes after the digits of a number: an exponent, or what ends the number. -/
def EndsDigits (s : List Char) : Prop :=
  ∀ c ∈ s.head?, isDigit c = false ∧ c ≠ '.' ∧ c ≠ 'x' ∧ c ≠ 'X'

theorem endsDigits_append {k : Int} {exponent rest : List Char} (h : ExponentPart k exponent)
    (hends : Ends rest) : EndsDigits (exponent ++ rest) := by
  intro c hc
  cases h with
  | none =>
    obtain ⟨-, -, hpoint, -, hdigit, -, -, hsmall, hgreat⟩ := hends c hc
    exact ⟨hdigit, hpoint, hsmall, hgreat⟩
  | some he =>
    obtain rfl := Option.some.inj hc
    rcases he with rfl | rfl <;> decide

theorem ends_isDigit {rest : List Char} (h : Ends rest) : ∀ c ∈ rest.head?, isDigit c = false :=
  fun c hc => (h c hc).2.2.2.2.1

theorem spanDigits_append {digits t : List Char} (h : AreDigits digits)
    (ht : ∀ c ∈ t.head?, isDigit c = false) : spanDigits (digits ++ t) = (digits, t) :=
  span_append h ht

theorem ne_of_isDigit {c d : Char} (hc : isDigit c = true) (hd : isDigit d = false) : c ≠ d := by
  rintro rfl
  rw [hc] at hd
  cases hd

/-! ## Exponents -/

theorem readExponent_of_ends {rest : List Char} (h : Ends rest) : readExponent rest = (none, rest) := by
  cases rest with
  | nil => rfl
  | cons c rest =>
    obtain ⟨-, -, -, -, -, hsmall, hgreat, -⟩ := h c rfl
    simp [readExponent, hsmall, hgreat]

/-- An exponent is read, and none is read where none is. -/
theorem exists_readExponent {k : Int} {exponent rest : List Char} (h : ExponentPart k exponent)
    (hends : Ends rest) :
    ∃ e, readExponent (exponent ++ rest) = (e, rest) ∧ exponentOf e = k := by
  cases h with
  | none => exact ⟨none, readExponent_of_ends hends, rfl⟩
  | @some e negative sign digits he hsign h =>
    refine ⟨some (negative, digits), ?_, rfl⟩
    have hletter : (e == 'e' || e == 'E') = true := by rcases he with rfl | rfl <;> decide
    have hspan := spanDigits_append h.2 (ends_isDigit hends)
    obtain ⟨hne, hdigits⟩ := h
    obtain ⟨d, digits, rfl⟩ := List.exists_cons_of_ne_nil hne
    -- A digit is no sign.
    have hplus := ne_of_isDigit (hdigits d List.mem_cons_self) (d := '+') (by decide)
    have hminus := ne_of_isDigit (hdigits d List.mem_cons_self) (d := '-') (by decide)
    cases hsign <;> simp only [List.cons_append, List.nil_append] at hspan ⊢ <;>
      simp [readExponent, hletter, hplus, hminus, hspan]

/-! ## Digits -/

theorem readWhole_append {whole t : List Char} (h : WholePart whole)
    (ht : ∀ c ∈ t.head?, isDigit c = false) : readWhole (whole ++ t) = (whole, t) := by
  cases h with
  | zero => rfl
  | @digits c s hc hdigits =>
    rw [List.cons_append, readWhole]
    · exact spanDigits_append hdigits ht
    · intro rest heq
      exact hc (List.cons.inj heq).1

theorem WholePart.ne_nil {whole : List Char} (h : WholePart whole) : whole ≠ [] := by
  cases h <;> simp

theorem readHex?_of_ne {c : Char} (hc : c ≠ '0') (s : List Char) : readHex? (c :: s) = none := by
  unfold readHex?
  split
  next heq => exact absurd (List.cons.inj heq).1 hc
  next => rfl

/-- A number in base ten is no number in base sixteen. -/
theorem readHex?_whole {whole t : List Char} (h : WholePart whole)
    (ht : ∀ c ∈ t.head?, c ≠ 'x' ∧ c ≠ 'X') : readHex? (whole ++ t) = none := by
  cases h with
  | zero =>
    cases t with
    | nil => rfl
    | cons c t =>
      obtain ⟨hsmall, hgreat⟩ := ht c rfl
      simp [readHex?, hsmall, hgreat]
  | digits hc => exact readHex?_of_ne hc _

theorem readHex?_mantissa {whole places mantissa t : List Char} (h : Mantissa whole places mantissa)
    (ht : EndsDigits t) : readHex? (mantissa ++ t) = none := by
  cases h with
  | integer h => exact readHex?_whole h fun c hc => (ht c hc).2.2
  | point h =>
    rw [List.append_assoc]
    exact readHex?_whole h (by simp)
  | fraction => exact readHex?_of_ne (by decide) _

theorem readHex?_digits {x : Char} {digits rest : List Char} (hx : x = 'x' ∨ x = 'X')
    (hdigits : AreHexDigits digits) (hne : digits ≠ []) (hends : Ends rest) :
    readHex? ('0' :: x :: (digits ++ rest)) = some (.hex digits, rest) := by
  have hletter : (x == 'x' || x == 'X') = true := by rcases hx with rfl | rfl <;> decide
  have hspan : (digits ++ rest).span isHexDigit = (digits, rest) :=
    span_append hdigits fun c hc => (hends c hc).2.2.2.1
  obtain ⟨d, digits, rfl⟩ := List.exists_cons_of_ne_nil hne
  simp only [readHex?, hletter, if_true, hspan]

/-- The digits of a number in base ten are read, and its exponent. -/
theorem exists_readDecimal? {whole places mantissa exponent rest : List Char} {k : Int}
    (h : Mantissa whole places mantissa) (hexponent : ExponentPart k exponent) (hends : Ends rest) :
    ∃ hasPoint e, readDecimal? (mantissa ++ (exponent ++ rest)) = some (.decimal whole places hasPoint e, rest)
      ∧ exponentOf e = k ∧ (hasPoint = false → places = []) := by
  obtain ⟨e, hread, hk⟩ := exists_readExponent hexponent hends
  have ht := endsDigits_append hexponent hends
  have hdigit : ∀ c ∈ (exponent ++ rest).head?, isDigit c = false := fun c hc => (ht c hc).1
  generalize exponent ++ rest = t at hread ht hdigit
  cases h with
  | integer h =>
    refine ⟨false, e, ?_, hk, fun _ => rfl⟩
    have hpoint : ∀ r, t ≠ '.' :: r := by
      rintro r rfl
      exact (ht '.' rfl).2.1 rfl
    have hwhole := readWhole_append h hdigit
    obtain ⟨c, whole, rfl⟩ := List.exists_cons_of_ne_nil h.ne_nil
    simp only [List.cons_append] at hwhole ⊢
    simp [readDecimal?, hwhole, hread]
  | @point _ _ h hplaces =>
    refine ⟨true, e, ?_, hk, nofun⟩
    have hwhole := readWhole_append h (t := '.' :: (places ++ t)) (by simp; decide)
    have hspan := spanDigits_append hplaces hdigit
    obtain ⟨c, whole, rfl⟩ := List.exists_cons_of_ne_nil h.ne_nil
    simp only [List.cons_append, List.append_assoc] at hwhole ⊢
    simp [readDecimal?, hwhole, hspan, hread]
  | fraction hplaces hne =>
    refine ⟨true, e, ?_, hk, nofun⟩
    have hspan := spanDigits_append hplaces hdigit
    obtain ⟨c, places, rfl⟩ := List.exists_cons_of_ne_nil hne
    simp only [List.cons_append] at hspan ⊢
    have hwhole : readWhole ('.' :: c :: (places ++ t)) = ([], '.' :: c :: (places ++ t)) := rfl
    simp [readDecimal?, hwhole, hspan, hread]

/-! ## Values -/

theorem exists_integerOf? {sign : Sign} {digits : List Char} {n : Nat} (hn : n < numberBound)
    (hsign : sign = .minus → n = 0) (hvalue : numeralValue 10 digits = n) :
    integerOf? sign digits = some (.integer (Int.ofNat n)) := by
  subst hvalue
  by_cases hminus : sign = .minus
  · simp [integerOf?, hminus, hsign hminus]
  · have hbound : numeralValue 10 digits < integerBound := hn.trans (by decide)
    simp [integerOf?, hminus, hbound]

theorem exists_valueOf?_decimal {sign : Sign} {whole places : List Char} {hasPoint : Bool}
    {exponent : Option (Bool × List Char)} {n : Nat} (hn : n < numberBound) (hsign : sign = .minus → n = 0)
    (hpoint : hasPoint = false → places = [])
    (hvalue : (numeralValue 10 (whole ++ places) : ℚ) * 10 ^ (exponentOf exponent - places.length) = n) :
    ∃ v, valueOf? sign (.decimal whole places hasPoint exponent) = some v ∧ v.IsNatural n := by
  have hminus : decide (sign = .minus) = true → n = 0 := by simpa using hsign
  have hwhole := Binary64.isWhole_ofDecimal hn hminus hvalue
  unfold valueOf?
  split
  case h_1 heq => cases heq
  case h_2 heq =>
    cases heq
    obtain rfl := hpoint rfl
    have hdigits : numeralValue 10 whole = n := by
      simpa [exponentOf] using hvalue
    exact ⟨_, exists_integerOf? hn hsign hdigits, .integer⟩
  case h_3 heq =>
    cases heq
    simp only [Int.ofNat_eq_natCast]
    exact ⟨_, if_pos hwhole.isFinite, .float hwhole⟩
  case h_4 heq => cases heq
  case h_5 heq => cases heq

/-- Digits and points are no signs. -/
theorem readSign_of_signPart {n : Nat} {sign s : List Char} (h : SignPart n sign)
    (hs : ∀ c ∈ s.head?, c ≠ '+' ∧ c ≠ '-') :
    ∃ σ, readSign (sign ++ s) = (σ, s) ∧ (σ = .minus → n = 0) ∧ (sign = [] → σ = .none) := by
  cases h with
  | none =>
    refine ⟨.none, ?_, nofun, fun _ => rfl⟩
    cases s with
    | nil => rfl
    | cons c s =>
      obtain ⟨hplus, hminus⟩ := hs c rfl
      simp [readSign, hplus, hminus]
  | plus => exact ⟨.plus, rfl, nofun, nofun⟩
  | minus h => exact ⟨.minus, rfl, fun _ => h, nofun⟩

theorem WholePart.head_isDigit {whole : List Char} (h : WholePart whole) (t : List Char) :
    ∀ c ∈ (whole ++ t).head?, isDigit c = true := by
  intro c hc
  cases h with
  | zero =>
    obtain rfl := Option.some.inj hc
    decide
  | digits _ hdigits =>
    obtain rfl := Option.some.inj hc
    exact hdigits _ List.mem_cons_self

theorem Mantissa.head_eq {whole places mantissa : List Char} (h : Mantissa whole places mantissa)
    (t : List Char) : ∀ c ∈ (mantissa ++ t).head?, isDigit c = true ∨ c = '.' := by
  intro c hc
  cases h with
  | integer h => exact .inl (h.head_isDigit t c hc)
  | point h =>
    rw [List.append_assoc] at hc
    exact .inl (h.head_isDigit _ c hc)
  | fraction => exact .inr (Option.some.inj hc).symm

theorem exists_readNumber? {n : Nat} {s rest : List Char} (h : WritesNumber .plain n s) (hn : n < numberBound)
    (hends : Ends rest) : ∃ v, readNumber? (s ++ rest) = some (v, rest) ∧ v.IsNatural n := by
  cases h with
  | @decimal sign whole places mantissa exponent k hsign hmantissa hexponent hvalue =>
    obtain ⟨hasPoint, e, hread, rfl, hpoint⟩ := exists_readDecimal? hmantissa hexponent hends
    have hhead : ∀ c ∈ (mantissa ++ (exponent ++ rest)).head?, c ≠ '+' ∧ c ≠ '-' := by
      intro c hc
      rcases hmantissa.head_eq _ c hc with hdigit | rfl
      · exact ⟨ne_of_isDigit hdigit (by decide), ne_of_isDigit hdigit (by decide)⟩
      · decide
    obtain ⟨σ, hreadSign, hminus, -⟩ := readSign_of_signPart hsign hhead
    obtain ⟨v, hv, hnatural⟩ := exists_valueOf?_decimal hn hminus hpoint hvalue
    have hhex := readHex?_mantissa hmantissa (endsDigits_append hexponent hends)
    refine ⟨v, ?_, hnatural⟩
    simp only [List.append_assoc]
    simp [readNumber?, hreadSign, readNumeral?, hhex, hread, hv]
  | @hex sign digits x hsign hx hdigits hne hvalue hform =>
    have hplain : ¬ (sign ≠ [] ∨ hexBound ≤ n) := fun h => Forms.noConfusion (hform h)
    obtain ⟨hunsigned, hbound⟩ := not_or.mp hplain
    obtain rfl : sign = [] := not_not.mp hunsigned
    have hread := readHex?_digits hx hdigits hne hends
    have hsign : readSign ('0' :: x :: (digits ++ rest)) = (.none, '0' :: x :: (digits ++ rest)) := rfl
    have hvalueOf : valueOf? .none (.hex digits) = some (.integer (Int.ofNat n)) := by
      simp [valueOf?, hvalue, Nat.not_le.mp hbound]
    refine ⟨.integer (Int.ofNat n), ?_, .integer⟩
    simp only [List.nil_append, List.cons_append]
    simp [readNumber?, hsign, readNumeral?, hread, hvalueOf]

end BpfBoot.Json5
