import BpfBoot.Text.Numeral

/-!
# What numerals stand for

A run of decimal digits stands for the number that the library reads off it, however many digits there are
and however many of them are leading zeros.
-/

namespace BpfBoot.Text

theorem isDigit_eq (c : Char) : isDigit c = c.isDigit := rfl

/-- A numeral: decimal digits, and at least one. -/
def IsNumeral (run : List Char) : Prop :=
  run ≠ [] ∧ ∀ c ∈ run, isDigit c = true

theorem isDigit_iff {c : Char} : isDigit c = true ↔ 48 ≤ c.toNat ∧ c.toNat ≤ 57 := by
  simp only [isDigit, Bool.and_eq_true, decide_eq_true_eq, Char.le_def]
  exact Iff.rfl

theorem digitValue_of_isDigit {c : Char} (h : isDigit c = true) : digitValue c = c.toNat - '0'.toNat := by
  have hle : c ≤ '9' := by
    simp only [isDigit, Bool.and_eq_true, decide_eq_true_eq] at h
    exact h.2
  rw [digitValue, if_pos hle]

theorem numeralValue_eq {run : List Char} (h : ∀ c ∈ run, isDigit c = true) :
    numeralValue 10 run = Nat.ofDigitChars 10 run 0 := by
  -- The start value varies along the run.
  have hfold (start : Nat) : run.foldl (fun n c => 10 * n + digitValue c) start
      = Nat.ofDigitChars 10 run start := by
    induction run generalizing start with
    | nil => rfl
    | cons c run ih =>
      have hc := digitValue_of_isDigit (h c List.mem_cons_self)
      rw [List.foldl_cons, Nat.ofDigitChars_cons, hc]
      exact ih (fun d hd => h d (List.mem_cons_of_mem c hd)) _
  exact hfold 0

theorem IsNumeral.ne_plus {c : Char} {run : List Char} (h : IsNumeral (c :: run)) : c ≠ '+' := by
  rintro rfl
  exact absurd (h.2 '+' List.mem_cons_self) (by decide)

/-- A numeral is read if the number is below the bound. -/
theorem natBelow?_of_isNumeral {run : List Char} (h : IsNumeral run) (bound : Nat) :
    natBelow? bound run
      = if Nat.ofDigitChars 10 run 0 < bound then some (Nat.ofDigitChars 10 run 0) else none := by
  have hall : run.all isDigit = true := List.all_eq_true.mpr h.2
  cases run with
  | nil => exact absurd rfl h.1
  | cons c run =>
    have hplus := h.ne_plus
    have hvalue := numeralValue_eq h.2
    unfold natBelow?
    split
    · next hcons => exact absurd (List.cons.inj hcons).1 hplus
    · simp only [List.isEmpty_cons, hall, hvalue, Bool.not_true, Bool.or_self, Bool.false_eq_true,
        if_false]

/-- A plus sign in front of a numeral makes no difference. -/
theorem natBelow?_plus {run : List Char} (h : IsNumeral run) (bound : Nat) :
    natBelow? bound ('+' :: run) = natBelow? bound run := by
  cases run with
  | nil => exact absurd rfl h.1
  | cons c run =>
    have hplus := h.ne_plus
    unfold natBelow?
    split
    · next hcons =>
      split
      · next hcons' => exact absurd (List.cons.inj hcons').1 hplus
      · rw [← (List.cons.inj hcons).2]
    · next hno => exact absurd rfl (hno (c :: run))

/-- What is read is a numeral behind an optional plus sign. -/
theorem natBelow?_eq_some_iff {bound n : Nat} {s : List Char} :
    natBelow? bound s = some n ↔ n < bound ∧ ∃ sign run, s = sign ++ run ∧ (sign = [] ∨ sign = ['+'])
      ∧ IsNumeral run ∧ Nat.ofDigitChars 10 run 0 = n := by
  constructor
  · intro h
    obtain ⟨sign, run, hs, hsign, hread⟩ : ∃ sign run, s = sign ++ run ∧ (sign = [] ∨ sign = ['+'])
        ∧ (if run.isEmpty || !run.all isDigit then none
          else if numeralValue 10 run < bound then some (numeralValue 10 run) else none) = some n := by
      unfold natBelow? at h
      split at h
      · exact ⟨['+'], _, rfl, .inr rfl, h⟩
      · exact ⟨[], _, rfl, .inl rfl, h⟩
    split at hread
    · cases hread
    · next hdigits =>
      have hrun : IsNumeral run := by simpa [IsNumeral, List.isEmpty_iff] using hdigits
      split at hread
      · next hlt =>
        rw [numeralValue_eq hrun.2] at hread hlt
        cases hread
        exact ⟨hlt, sign, run, hs, hsign, hrun, rfl⟩
      · cases hread
  · rintro ⟨hn, sign, run, rfl, hsign, hrun, rfl⟩
    have hread : natBelow? bound run = some (Nat.ofDigitChars 10 run 0) := by
      rw [natBelow?_of_isNumeral hrun, if_pos hn]
    rcases hsign with rfl | rfl
    · exact hread
    · exact (natBelow?_plus hrun bound).trans hread

/-- A number in base ten, with zeros before it. -/
def paddedDecimal (zeros n : Nat) : List Char :=
  List.replicate zeros '0' ++ Nat.toDigits 10 n

theorem isNumeral_paddedDecimal (zeros n : Nat) : IsNumeral (paddedDecimal zeros n) := by
  constructor
  · simp [paddedDecimal, Nat.toDigits_ne_nil]
  · intro c hc
    rcases List.mem_append.mp hc with hzero | hdigit
    · obtain rfl := List.eq_of_mem_replicate hzero
      rfl
    · rw [isDigit_eq]
      exact Nat.isDigit_of_mem_toDigits (by decide) (by decide) hdigit

theorem ofDigitChars_paddedDecimal (zeros n : Nat) :
    Nat.ofDigitChars 10 (paddedDecimal zeros n) 0 = n := by
  rw [paddedDecimal, Nat.ofDigitChars_append, Nat.ofDigitChars_replicate_zero, Nat.mul_zero,
    Nat.ofDigitChars_ten_toDigits]

end BpfBoot.Text
