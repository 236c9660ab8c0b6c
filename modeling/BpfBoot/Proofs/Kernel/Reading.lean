import BpfBoot.Kernel.Version
import BpfBoot.Proofs.Text.Numeral
import BpfBoot.Proofs.Text.Utf8

/-!
# Reading the release of a kernel

What is read of a release name is the longest part at its start that consists of one to three numerals with
dots between them. The reader finds it run by run: no other such part has more runs than the reader's, and the
runs of every other one are the first of the reader's. Large numbers are limited twice, to 32 bits when a run
is read and to the width of the field when the version is packed, which comes to the second limit alone.
-/

namespace BpfBoot.KernelVersion

open Text

/-! ## Runs of digits -/

/-- No digit stands at the start of a text. -/
def StopsDigits (s : List Char) : Prop :=
  ∀ c ∈ s.head?, isDigit c = false

theorem takeWhile_numeral {run rest : List Char} (hrun : IsNumeral run) (hrest : StopsDigits rest) :
    (run ++ rest).takeWhile isDigit = run := by
  rw [List.takeWhile_append_of_pos hrun.2]
  cases rest with
  | nil => simp
  | cons c rest => simp [hrest c rfl]

theorem dropWhile_numeral {run rest : List Char} (hrun : IsNumeral run) (hrest : StopsDigits rest) :
    (run ++ rest).dropWhile isDigit = rest := by
  rw [List.dropWhile_append_of_pos hrun.2]
  cases rest with
  | nil => rfl
  | cons c rest => simp [hrest c rfl]

theorem isEmpty_numeral {run : List Char} (hrun : IsNumeral run) : run.isEmpty = false := by
  simpa using hrun.1

theorem stopsDigits_dot (rest : List Char) : StopsDigits ('.' :: rest) := by
  rintro _ ⟨⟩
  rfl

theorem leadingRuns_dot {run : List Char} (hrun : IsNumeral run) (rest : List Char) (limit : Nat) :
    leadingRuns (limit + 1) (run ++ '.' :: rest) = run :: leadingRuns limit rest := by
  have hrest := stopsDigits_dot rest
  rw [leadingRuns, takeWhile_numeral hrun hrest, dropWhile_numeral hrun hrest, isEmpty_numeral hrun]
  rfl

theorem leadingRuns_end {run rest : List Char} (hrun : IsNumeral run) (hrest : StopsDigits rest)
    (hdot : ∀ rest', rest ≠ '.' :: rest') (limit : Nat) :
    leadingRuns (limit + 1) (run ++ rest) = [run] := by
  rw [leadingRuns, takeWhile_numeral hrun hrest, dropWhile_numeral hrun hrest, isEmpty_numeral hrun]
  simp only [Bool.false_eq_true, if_false]

theorem takeWhile_of_stopsDigits {s : List Char} (hs : StopsDigits s) : s.takeWhile isDigit = [] := by
  cases s with
  | nil => rfl
  | cons c s => simp [hs c rfl]

theorem leadingRuns_of_stopsDigits {s : List Char} (hs : StopsDigits s) (limit : Nat) :
    leadingRuns limit s = [] := by
  cases limit with
  | zero => rfl
  | succ limit =>
    rw [leadingRuns, takeWhile_of_stopsDigits hs]
    rfl

/-- A text starts with a numeral that ends where the digits do, or with no digit at all. -/
theorem exists_numeral_or (s : List Char) :
    (∃ run rest, IsNumeral run ∧ StopsDigits rest ∧ s = run ++ rest) ∨ StopsDigits s := by
  have hrest : StopsDigits (s.dropWhile isDigit) := by
    intro c hc
    have := List.head?_dropWhile_not isDigit s
    rw [hc] at this
    exact this
  by_cases hempty : s.takeWhile isDigit = []
  · right
    have := List.takeWhile_append_dropWhile (p := isDigit) (l := s)
    rw [hempty, List.nil_append] at this
    exact this ▸ hrest
  · refine .inl ⟨s.takeWhile isDigit, s.dropWhile isDigit, ⟨hempty, fun c hc => ?_⟩, hrest, ?_⟩
    · exact List.all_eq_true.mp (List.all_takeWhile (p := isDigit)) c hc
    · exact List.takeWhile_append_dropWhile.symm

/-! ## The longest reading -/

/-- One to three numerals with dots between them stand at the start of a text, each as long as its digits go
on. -/
structure Leads (runs : List (List Char)) (s rest : List Char) : Prop where
  numerals : ∀ run ∈ runs, IsNumeral run
  count : 1 ≤ runs.length ∧ runs.length ≤ 3
  split : s = ['.'].intercalate runs ++ rest
  maximal : StopsDigits rest

structure LeadsLongest (runs : List (List Char)) (s rest : List Char) : Prop
    extends Leads runs s rest where
  longest : ∀ runs' rest', Leads runs' s rest' →
    (['.'].intercalate runs').length ≤ (['.'].intercalate runs).length

/-- The runs that the reader finds lead the text. -/
theorem exists_leadingRuns_append (limit : Nat) (s : List Char) :
    (∀ run ∈ leadingRuns limit s, IsNumeral run) ∧ (leadingRuns limit s).length ≤ limit
      ∧ (leadingRuns limit s ≠ [] →
        ∃ rest, s = ['.'].intercalate (leadingRuns limit s) ++ rest ∧ StopsDigits rest) := by
  induction limit generalizing s with
  | zero => simp [leadingRuns]
  | succ limit ih =>
    rcases exists_numeral_or s with ⟨run, rest, hrun, hrest, rfl⟩ | hs
    · by_cases hdot : ∃ rest', rest = '.' :: rest'
      · obtain ⟨rest, rfl⟩ := hdot
        obtain ⟨hnumerals, hlength, hsplit⟩ := ih rest
        rw [leadingRuns_dot hrun]
        refine ⟨by simpa using ⟨hrun, hnumerals⟩, by simpa using hlength, fun _ => ?_⟩
        by_cases hmore : leadingRuns limit rest = []
        · rw [hmore]
          exact ⟨'.' :: rest, by simp, hrest⟩
        · obtain ⟨rest', hrest', hstops⟩ := hsplit hmore
          refine ⟨rest', ?_, hstops⟩
          rw [List.intercalate_cons_of_ne_nil hmore, List.append_assoc, List.append_assoc, ← hrest']
          rfl
      · rw [leadingRuns_end hrun hrest (not_exists.mp hdot)]
        exact ⟨by simpa using hrun, by simp, fun _ => ⟨rest, by simp, hrest⟩⟩
    · simp [leadingRuns_of_stopsDigits hs]

/-- The runs of any reading are the first of the runs that the reader finds. -/
theorem prefix_leadingRuns {runs : List (List Char)} {rest : List Char} {limit : Nat}
    (hnumerals : ∀ run ∈ runs, IsNumeral run) (hcount : runs.length ≤ limit) (hrest : StopsDigits rest) :
    runs <+: leadingRuns limit (['.'].intercalate runs ++ rest) := by
  induction runs generalizing limit with
  | nil => exact List.nil_prefix
  | cons run runs ih =>
    obtain ⟨limit, rfl⟩ : ∃ limit', limit = limit' + 1 := ⟨limit - 1, by simp at hcount; omega⟩
    have hrun := hnumerals run List.mem_cons_self
    cases runs with
    | nil =>
      rw [List.intercalate_singleton]
      by_cases hdot : ∃ rest', rest = '.' :: rest'
      · obtain ⟨rest, rfl⟩ := hdot
        rw [leadingRuns_dot hrun]
        exact (List.prefix_cons_inj run).mpr List.nil_prefix
      · exact leadingRuns_end hrun hrest (not_exists.mp hdot) limit ▸ List.prefix_rfl
    | cons next runs =>
      have hmore := @ih limit (fun r hr => hnumerals r (List.mem_cons_of_mem run hr))
        (by simpa using hcount)
      rw [List.intercalate_cons_cons, List.append_assoc, List.append_assoc, List.singleton_append,
        leadingRuns_dot hrun]
      exact (List.prefix_cons_inj run).mpr hmore

theorem intercalate_append {runs more : List (List Char)} (hruns : runs ≠ []) (hmore : more ≠ []) :
    ['.'].intercalate (runs ++ more) = ['.'].intercalate runs ++ '.' :: ['.'].intercalate more := by
  induction runs with
  | nil => exact absurd rfl hruns
  | cons run runs ih =>
    cases runs with
    | nil => simp [List.intercalate_cons_of_ne_nil hmore]
    | cons next runs =>
      have hnext := ih (List.cons_ne_nil next runs)
      rw [List.cons_append, List.cons_append, List.intercalate_cons_cons, List.intercalate_cons_cons,
        ← List.cons_append, hnext]
      simp only [List.append_assoc]

section

variable {runs : List (List Char)} {s rest : List Char}

theorem Leads.ne_nil (h : Leads runs s rest) : runs ≠ [] :=
  List.length_pos_iff.mp h.count.1

theorem Leads.isPrefix (h : Leads runs s rest) : runs <+: leadingRuns 3 s :=
  h.split ▸ prefix_leadingRuns h.numerals h.count.2 h.maximal

theorem Leads.leadingRuns_ne_nil (h : Leads runs s rest) : leadingRuns 3 s ≠ [] := by
  intro hnil
  have hprefix := h.isPrefix
  rw [hnil, List.prefix_nil] at hprefix
  exact h.ne_nil hprefix

theorem exists_leads (h : leadingRuns 3 s ≠ []) : ∃ rest, Leads (leadingRuns 3 s) s rest := by
  obtain ⟨hnumerals, hlength, hsplit⟩ := exists_leadingRuns_append 3 s
  obtain ⟨rest, hrest, hstops⟩ := hsplit h
  exact ⟨rest, hnumerals, ⟨List.length_pos_iff.mpr h, hlength⟩, hrest, hstops⟩

/-- A further run would make a reading longer. -/
theorem Leads.length_le (h : Leads runs s rest) :
    (['.'].intercalate runs).length ≤ (['.'].intercalate (leadingRuns 3 s)).length
      ∧ ((['.'].intercalate (leadingRuns 3 s)).length ≤ (['.'].intercalate runs).length →
        runs = leadingRuns 3 s) := by
  obtain ⟨more, hmore⟩ := h.isPrefix
  rw [← hmore]
  cases more with
  | nil => simp
  | cons next more =>
    rw [intercalate_append h.ne_nil (List.cons_ne_nil next more), List.length_append, List.length_cons]
    exact ⟨by omega, fun hle => by omega⟩

/-- The longest reading is the reader's. -/
theorem LeadsLongest.eq_leadingRuns (h : LeadsLongest runs s rest) : runs = leadingRuns 3 s := by
  obtain ⟨rest', hleads⟩ := exists_leads h.leadingRuns_ne_nil
  exact h.length_le.2 (h.longest _ rest' hleads)

theorem exists_leadsLongest (h : leadingRuns 3 s ≠ []) :
    ∃ rest, LeadsLongest (leadingRuns 3 s) s rest := by
  obtain ⟨rest, hleads⟩ := exists_leads h
  exact ⟨rest, hleads, fun _ _ hother => hother.length_le.1⟩

end

/-! ## Cutting by bytes -/

def isDigitByte (b : UInt8) : Bool :=
  0x30 ≤ b && b ≤ 0x39

/-- The runs that are found by counting digits in the UTF-8 form of the text and cutting the text after so many
bytes; nothing is found if a cut falls inside a character. -/
def cutRuns? : (limit : Nat) → List Char → Option (List (List Char))
  | 0, _ => some []
  | limit + 1, s =>
      let count := ((s.flatMap String.utf8EncodeChar).takeWhile isDigitByte).length
      if count = 0 then some []
      else
        match Utf8.cut? count s with
        | none => none
        | some (digits, '.' :: rest) => (cutRuns? limit rest).map (digits :: ·)
        | some (digits, _) => some [digits]

theorem isDigitByte_iff {b : UInt8} : isDigitByte b = true ↔ 48 ≤ b.toNat ∧ b.toNat ≤ 57 := by
  simp only [isDigitByte, Bool.and_eq_true, decide_eq_true_eq, UInt8.le_iff_toNat_le]
  exact Iff.rfl

/-- A character is a digit just if its form starts with the byte of a digit. -/
theorem isDigitByte_eq_isDigit {c : Char} {b : UInt8} {more : Bytes}
    (h : String.utf8EncodeChar c = b :: more) : isDigitByte b = isDigit c := by
  rw [Bool.eq_iff_iff, isDigitByte_iff, isDigit_iff]
  rcases Nat.lt_or_ge b.toNat 0x80 with hb | hb
  · rw [(Utf8.encodeChar_of_ascii h hb).2]
  · have hc : 0x80 ≤ c.toNat := by
      refine Nat.le_of_not_lt fun hc => ?_
      obtain ⟨d, hd⟩ := Utf8.exists_byte (n := c.toNat) (by omega)
      rw [Utf8.encodeChar_one hc hd] at h
      obtain ⟨rfl, -⟩ := List.cons.inj h
      omega
    omega

theorem takeWhile_isDigitByte (s : List Char) :
    (s.flatMap String.utf8EncodeChar).takeWhile isDigitByte
      = (s.takeWhile isDigit).flatMap String.utf8EncodeChar := by
  induction s with
  | nil => rfl
  | cons c s ih =>
    obtain ⟨b, more, hform⟩ : ∃ b more, String.utf8EncodeChar c = b :: more :=
      List.exists_cons_of_ne_nil String.utf8EncodeChar_ne_nil
    have hdigit := isDigitByte_eq_isDigit hform
    cases hc : isDigit c with
    | false =>
      rw [hc] at hdigit
      rw [List.flatMap_cons, hform, List.cons_append, List.takeWhile_cons_of_neg (by simp [hdigit]),
        List.takeWhile_cons_of_neg (by simp [hc])]
      rfl
    | true =>
      rw [hc] at hdigit
      have hb : b.toNat < 0x80 := by
        have := isDigitByte_iff.mp hdigit
        omega
      obtain ⟨rfl, -⟩ := Utf8.encodeChar_of_ascii hform hb
      rw [List.flatMap_cons, hform, List.singleton_append, List.takeWhile_cons_of_pos hdigit, ih,
        List.takeWhile_cons_of_pos hc, List.flatMap_cons, hform, List.singleton_append]

/-- Every cut falls between two characters, where the digits end. -/
theorem cutRuns?_eq (limit : Nat) (s : List Char) : cutRuns? limit s = some (leadingRuns limit s) := by
  induction limit generalizing s with
  | zero => rfl
  | succ limit ih =>
    rcases exists_numeral_or s with ⟨run, rest, hrun, hrest, rfl⟩ | hs
    · have hcut := Utf8.cut?_append run rest
      have hcount : (run.flatMap String.utf8EncodeChar).length ≠ 0 := by
        obtain ⟨c, run, rfl⟩ := List.exists_cons_of_ne_nil hrun.1
        have hpos := Char.utf8Size_pos c
        rw [List.flatMap_cons, List.length_append, String.length_utf8EncodeChar]
        omega
      rw [cutRuns?, takeWhile_isDigitByte, takeWhile_numeral hrun hrest]
      simp only [if_neg hcount, hcut]
      split
      · next hnone => cases hnone
      · next hsome =>
        obtain ⟨rfl, rfl⟩ := Prod.mk.inj (Option.some.inj hsome)
        rw [ih, leadingRuns_dot hrun]
        rfl
      · next hdot hsome =>
        obtain ⟨rfl, rfl⟩ := Prod.mk.inj (Option.some.inj hsome)
        rw [leadingRuns_end hrun hrest fun rest' h => hdot rest' h]
    · rw [leadingRuns_of_stopsDigits hs, cutRuns?, takeWhile_isDigitByte, takeWhile_of_stopsDigits hs]
      rfl

/-! ## The version that is read -/

/-- The number of the run at an index; zero if there is no such run. -/
def partNumber (runs : List (List Char)) (index : Nat) : Nat :=
  (runs[index]?.map fun run => Nat.ofDigitChars 10 run 0).getD 0

theorem component_of_isNumeral {run : List Char} (h : IsNumeral run) :
    component run = min (Nat.ofDigitChars 10 run 0) (componentBound - 1) := by
  rw [component, natBelow?_of_isNumeral h, componentBound]
  split
  · rw [Option.getD_some]
    omega
  · rw [Option.getD_none]
    omega

theorem getD_map_component {runs : List (List Char)} (h : ∀ run ∈ runs, IsNumeral run) (index : Nat) :
    (runs.map component).getD index 0 = min (partNumber runs index) (componentBound - 1) := by
  rw [List.getD_eq_getElem?_getD, List.getElem?_map, partNumber]
  cases hrun : runs[index]? with
  | none => rfl
  | some run => exact component_of_isNumeral (h run (List.mem_of_getElem? hrun))

/-- The limit of 32 bits is lost in the limits of the fields. -/
theorem ofParts_min (major minor sub : Nat) :
    ofParts (min major (componentBound - 1)) (min minor (componentBound - 1))
        (min sub (componentBound - 1))
      = ofParts (min major 0xff) (min minor 0xff) (min sub 0xffff) := by
  simp only [ofParts, KernelVersion.mk.injEq, componentBound]
  omega

theorem ofRuns_eq {runs : List (List Char)} (h : ∀ run ∈ runs, IsNumeral run) :
    ofRuns runs = ofParts (min (partNumber runs 0) 0xff) (min (partNumber runs 1) 0xff)
      (min (partNumber runs 2) 0xffff) := by
  rw [ofRuns, getD_map_component h, getD_map_component h, getD_map_component h, ofParts_min]

theorem isSpace_of_isDigit {c : Char} (h : isDigit c = true) : isSpace c = false := by
  have hdigit := isDigit_iff.mp h
  have hapart : ∀ r ∈ spaceRanges, r.2 < 48 ∨ 57 < r.1 := by decide
  rw [isSpace, Bool.eq_false_iff, ne_eq, CodeRanges.contains_iff]
  rintro ⟨r, hr, hfirst, hlast⟩
  have := hapart r hr
  omega

/-- No white space stands before a numeral. -/
theorem Leads.dropSpace_eq {runs : List (List Char)} {s rest : List Char} (h : Leads runs s rest) :
    dropSpace s = s := by
  obtain ⟨run, runs, rfl⟩ := List.exists_cons_of_ne_nil h.ne_nil
  have hrun := h.numerals run List.mem_cons_self
  obtain ⟨c, run, rfl⟩ := List.exists_cons_of_ne_nil hrun.1
  have hspace := isSpace_of_isDigit (hrun.2 c List.mem_cons_self)
  rw [h.split, List.intercalate_cons_cons_left, List.cons_append, dropSpace_cons_of_not_space _ hspace]

theorem Leads.alone {runs : List (List Char)} {s rest : List Char} (h : Leads runs s rest) :
    Leads runs (['.'].intercalate runs) [] where
  numerals := h.numerals
  count := h.count
  split := (List.append_nil _).symm
  maximal := by rintro _ ⟨⟩

/-- The runs of a reading are all that is read where they stand alone. -/
theorem Leads.leadingRuns_intercalate {runs : List (List Char)} {s rest : List Char}
    (h : Leads runs s rest) : leadingRuns 3 (['.'].intercalate runs) = runs := by
  obtain ⟨rest', hreader⟩ := exists_leads h.alone.leadingRuns_ne_nil
  have hlength := congrArg List.length hreader.split
  rw [List.length_append] at hlength
  exact (h.alone.length_le.2 (by omega)).symm

/-- What is read of a release, as said of its text alone. -/
structure ReadsLongest (release : String) : Prop where
  cuts : (cutRuns? 3 (dropSpace release.toList)).map ofRuns = some (parse release)
  exists_longest : ∀ runs rest, Leads runs (dropSpace release.toList) rest →
    ∃ runs rest, LeadsLongest runs (dropSpace release.toList) rest
  version : ∀ runs rest, LeadsLongest runs (dropSpace release.toList) rest →
    parse release = ofParts (min (partNumber runs 0) 0xff) (min (partNumber runs 1) 0xff)
      (min (partNumber runs 2) 0xffff)
  alone : ∀ runs rest, LeadsLongest runs (dropSpace release.toList) rest →
    parse (String.ofList (['.'].intercalate runs)) = parse release
  nothing : (∀ runs rest, ¬ Leads runs (dropSpace release.toList) rest) → parse release = ofParts 0 0 0

theorem parse_reads_longest (release : String) : ReadsLongest release := by
  refine { cuts := ?_, exists_longest := ?_, version := ?_, alone := ?_, nothing := ?_ }
  · rw [cutRuns?_eq]
    rfl
  · intro runs rest hleads
    exact ⟨_, exists_leadsLongest hleads.leadingRuns_ne_nil⟩
  · intro runs rest hlongest
    rw [parse, ← hlongest.eq_leadingRuns, ofRuns_eq hlongest.numerals]
  · intro runs rest hlongest
    rw [parse, parse, String.toList_ofList, hlongest.alone.dropSpace_eq,
      hlongest.leadingRuns_intercalate, ← hlongest.eq_leadingRuns]
  · intro hnone
    have hnil : leadingRuns 3 (dropSpace release.toList) = [] := by
      refine Decidable.byContradiction fun hne => ?_
      obtain ⟨rest, hleads⟩ := exists_leads hne
      exact hnone _ rest hleads
    rw [parse, hnil]
    rfl

/-- White space of two kinds, a leading zero, a number beyond 32 bits and a fourth component. -/
theorem parse_reads_longest_four_components :
    ∃ runs rest, LeadsLongest runs (dropSpace "\u2003 05.4.98765432109.7-rc1".toList) rest
      ∧ parse "\u2003 05.4.98765432109.7-rc1" = ofParts 5 4 0xffff := by
  have hruns : leadingRuns 3 (dropSpace "\u2003 05.4.98765432109.7-rc1".toList)
      = [['0', '5'], ['4'], "98765432109".toList] := by
    decide +kernel
  obtain ⟨rest, hlongest⟩ := exists_leadsLongest (hruns ▸ List.cons_ne_nil _ _)
  refine ⟨_, rest, hlongest, ?_⟩
  rw [(parse_reads_longest _).version _ rest hlongest, hruns]
  decide +kernel

end BpfBoot.KernelVersion
