import BpfBoot.Device
import BpfBoot.Proofs.Text.Trimming

/-!
# Reading an architecture

The text that an architecture is read from is kept with its ASCII capitals made small, white space and all. Which
architecture it names depends only on what stands between the white space around it. Small letters can be made
before or after that is cut off, because no letter is white space in either case. So the text that is kept names
the same architecture and stays as it is when it is read again.
-/

namespace BpfBoot

open Text

/-! ## The same word -/

/-- One letter in the same or in the other case, or the same character. -/
def SameLetter (c d : Char) : Prop :=
  ∃ small, MadeSmall c small ∧ MadeSmall d small

/-- The texts differ only in the case of ASCII letters and in the white space around them. -/
def SameWord (s t : String) : Prop :=
  ∃ before core after before' core' after',
    s.toList = before ++ core ++ after ∧ t.toList = before' ++ core' ++ after'
      ∧ IsMargin before ∧ IsMargin after ∧ IsMargin before' ∧ IsMargin after'
      ∧ List.Forall₂ SameLetter core core'

theorem sameLetter_iff {c d : Char} : SameLetter c d ↔ c.toLower = d.toLower := by
  simp only [SameLetter, madeSmall_iff, exists_eq_left']
  exact eq_comm

theorem forall₂_sameLetter_iff {s t : List Char} :
    List.Forall₂ SameLetter s t ↔ s.map Char.toLower = t.map Char.toLower := by
  have hletter : SameLetter = fun c d => c.toLower = d.toLower := by
    funext c d
    exact propext sameLetter_iff
  rw [hletter, ← List.forall₂_eq_eq_eq, List.forall₂_map_left_iff, List.forall₂_map_right_iff]

theorem SameWord.trimList_eq {s t : String} (h : SameWord s t) :
    (trimList s.toList).map Char.toLower = (trimList t.toList).map Char.toLower := by
  obtain ⟨before, core, after, before', core', after', hs, ht, hbefore, hafter, hbefore', hafter', hcore⟩ := h
  rw [hs, ht, trimList_between hbefore hafter, trimList_between hbefore' hafter', ← trimList_map_toLower,
    ← trimList_map_toLower, forall₂_sameLetter_iff.mp hcore]

namespace Arch

/-! ## Names of architectures -/

/-- The words that name architectures. -/
def words : List (String × Arch) :=
  [("arm", .arm), ("aarch64", .aarch64), ("x86", .x86), ("x86_64", .x86_64), ("riscv64", .riscV64)]

theorem toList_trim_normalize (raw : String) :
    (trim (normalize raw)).toList = (trimList raw.toList).map Char.toLower := by
  rw [trim, String.toList_ofList, normalize, asciiLower, String.toList_map, trimList_map_toLower]

/-- Different words name different architectures. -/
theorem eq_iff_of_mem_words {word word' : String} {a b : Arch} (h : (word, a) ∈ words) (h' : (word', b) ∈ words) :
    a = b ↔ word = word' := by
  have hall : ∀ p ∈ words, ∀ q ∈ words, p.2 = q.2 ↔ p.1 = q.1 := by decide
  exact hall (word, a) h (word', b) h'

theorem ne_undefined_of_mem_words {word : String} {a : Arch} (h : (word, a) ∈ words) : a ≠ .undefined := by
  have hall : ∀ p ∈ words, p.2 ≠ .undefined := by decide
  exact hall (word, a) h

theorem parse_cases (raw : String) :
    (trim (normalize raw), parse raw) ∈ words
      ∨ (∀ a, (trim (normalize raw), a) ∉ words) ∧ parse raw = .undefined := by
  unfold parse
  split
  case h_6 harm haarch64 hx86 hx86_64 hriscv64 =>
    right
    constructor
    · intro a hmem
      simp only [words, List.mem_cons, Prod.mk.injEq, List.not_mem_nil, or_false] at hmem
      rcases hmem with ⟨h, -⟩ | ⟨h, -⟩ | ⟨h, -⟩ | ⟨h, -⟩ | ⟨h, -⟩
      · exact harm h
      · exact haarch64 h
      · exact hx86 h
      · exact hx86_64 h
      · exact hriscv64 h
    · rfl
  all_goals
    next hword =>
    left
    rw [hword]
    decide

/-- What a text is read as: the architecture that its core names, if it names one. -/
structure Reads (text : String) (a : Arch) : Prop where
  named_iff : ∀ word b, (word, b) ∈ words → (a = b ↔ IsCore text.toList word.toList)
  undefined_iff : a = .undefined ↔ ∀ word b, (word, b) ∈ words → ¬ IsCore text.toList word.toList

theorem isCore_toList_iff {text word : String} : IsCore text.toList word.toList ↔ trim text = word := by
  rw [isCore_iff, trim, ← String.toList_inj, String.toList_ofList]

theorem reads_parse (raw : String) : Reads (normalize raw) (parse raw) := by
  rcases parse_cases raw with hmem | ⟨hnone, hundefined⟩
  · constructor
    case named_iff =>
      intro word b hword
      rw [isCore_toList_iff]
      exact eq_iff_of_mem_words hmem hword
    case undefined_iff =>
      apply iff_of_false
      · exact ne_undefined_of_mem_words hmem
      · intro hnone
        exact hnone _ _ hmem (isCore_toList_iff.mpr rfl)
  · have hcore : ∀ word b, (word, b) ∈ words → ¬ IsCore (normalize raw).toList word.toList := by
      intro word b hword hcore
      exact hnone b (isCore_toList_iff.mp hcore ▸ hword)
    rw [hundefined]
    constructor
    case named_iff =>
      intro word b hword
      apply iff_of_false
      · exact (ne_undefined_of_mem_words hword).symm
      · exact hcore word b hword
    case undefined_iff => exact iff_of_true rfl hcore

theorem parse_congr {s t : String} (h : SameWord s t) : parse s = parse t := by
  have htrim : trim (normalize s) = trim (normalize t) := by
    rw [← String.toList_inj, toList_trim_normalize, toList_trim_normalize, h.trimList_eq]
  rw [parse, parse, htrim]

theorem normalize_normalize (raw : String) : normalize (normalize raw) = normalize raw :=
  asciiLower_asciiLower raw

/-- Case and white space around it aside, a text names an architecture, and what is kept of it names the same
one. -/
theorem parse_finds_word :
    (∀ raw, IsLowered raw (normalize raw) ∧ Reads (normalize raw) (parse raw))
      ∧ (∀ s t, SameWord s t → parse s = parse t)
      ∧ ∀ raw, parse (normalize raw) = parse raw ∧ normalize (normalize raw) = normalize raw := by
  refine ⟨fun raw => ?_, fun s t hword => ?_, fun raw => ?_⟩
  · exact ⟨isLowered_asciiLower raw, reads_parse raw⟩
  · exact parse_congr hword
  · have hkept := normalize_normalize raw
    refine ⟨?_, hkept⟩
    rw [parse, parse, hkept]

/-- White space outside ASCII around capitals. -/
theorem parse_finds_word_capitals :
    SameWord "\u2003AArch64\n" "aarch64" ∧ parse "\u2003AArch64\n" = parse "aarch64" := by
  have hbefore : IsMargin ['\u2003'] := List.forall_mem_singleton.mpr (by decide)
  have hafter : IsMargin ['\n'] := List.forall_mem_singleton.mpr (by decide)
  have hnone : IsMargin [] := List.forall_mem_nil _
  have hletters : List.Forall₂ SameLetter "AArch64".toList "aarch64".toList :=
    forall₂_sameLetter_iff.mpr (by decide)
  have hword : SameWord "\u2003AArch64\n" "aarch64" :=
    ⟨['\u2003'], _, ['\n'], [], _, [], by decide, by decide, hbefore, hafter, hnone, hnone, hletters⟩
  exact ⟨hword, parse_finds_word.2.1 _ _ hword⟩

end Arch

end BpfBoot
