import Mathlib.Data.List.TakeWhile
import BpfBoot.File.Path
import BpfBoot.Text.Space

/-!
# Texts cut into pieces

Lines, the names of a path and the fields of a line are the pieces of a text between separators. Everything
about them follows from the library's cutting of lists: where a separator stands, the pieces before it and the
pieces behind it have nothing to do with each other.
-/

namespace BpfBoot

/-! ## The first separator -/

/-- The part in front of the first separator holds none, and it is everything or has the separator behind it. -/
theorem takeWhile_ne_eq_iff {α : Type} [DecidableEq α] {x : α} {s part : List α} :
    s.takeWhile (· != x) = part ↔ x ∉ part ∧ (s = part ∨ ∃ rest, s = part ++ x :: rest) := by
  constructor
  · rintro rfl
    induction s with
    | nil => exact ⟨List.not_mem_nil, .inl rfl⟩
    | cons a s ih =>
      by_cases ha : a = x
      · subst ha
        rw [List.takeWhile_cons_of_neg (by simp)]
        exact ⟨List.not_mem_nil, .inr ⟨s, rfl⟩⟩
      · obtain ⟨hpart, hs⟩ := ih
        rw [List.takeWhile_cons_of_pos (by simpa using ha)]
        refine ⟨by simp [hpart, Ne.symm ha], ?_⟩
        rcases hs with hall | ⟨rest, hrest⟩
        · exact .inl (congrArg (a :: ·) hall)
        · exact .inr ⟨rest, congrArg (a :: ·) hrest⟩
  · rintro ⟨hpart, hs⟩
    have hne : ∀ a ∈ part, (a != x) = true := fun a ha => by
      simpa using fun heq : a = x => hpart (heq ▸ ha)
    rcases hs with rfl | ⟨rest, rfl⟩
    · exact List.takeWhile_eq_self_iff.mpr hne
    · rw [List.takeWhile_append_of_pos hne, List.takeWhile_cons_of_neg (by simp), List.append_nil]

/-! ## Lines and names -/

theorem Text.linesList_eq_splitOn (s : List Char) : linesList s = s.splitOn '\n' := by
  induction s with
  | nil => rfl
  | cons c rest ih =>
    rw [linesList, ih, List.splitOn_cons_eq_if_modifyHead]
    cases hrest : rest.splitOn '\n' with
    | nil => exact absurd hrest (List.splitOn_ne_nil _ _)
    | cons line later => rfl

theorem Path.pieces_eq_splitOn (bytes : Bytes) : pieces bytes = bytes.splitOn slash := by
  induction bytes with
  | nil => rfl
  | cons b rest ih =>
    rw [pieces, ih, List.splitOn_cons_eq_if_modifyHead]
    cases hrest : rest.splitOn slash with
    | nil => exact absurd hrest (List.splitOn_ne_nil _ _)
    | cons piece later => rfl

namespace Path

theorem names_append_slash (bytes more : Bytes) :
    names ⟨bytes ++ slash :: more⟩ = names ⟨bytes⟩ ++ names ⟨more⟩ := by
  unfold names
  rw [pieces_eq_splitOn, pieces_eq_splitOn, pieces_eq_splitOn, List.splitOn_append_cons_self,
    List.filter_append]

/-- Slashes at the end of a path name nothing. -/
theorem names_append_of_slashes (bytes more : Bytes) (h : ∀ b ∈ more, b = slash) :
    names ⟨bytes ++ more⟩ = names ⟨bytes⟩ := by
  induction more generalizing bytes with
  | nil => rw [List.append_nil]
  | cons b more ih =>
    obtain rfl := h b (by simp)
    have hmore := ih [] fun b hb => h b (by simp [hb])
    rw [names_append_slash, ← List.nil_append more, hmore]
    exact List.append_nil _

end Path

/-! ## Words -/

namespace Text

theorem wordsList_eq_filter (s : List Char) :
    wordsList s = (s.splitOnP isSpace).filter (!·.isEmpty) := by
  have hgo (s word : List Char) :
      wordsList.go s word = (List.splitOnPPrepend isSpace s word).filter (!·.isEmpty) := by
    induction s generalizing word with
    | nil => cases word <;> simp [wordsList.go]
    | cons c rest ih =>
      rw [wordsList.go]
      cases hc : isSpace c with
      | true =>
        rw [List.splitOnPPrepend_cons_pos hc, if_pos rfl, ih]
        cases word <;> simp
      | false => rw [List.splitOnPPrepend_cons_neg hc, if_neg (by simp), ih]
  exact hgo s []

/-- White space keeps the words before it and the words behind it apart. -/
theorem wordsList_append_space {c : Char} (hc : isSpace c = true) (before after : List Char) :
    wordsList (before ++ c :: after) = wordsList before ++ wordsList after := by
  simp only [wordsList_eq_filter, List.splitOnP_append_cons _ _ hc, List.filter_append]

/-- White space in front makes no difference. -/
theorem wordsList_space_append {gap : List Char} (hgap : ∀ c ∈ gap, isSpace c = true) (s : List Char) :
    wordsList (gap ++ s) = wordsList s := by
  induction gap with
  | nil => rfl
  | cons c gap ih =>
    rw [List.cons_append, ← List.nil_append (c :: (gap ++ s)), wordsList_append_space (hgap c (by simp)),
      ih fun c hc => hgap c (by simp [hc])]
    rfl

/-- The characters are those of a word. -/
def IsWord (word : List Char) : Prop :=
  word ≠ [] ∧ ∀ c ∈ word, isSpace c = false

theorem wordsList_word_append {word rest : List Char} (hword : IsWord word)
    (hrest : ∀ c ∈ rest.head?, isSpace c = true) : wordsList (word ++ rest) = word :: wordsList rest := by
  have hpieces : wordsList word = [word] := by
    rw [wordsList_eq_filter, List.splitOnP_eq_singleton hword.2]
    simpa using hword.1
  cases rest with
  | nil => rw [List.append_nil, hpieces]; rfl
  | cons c rest =>
    have hc : isSpace c = true := hrest c rfl
    have hgap : ∀ c' ∈ [c], isSpace c' = true := by simpa using hc
    have hskip : wordsList (c :: rest) = wordsList rest := wordsList_space_append hgap rest
    rw [wordsList_append_space hc, hpieces, hskip]
    rfl

end Text

end BpfBoot
