import BpfBoot.Proofs.Text.LetterCase
import BpfBoot.Text.Space

/-!
# Words with white space around them

Trimming takes the white space off both ends of a text and leaves what begins and ends with something else.
Making the ASCII letters small neither makes white space nor takes it away, so a word from a fixed vocabulary
can be looked for between the margins of a text in either order.
-/

namespace BpfBoot.Text

/-- White space, or nothing at all. -/
def IsMargin (s : List Char) : Prop :=
  ∀ c ∈ s, isSpace c = true

/-- No white space stands at either end. -/
structure IsTrimmed (s : List Char) : Prop where
  head : ∀ c ∈ s.head?, isSpace c = false
  last : ∀ c ∈ s.getLast?, isSpace c = false

theorem isTrimmed_of_forall {s : List Char} (h : ∀ c ∈ s, isSpace c = false) : IsTrimmed s where
  head c hc := h c (List.mem_of_mem_head? hc)
  last c hc := h c (List.mem_of_getLast? hc)

theorem dropSpace_append {margin s : List Char} (hmargin : IsMargin margin)
    (hs : ∀ c ∈ s.head?, isSpace c = false) : dropSpace (margin ++ s) = s := by
  rw [dropSpace, List.dropWhile_append_of_pos hmargin]
  cases s with
  | nil => rfl
  | cons c s => exact dropSpace_cons_of_not_space s (hs c rfl)

/-- A text is its first margin and what begins with something else. -/
theorem exists_margin_append (s : List Char) :
    ∃ margin, IsMargin margin ∧ s = margin ++ dropSpace s ∧ ∀ c ∈ (dropSpace s).head?, isSpace c = false := by
  refine ⟨s.takeWhile isSpace, fun c hc => ?_, List.takeWhile_append_dropWhile.symm, fun c hc => ?_⟩
  · exact List.all_eq_true.mp List.all_takeWhile c hc
  · have hnot := List.head?_dropWhile_not isSpace s
    rw [dropSpace] at hc
    rw [hc] at hnot
    exact hnot

theorem trimList_append {before core after : List Char} (hbefore : IsMargin before) (hafter : IsMargin after)
    (hcore : IsTrimmed core) : trimList (before ++ core ++ after) = core := by
  cases core with
  | nil =>
    -- With nothing between them the margins are one, and the first cut takes all of it.
    have hmargin : IsMargin (before ++ after) := fun c hc =>
      (List.mem_append.mp hc).elim (hbefore c) (hafter c)
    have hall : dropSpace (before ++ after ++ []) = [] := dropSpace_append hmargin (by simp)
    rw [List.append_nil] at hall
    rw [trimList, List.append_nil, hall]
    rfl
  | cons c core =>
    have hhead : ∀ c' ∈ (c :: core ++ after).head?, isSpace c' = false := hcore.head
    have hreverse : ∀ c' ∈ (c :: core).reverse.head?, isSpace c' = false := by
      rw [List.head?_reverse]
      exact hcore.last
    have hmargin : IsMargin after.reverse := fun c' hc' => hafter c' (List.mem_reverse.mp hc')
    rw [trimList, List.append_assoc, dropSpace_append hbefore hhead, List.reverse_append,
      dropSpace_append hmargin hreverse, List.reverse_reverse]

theorem exists_trimList_append (s : List Char) :
    ∃ before after, IsMargin before ∧ IsMargin after ∧ s = before ++ trimList s ++ after
      ∧ IsTrimmed (trimList s) := by
  obtain ⟨before, hbefore, hs, hhead⟩ := exists_margin_append s
  obtain ⟨after, hafter, hrest, hlast⟩ := exists_margin_append (dropSpace s).reverse
  have hcore : dropSpace s = trimList s ++ after.reverse := by
    rw [← List.reverse_reverse (dropSpace s), hrest, List.reverse_append]
    rfl
  refine ⟨before, after.reverse, hbefore, fun c hc => hafter c (List.mem_reverse.mp hc), ?_, ⟨?_, ?_⟩⟩
  · rw [List.append_assoc, ← hcore]
    exact hs
  · intro c hc
    refine hhead c ?_
    rw [hcore, List.head?_append, Option.mem_def.mp hc]
    rfl
  · intro c hc
    rw [trimList, List.getLast?_reverse] at hc
    exact hlast c hc

/-- White space around a text makes no difference. -/
theorem trimList_between {before after : List Char} (hbefore : IsMargin before) (hafter : IsMargin after)
    (s : List Char) : trimList (before ++ s ++ after) = trimList s := by
  obtain ⟨before', after', hbefore', hafter', hs, hcore⟩ := exists_trimList_append s
  have hleft : IsMargin (before ++ before') := fun c hc =>
    (List.mem_append.mp hc).elim (hbefore c) (hbefore' c)
  have hright : IsMargin (after' ++ after) := fun c hc =>
    (List.mem_append.mp hc).elim (hafter' c) (hafter c)
  have hall : before ++ s ++ after = (before ++ before') ++ trimList s ++ (after' ++ after) :=
    calc before ++ s ++ after
      _ = before ++ (before' ++ trimList s ++ after') ++ after := by rw [← hs]
      _ = (before ++ before') ++ trimList s ++ (after' ++ after) := by simp only [List.append_assoc]
  rw [hall, trimList_append hleft hright hcore]

/-- The core of a text is what is left of it without the white space around it. -/
def IsCore (s core : List Char) : Prop :=
  ∃ before after, s = before ++ core ++ after ∧ IsMargin before ∧ IsMargin after ∧ IsTrimmed core

theorem isCore_iff {s core : List Char} : IsCore s core ↔ trimList s = core := by
  constructor
  · rintro ⟨before, after, rfl, hbefore, hafter, hcore⟩
    exact trimList_append hbefore hafter hcore
  · rintro rfl
    obtain ⟨before, after, hbefore, hafter, hs, hcore⟩ := exists_trimList_append s
    exact ⟨before, after, hs, hbefore, hafter, hcore⟩

/-! ## Words from a fixed vocabulary -/

/-- No white space stands among the ASCII letters. -/
theorem isSpace_of_letter {c : Char} (h : 65 ≤ c.toNat) (h' : c.toNat ≤ 122) : isSpace c = false := by
  refine Bool.eq_false_iff.mpr fun hspace => ?_
  obtain ⟨r, hr, hfirst, hlast⟩ := CodeRanges.contains_iff.mp hspace
  have houtside : ∀ r ∈ spaceRanges, r.2 < 65 ∨ 122 < r.1 := by decide
  have hr := houtside r hr
  omega

theorem isSpace_toLower (c : Char) : isSpace c.toLower = isSpace c := by
  by_cases hcapital : 65 ≤ c.toNat ∧ c.toNat ≤ 90
  · have hlower := toNat_toLower_of_capital hcapital
    rw [isSpace_of_letter (c := c) (by omega) (by omega), isSpace_of_letter (by omega) (by omega)]
  · rw [toLower_of_not_capital hcapital]

theorem trimList_map_toLower (s : List Char) :
    trimList (s.map Char.toLower) = (trimList s).map Char.toLower := by
  have hspace : isSpace ∘ Char.toLower = isSpace := funext isSpace_toLower
  simp only [trimList, dropSpace, List.dropWhile_map, ← List.map_reverse, hspace]

/-- The word stands in the text up to the case of ASCII letters, with nothing but white space around it. -/
def Spells (s word : String) : Prop :=
  ∃ before core after, s.toList = before ++ core ++ after ∧ IsMargin before ∧ IsMargin after
    ∧ core.map Char.toLower = word.toList

theorem asciiLower_trim_eq_iff {word : String} (hword : word.toList.any isSpace = false) (s : String) :
    asciiLower (trim s) = word ↔ Spells s word := by
  have hchars : (asciiLower (trim s)).toList = (trimList s.toList).map Char.toLower := by
    simp [asciiLower, trim]
  rw [← String.toList_inj, hchars]
  constructor
  · intro hcore
    obtain ⟨before, after, hbefore, hafter, hs, -⟩ := exists_trimList_append s.toList
    exact ⟨before, _, after, hs, hbefore, hafter, hcore⟩
  · rintro ⟨before, core, after, hs, hbefore, hafter, hcore⟩
    have hletters : ∀ c ∈ core, isSpace c = false := by
      intro c hc
      rw [← isSpace_toLower]
      have hmem : c.toLower ∈ word.toList := hcore ▸ List.mem_map_of_mem hc
      exact Bool.eq_false_iff.mpr (List.any_eq_false.mp hword _ hmem)
    rw [hs, trimList_append hbefore hafter (isTrimmed_of_forall hletters)]
    exact hcore

end BpfBoot.Text
