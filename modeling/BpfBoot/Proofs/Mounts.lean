import BpfBoot.Mounts
import BpfBoot.Proofs.Text.Pieces

/-!
# Versions in the mount table

The versions of a package are told by the mounts of one device, that of the first mount at the package's own
mount point. The order of the lines, mounts of other packages and devices, and whatever a line says after the
mount point do not matter, and neither does the way in which a line is spaced.
-/

namespace BpfBoot.Mounts

open Text

/-! ## Mounts in a text -/

/-- The fields of a line: what stands between white space. -/
def fields (line : List Char) : List (List Char) :=
  (line.splitOnP isSpace).filter (· ≠ [])

/-- The mount that the first two fields of a line tell. -/
def mountIn? : List (List Char) → Option Mount
  | device :: mountPoint :: _ => some ⟨device, mountPoint⟩
  | _ => none

/-- The mounts that lines tell, in their order. -/
def mountsIn (lines : List (List Char)) : List Mount :=
  lines.filterMap fun line => mountIn? (fields line)

def textOf (lines : List (List Char)) : String :=
  String.ofList (['\n'].intercalate lines)

theorem fields_eq_wordsList (line : List Char) : fields line = wordsList line := by
  rw [wordsList_eq_filter]
  refine List.filter_congr fun word _ => ?_
  cases word <;> simp

theorem ofLine?_eq (line : List Char) : ofLine? line = mountIn? (fields line) := by
  rw [ofLine?, fields_eq_wordsList]
  rfl

theorem parse_eq_mountsIn (table : String) : parse table = mountsIn (table.toList.splitOn '\n') := by
  rw [parse, linesList_eq_splitOn, mountsIn, funext ofLine?_eq]

theorem parse_textOf {lines : List (List Char)} (h : ∀ line ∈ lines, '\n' ∉ line) :
    parse (textOf lines) = mountsIn lines := by
  rw [parse_eq_mountsIn, textOf, String.toList_ofList]
  cases lines with
  | nil => rfl
  | cons line rest => rw [List.splitOn_intercalate '\n' h (List.cons_ne_nil _ _)]

theorem mountIn?_take (words : List (List Char)) : mountIn? (words.take 2) = mountIn? words := by
  rcases words with _ | ⟨device, _ | ⟨mountPoint, rest⟩⟩ <;> rfl

theorem mountIn?_eq_none_iff {words : List (List Char)} : mountIn? words = none ↔ words.length < 2 := by
  rcases words with _ | ⟨device, _ | ⟨mountPoint, rest⟩⟩ <;> simp [mountIn?]

/-- White space in front of a line and between its fields makes no difference, and neither does what follows
behind white space. -/
theorem take_fields {device mountPoint lead gap rest : List Char} (hdevice : IsWord device)
    (hmountPoint : IsWord mountPoint) (hlead : ∀ c ∈ lead, isSpace c = true)
    (hgap : gap ≠ [] ∧ ∀ c ∈ gap, isSpace c = true) (hrest : ∀ c ∈ rest.head?, isSpace c = true) :
    (fields (lead ++ device ++ gap ++ mountPoint ++ rest)).take 2 = [device, mountPoint] := by
  obtain ⟨c, gap', rfl⟩ := List.exists_cons_of_ne_nil hgap.1
  have hsecond : wordsList (c :: gap' ++ (mountPoint ++ rest)) = mountPoint :: wordsList rest := by
    rw [wordsList_space_append hgap.2, wordsList_word_append hmountPoint hrest]
  have hfirst : ∀ x ∈ (c :: gap' ++ (mountPoint ++ rest)).head?, isSpace x = true := by
    simpa using hgap.2 c (by simp)
  simp only [fields_eq_wordsList, List.append_assoc]
  rw [wordsList_space_append hlead, wordsList_word_append hdevice hfirst, hsecond]
  rfl

/-! ## Mounts at a mount point -/

variable {base : List Char} {mounts : List Mount}

/-- The mount is the first one at the mount point. -/
def IsFirstAt (base : List Char) (mounts : List Mount) (first : Mount) : Prop :=
  first.mountPoint = base
    ∧ ∃ before after, mounts = before ++ first :: after ∧ ∀ m ∈ before, m.mountPoint ≠ base

theorem find?_eq_some_iff {first : Mount} :
    mounts.find? (fun m => m.mountPoint == base) = some first ↔ IsFirstAt base mounts first := by
  simp only [List.find?_eq_some_iff_append, IsFirstAt, beq_iff_eq, Bool.not_eq_true', beq_eq_false_iff_ne]

theorem find?_eq_none_iff :
    mounts.find? (fun m => m.mountPoint == base) = none ↔ ∀ m ∈ mounts, m.mountPoint ≠ base := by
  simp only [List.find?_eq_none, beq_iff_eq, ne_eq]

/-- The mount point is that of a version: it goes on with the sign for versions. -/
def IsVersionOf (base mountPoint : List Char) : Prop :=
  base ++ ['@'] <+: mountPoint

instance (base mountPoint : List Char) : Decidable (IsVersionOf base mountPoint) :=
  inferInstanceAs (Decidable (_ <+: _))

theorem version?_eq_some_iff {mountPoint v : List Char} :
    version? base mountPoint = some v ↔ mountPoint = base ++ '@' :: v := by
  unfold version?
  split
  · next h =>
    obtain ⟨w, rfl⟩ := List.isPrefixOf_iff_prefix.mp h
    simp
  · next h =>
    have hnot : ¬ base ++ ['@'] <+: mountPoint := fun hprefix => h (List.isPrefixOf_iff_prefix.mpr hprefix)
    constructor
    · intro hv
      cases hv
    · rintro rfl
      exact absurd ⟨v, by simp⟩ hnot

theorem version?_eq_none_iff {mountPoint : List Char} :
    version? base mountPoint = none ↔ ¬ IsVersionOf base mountPoint := by
  rw [Option.eq_none_iff_forall_ne_some]
  constructor
  · rintro hnone ⟨v, rfl⟩
    exact hnone v (version?_eq_some_iff.mpr (by simp))
  · intro hnot v hv
    rw [version?_eq_some_iff.mp hv] at hnot
    exact hnot ⟨v, by simp⟩

/-- Written behind the mount point again, the versions are the mount points that they come from. -/
theorem map_filterMap_version? (mounts : List Mount) :
    (mounts.filterMap fun m => version? base m.mountPoint).map (fun v => base ++ '@' :: v)
      = (mounts.filter fun m => IsVersionOf base m.mountPoint).map Mount.mountPoint := by
  induction mounts with
  | nil => rfl
  | cons m mounts ih =>
    cases hv : version? base m.mountPoint with
    | none =>
      have hm : ¬ IsVersionOf base m.mountPoint := version?_eq_none_iff.mp hv
      simp only [List.filterMap_cons, hv, List.filter_cons, decide_eq_false hm, Bool.false_eq_true,
        if_false, ih]
    | some v =>
      have hpoint : m.mountPoint = base ++ '@' :: v := version?_eq_some_iff.mp hv
      have hm : IsVersionOf base m.mountPoint := ⟨v, by simp [hpoint]⟩
      simp only [List.filterMap_cons, hv, List.filter_cons, decide_eq_true hm, if_true, List.map_cons, ih]
      rw [← hpoint]

/-! ## The versions of a package -/

/-- The versions of the package at `base` by the given mounts: none if nothing is mounted there, and otherwise
those that are mounted from the device of the first mount there, in order and as often as they are mounted. -/
structure AreVersionsAt (base : List Char) (mounts : List Mount) (versions : List (List Char)) : Prop where
  inactive : (∀ m ∈ mounts, m.mountPoint ≠ base) → versions = []
  active : ∀ first, IsFirstAt base mounts first →
    versions.map (fun v => base ++ '@' :: v)
      = (mounts.filter fun m => m.device = first.device ∧ IsVersionOf base m.mountPoint).map Mount.mountPoint

theorem areVersionsAt_versionsAt (base : List Char) (mounts : List Mount) :
    AreVersionsAt base mounts (versionsAt base mounts) where
  inactive hnone := by rw [versionsAt, find?_eq_none_iff.mpr hnone]
  active first hfirst := by
    rw [versionsAt, find?_eq_some_iff.mpr hfirst]
    simp only [map_filterMap_version?, List.filter_filter]
    congr 1
    refine List.filter_congr fun m _ => ?_
    rw [Bool.eq_iff_iff]
    simp [and_comm]

example : versionsAt ['p'] [⟨['b'], ['p', '@', '1']⟩, ⟨['a'], ['p', '@', '2']⟩, ⟨['a'], ['p']⟩,
    ⟨['b'], ['p']⟩, ⟨['a'], ['p', 'q', '@', '3']⟩] = [['2']] := by
  decide

/-- Mounts elsewhere and versions on other devices tell nothing about the package. -/
theorem versionsAt_insert {m : Mount} (before after : List Mount) (hbase : m.mountPoint ≠ base)
    (hother : ∀ first, IsFirstAt base (before ++ after) first → m.device = first.device →
      ¬ IsVersionOf base m.mountPoint) :
    versionsAt base (before ++ m :: after) = versionsAt base (before ++ after) := by
  have hfind : (before ++ m :: after).find? (fun m => m.mountPoint == base)
      = (before ++ after).find? (fun m => m.mountPoint == base) := by
    have hm : (m.mountPoint == base) = false := by simpa using hbase
    rw [List.find?_append, List.find?_append, List.find?_cons, hm]
  rw [versionsAt, versionsAt, hfind]
  cases hfirst : (before ++ after).find? (fun m => m.mountPoint == base) with
  | none => rfl
  | some first =>
    have hnone : m.device = first.device → version? base m.mountPoint = none := fun hdevice =>
      version?_eq_none_iff.mpr (hother first (find?_eq_some_iff.mp hfirst) hdevice)
    simp only [List.filter_append, List.filterMap_append]
    congr 1
    by_cases hdevice : m.device = first.device
    · rw [List.filter_cons_of_pos (by simpa using hdevice), List.filterMap_cons, hnone hdevice]
    · rw [List.filter_cons_of_neg (by simpa using hdevice)]

/-! ## Tables with the same versions -/

/-- A line tells nothing about the package at `base` beside the given lines. -/
inductive IsIdle (base : List Char) (lines : List (List Char)) (line : List Char) : Prop where
  | short : (fields line).length < 2 → IsIdle base lines line
  | elsewhere {m : Mount} : mountIn? (fields line) = some m → m.mountPoint ≠ base →
      ¬ IsVersionOf base m.mountPoint → IsIdle base lines line
  | otherDevice {m first : Mount} : mountIn? (fields line) = some m → IsVersionOf base m.mountPoint →
      IsFirstAt base (mountsIn lines) first → m.device ≠ first.device → IsIdle base lines line

theorem IsVersionOf.ne {mountPoint : List Char} (h : IsVersionOf base mountPoint) : mountPoint ≠ base := by
  rintro rfl
  have hlength := h.length_le
  rw [List.length_append, List.length_singleton] at hlength
  omega

theorem IsFirstAt.unique {first first' : Mount} (h : IsFirstAt base mounts first)
    (h' : IsFirstAt base mounts first') : first = first' :=
  Option.some.inj ((find?_eq_some_iff.mpr h).symm.trans (find?_eq_some_iff.mpr h'))

theorem mountsIn_append (before after : List (List Char)) :
    mountsIn (before ++ after) = mountsIn before ++ mountsIn after :=
  List.filterMap_append

theorem versionsAt_of_isIdle {before after : List (List Char)} {line : List Char}
    (h : IsIdle base (before ++ after) line) :
    versionsAt base (mountsIn (before ++ line :: after)) = versionsAt base (mountsIn (before ++ after)) := by
  have hline {m : Mount} (hm : mountIn? (fields line) = some m) :
      mountsIn (line :: after) = m :: mountsIn after :=
    List.filterMap_cons_some hm
  cases h with
  | short hshort =>
    have hnone : mountsIn (line :: after) = mountsIn after :=
      List.filterMap_cons_none (mountIn?_eq_none_iff.mpr hshort)
    rw [mountsIn_append, mountsIn_append, hnone]
  | elsewhere hm hbase hversion =>
    rw [mountsIn_append, mountsIn_append, hline hm]
    exact versionsAt_insert _ _ hbase fun _ _ _ => hversion
  | otherDevice hm hversion hfirst hdevice =>
    rw [mountsIn_append] at hfirst
    rw [mountsIn_append, mountsIn_append, hline hm]
    refine versionsAt_insert _ _ hversion.ne fun first hfirst' hsame => ?_
    rw [hfirst'.unique hfirst] at hsame
    exact absurd hsame hdevice

/-- What is told of the versions of the package at `base`, for every text. -/
structure TellsVersionsAt (base : List Char) (versions : String → List String) : Prop where
  table : ∀ table, AreVersionsAt base (mountsIn (table.toList.splitOn '\n'))
    ((versions table).map String.toList)
  /-- A line that tells nothing can be put in anywhere, or left out. -/
  idle : ∀ before line after, (∀ l ∈ before ++ line :: after, '\n' ∉ l) →
    IsIdle base (before ++ after) line →
      versions (textOf (before ++ line :: after)) = versions (textOf (before ++ after))
  /-- Of a line, only the first two fields matter. -/
  firstFields : ∀ before line line' after, (∀ l ∈ before ++ line :: line' :: after, '\n' ∉ l) →
    (fields line).take 2 = (fields line').take 2 →
      versions (textOf (before ++ line :: after)) = versions (textOf (before ++ line' :: after))
  /-- These are the same however the line is spaced and whatever follows them. -/
  spacing : ∀ device mountPoint lead gap rest, IsWord device → IsWord mountPoint →
    (∀ c ∈ lead, isSpace c = true) → gap ≠ [] ∧ (∀ c ∈ gap, isSpace c = true) →
      (∀ c ∈ rest.head?, isSpace c = true) →
        (fields (lead ++ device ++ gap ++ mountPoint ++ rest)).take 2 = [device, mountPoint]

theorem tetheringVersions_textOf {lines : List (List Char)} (h : ∀ line ∈ lines, '\n' ∉ line) :
    tetheringVersions (textOf lines)
      = (versionsAt tetheringMountPoint.toList (mountsIn lines)).map String.ofList := by
  rw [tetheringVersions, parse_textOf h]

/-- The versions of the package that the objects come from are told by the mounts of the device of its first
active mount, and by nothing else that a mount table says. -/
theorem tetheringVersions_tellsVersionsAt :
    TellsVersionsAt "/apex/com.android.tethering".toList tetheringVersions where
  table table := by
    have hversions : (tetheringVersions table).map String.toList
        = versionsAt tetheringMountPoint.toList (mountsIn (table.toList.splitOn '\n')) := by
      rw [tetheringVersions, parse_eq_mountsIn, List.map_map]
      simp
    rw [hversions]
    exact areVersionsAt_versionsAt _ _
  idle before line after hlines hidle := by
    have hothers : ∀ l ∈ before ++ after, '\n' ∉ l := fun l hl => hlines l (by grind)
    rw [tetheringVersions_textOf hlines, tetheringVersions_textOf hothers]
    exact congrArg _ (versionsAt_of_isIdle hidle)
  firstFields before line line' after hlines hfields := by
    have hsame : mountIn? (fields line) = mountIn? (fields line') := by
      rw [← mountIn?_take, hfields, mountIn?_take]
    have hfirst : ∀ l ∈ before ++ line :: after, '\n' ∉ l := fun l hl => hlines l (by grind)
    have hsecond : ∀ l ∈ before ++ line' :: after, '\n' ∉ l := fun l hl => hlines l (by grind)
    rw [tetheringVersions_textOf hfirst, tetheringVersions_textOf hsecond]
    simp only [mountsIn, List.filterMap_append, List.filterMap_cons, hsame]
  spacing device mountPoint lead gap rest hdevice hmountPoint hlead hgap hrest :=
    take_fields hdevice hmountPoint hlead hgap hrest

end BpfBoot.Mounts
