import BpfBoot.Object.Loader
import BpfBoot.Proofs.Text.Lossy
import BpfBoot.Proofs.Text.Pieces

/-!
# The parts of an object file's name

The name of an object file is the name of the object, a variant that is empty or starts with an `@`, and the
ending. There is one way only to take it apart like this, because the name of the object holds no `@`. So the
files of all variants are files of one object. Names are cut after a number of bytes, and every place where one
is cut has an ASCII byte behind it or is the end, so no cut falls inside a character.
-/

namespace BpfBoot.Object

open Text Utf8

/-! ## Endings -/

/-- The ending of object files, as characters. -/
def ending : List Char := ['.', 'o']

theorem flatMap_ending : ending.flatMap String.utf8EncodeChar = extension := by
  decide

theorem isObjectFile_iff_append {name : Bytes} : isObjectFile name = true ↔ ∃ stem, name = stem ++ extension := by
  rw [isObjectFile, List.isSuffixOf_iff_suffix]
  exact exists_congr fun _ => eq_comm

/-- The bytes of the ending are characters of their own. -/
theorem exists_stem_of_flatMap {s : List Char} {stem : Bytes}
    (h : s.flatMap String.utf8EncodeChar = stem ++ extension) : ∃ t, s = t ++ ending := by
  have hdot : (0x2e : UInt8).toNat < 0x80 := by decide
  obtain ⟨t, c, u, rfl, hc, -, hu⟩ := exists_cut_at_ascii hdot h
  have hlast : u = ['o'] := by
    apply flatMap_encodeChar_inj
    rw [hu]
    decide
  have hfirst : c = '.' := Char.toNat_inj.mp hc
  exact ⟨t, by rw [hlast, hfirst, ending]⟩

theorem isObjectFile_flatMap_iff {s : List Char} :
    isObjectFile (s.flatMap String.utf8EncodeChar) = true ↔ ∃ stem, s = stem ++ ending := by
  rw [isObjectFile_iff_append]
  constructor
  · rintro ⟨stem, hstem⟩
    exact exists_stem_of_flatMap hstem
  · rintro ⟨stem, rfl⟩
    exact ⟨stem.flatMap String.utf8EncodeChar, by rw [List.flatMap_append, flatMap_ending]⟩

theorem stemList_append (stem : List Char) : stemList (stem ++ ending) = stem := by
  have hsuffix : ['.', 'o'].isSuffixOf (stem ++ ending) = true :=
    List.isSuffixOf_iff_suffix.mpr (List.suffix_append stem ending)
  have hdrop : (stem ++ ending).dropLast.dropLast = stem := by
    simp [ending, List.dropLast_append_of_ne_nil]
  rw [stemList, if_pos hsuffix, hdrop]

theorem stemList_of_not_ending {s : List Char} (h : ¬ ∃ stem, s = stem ++ ending) : stemList s = s := by
  apply if_neg
  intro hsuffix
  obtain ⟨stem, hstem⟩ := List.isSuffixOf_iff_suffix.mp hsuffix
  exact h ⟨stem, hstem.symm⟩

/-! ## Slices -/

/-- The stem of a file name, sliced off in front of the bytes of the ending. -/
def slicedStem? (s : List Char) : Option (List Char) :=
  let bytes := s.flatMap String.utf8EncodeChar
  if isObjectFile bytes then (cut? (bytes.length - extension.length) s).map Prod.fst else some s

/-- The name of the object, sliced off in front of the first byte of the stem that is an `@`. There is none if
one of the slices ends inside a character. -/
def slicedName? (s : List Char) : Option (List Char) :=
  (slicedStem? s).bind fun stem =>
    (cut? ((stem.flatMap String.utf8EncodeChar).takeWhile (· != 0x40)).length stem).map Prod.fst

theorem slicedStem?_eq (s : List Char) : slicedStem? s = some (stemList s) := by
  by_cases h : ∃ stem, s = stem ++ ending
  · have hfile := isObjectFile_flatMap_iff.mpr h
    obtain ⟨stem, rfl⟩ := h
    have hlength : ((stem ++ ending).flatMap String.utf8EncodeChar).length - extension.length
        = (stem.flatMap String.utf8EncodeChar).length := by
      rw [List.flatMap_append, flatMap_ending, List.length_append, Nat.add_sub_cancel]
    simp only [slicedStem?, if_pos hfile, hlength, cut?_append, Option.map_some, stemList_append]
  · have hfile := mt isObjectFile_flatMap_iff.mp h
    simp only [slicedStem?, if_neg hfile, stemList_of_not_ending h]

theorem sign_mem_flatMap_iff {s : List Char} : 0x40 ∈ s.flatMap String.utf8EncodeChar ↔ '@' ∈ s := by
  have hsign : ∀ c : Char, 0x40 ∈ String.utf8EncodeChar c ↔ c = '@' := by
    intro c
    rw [ascii_mem_encodeChar_iff (by decide), ← Char.toNat_inj]
    rfl
  simp [List.mem_flatMap, hsign]

theorem takeWhile_flatMap (s : List Char) :
    (s.flatMap String.utf8EncodeChar).takeWhile (· != 0x40)
      = (s.takeWhile (· != '@')).flatMap String.utf8EncodeChar := by
  obtain ⟨hnot, hs⟩ := takeWhile_ne_eq_iff.mp (rfl : s.takeWhile (· != '@') = _)
  apply takeWhile_ne_eq_iff.mpr
  constructor
  · exact mt sign_mem_flatMap_iff.mp hnot
  · rcases hs with hall | ⟨rest, hrest⟩
    · exact .inl (congrArg _ hall)
    · right
      refine ⟨rest.flatMap String.utf8EncodeChar, ?_⟩
      conv => lhs; rw [hrest]
      rw [List.flatMap_append, List.flatMap_cons]
      rfl

theorem slicedName?_eq (fileName : String) :
    slicedName? fileName.toList = some (objectName fileName).toList := by
  have hcut := cut?_append ((stemList fileName.toList).takeWhile (· != '@'))
    ((stemList fileName.toList).dropWhile (· != '@'))
  rw [List.takeWhile_append_dropWhile] at hcut
  rw [slicedName?, slicedStem?_eq, Option.bind_some, takeWhile_flatMap, hcut, objectName, String.toList_ofList]
  rfl

/-! ## Parts -/

/-- The parts that a file name is made of. -/
structure Decomposes (fileName name variant : String) : Prop where
  eq : fileName = name ++ variant ++ ".o"
  notMem : '@' ∉ name.toList
  variant : variant = "" ∨ ∃ rest, variant = "@" ++ rest

/-- The file names differ at most from the first `@` of their stems on. -/
def DifferInVariant (fileName fileName' : String) : Prop :=
  ∃ name variant variant', Decomposes fileName name variant ∧ Decomposes fileName' name variant'

section

variable {fileName name variant : String}

theorem Decomposes.objectName_eq (h : Decomposes fileName name variant) : objectName fileName = name := by
  have hstem : stemList fileName.toList = name.toList ++ variant.toList := by
    rw [h.eq, String.toList_append, String.toList_append]
    exact stemList_append _
  have hpart : (name.toList ++ variant.toList).takeWhile (· != '@') = name.toList := by
    apply takeWhile_ne_eq_iff.mpr
    constructor
    · exact h.notMem
    · rcases h.variant with rfl | ⟨rest, rfl⟩
      · left
        simp
      · right
        exact ⟨rest.toList, by simp⟩
  rw [objectName, hstem, hpart, String.ofList_toList]

theorem Decomposes.variant_eq {variant' : String} (h : Decomposes fileName name variant)
    (h' : Decomposes fileName name variant') : variant = variant' := by
  have heq := h.eq.symm.trans h'.eq
  rw [← String.toList_inj] at heq ⊢
  simpa using heq

theorem exists_decomposes (h : isObjectFile (encode fileName) = true) :
    ∃ variant, Decomposes fileName (objectName fileName) variant := by
  obtain ⟨stem, hstem⟩ := isObjectFile_flatMap_iff.mp h
  have hname : (objectName fileName).toList = stem.takeWhile (· != '@') := by
    rw [objectName, String.toList_ofList, hstem, stemList_append]
  obtain ⟨hnot, hparts⟩ := takeWhile_ne_eq_iff.mp hname.symm
  rcases hparts with hall | ⟨rest, hrest⟩
  · refine ⟨"", ?_, hnot, .inl rfl⟩
    rw [← String.toList_inj, hstem, hall]
    simp [ending]
  · refine ⟨"@" ++ String.ofList rest, ?_, hnot, .inr ⟨_, rfl⟩⟩
    rw [← String.toList_inj, hstem, hrest]
    simp [ending]

theorem existsUnique_decomposes (h : isObjectFile (encode fileName) = true) :
    ∃! parts : String × String, Decomposes fileName parts.1 parts.2 := by
  obtain ⟨variant, hparts⟩ := exists_decomposes h
  refine ⟨(objectName fileName, variant), hparts, ?_⟩
  rintro ⟨name', variant'⟩ hparts'
  obtain rfl : objectName fileName = name' := Decomposes.objectName_eq hparts'
  exact congrArg (objectName fileName, ·) (hparts'.variant_eq hparts)

end

theorem objectName_eq_iff {fileName fileName' : String} (h : isObjectFile (encode fileName) = true)
    (h' : isObjectFile (encode fileName') = true) :
    objectName fileName = objectName fileName' ↔ DifferInVariant fileName fileName' := by
  constructor
  · intro hsame
    obtain ⟨variant, hparts⟩ := exists_decomposes h
    obtain ⟨variant', hparts'⟩ := exists_decomposes h'
    exact ⟨objectName fileName, variant, variant', hparts, hsame ▸ hparts'⟩
  · rintro ⟨name, variant, variant', hparts, hparts'⟩
    rw [hparts.objectName_eq, hparts'.objectName_eq]

theorem isPrefix_objectName (fileName : String) : (objectName fileName).toList <+: fileName.toList := by
  have hname : (objectName fileName).toList <+: stemList fileName.toList := by
    rw [objectName, String.toList_ofList]
    exact List.takeWhile_prefix _
  apply hname.trans
  by_cases h : ∃ stem, fileName.toList = stem ++ ending
  · obtain ⟨stem, hstem⟩ := h
    rw [hstem, stemList_append]
    exact List.prefix_append stem ending
  · simp [stemList_of_not_ending h]

/-- The ending is read as it stands, whatever is in front of it. -/
theorem isObjectFile_encode_decodeLossy {name : Bytes} (h : isObjectFile name = true) :
    isObjectFile (encode (decodeLossy name)) = true := by
  obtain ⟨stem, rfl⟩ := isObjectFile_iff_append.mp h
  have hending : decodeLossyList extension = ending := by
    decide +kernel
  have hread : decodeLossyList (stem ++ extension) = decodeLossyList stem ++ ending :=
    (decodeLossyList_append_ascii stem (by decide) [0x6f]).trans (congrArg _ hending)
  rw [encode, decodeLossy, String.toList_ofList]
  exact isObjectFile_flatMap_iff.mpr ⟨_, hread⟩

/-- The name of an object is what its file's name has in front of the ending and the first `@`. -/
theorem objectName_takes_apart :
    (∀ fileName, isObjectFile (encode fileName) = true →
        (∃ variant, Decomposes fileName (objectName fileName) variant)
          ∧ ∃! parts : String × String, Decomposes fileName parts.1 parts.2)
      ∧ (∀ x y : String, '@' ∉ x.toList →
          objectName (x ++ "@" ++ y ++ ".o") = x ∧ objectName (x ++ ".o") = x)
      ∧ (∀ fileName fileName', isObjectFile (encode fileName) = true → isObjectFile (encode fileName') = true →
          (objectName fileName = objectName fileName' ↔ DifferInVariant fileName fileName'))
      ∧ (∀ fileName, (objectName fileName).toList <+: fileName.toList
          ∧ slicedName? fileName.toList = some (objectName fileName).toList)
      ∧ ∀ (p : Path) (name : Bytes), p.fileName? = some name → isObjectFile name = true →
          ∃ variant, Decomposes (decodeLossy name) (nameOfPath p) variant := by
  refine ⟨?_, ?_, ?_, ?_, ?_⟩
  · intro fileName hfile
    exact ⟨exists_decomposes hfile, existsUnique_decomposes hfile⟩
  · intro x y hx
    have hvariant : Decomposes (x ++ "@" ++ y ++ ".o") x ("@" ++ y) :=
      ⟨by simp only [String.append_assoc], hx, .inr ⟨y, rfl⟩⟩
    have hplain : Decomposes (x ++ ".o") x "" := ⟨by rw [String.append_empty], hx, .inl rfl⟩
    exact ⟨hvariant.objectName_eq, hplain.objectName_eq⟩
  · intro fileName fileName' hfile hfile'
    exact objectName_eq_iff hfile hfile'
  · intro fileName
    exact ⟨isPrefix_objectName fileName, slicedName?_eq fileName⟩
  · intro p name hname hfile
    rw [nameOfPath, hname, Option.getD_some]
    exact exists_decomposes (isObjectFile_encode_decodeLossy hfile)

/-- Names with several signs and endings, with characters of two bytes and with a byte that is no character. -/
theorem objectName_takes_apart_variants :
    (isObjectFile (encode "é@ü.o@.o") = true ∧ isObjectFile (encode "é@.o.o") = true
        ∧ (∃ variant, Decomposes "é@ü.o@.o" (objectName "é@ü.o@.o") variant)
        ∧ (objectName "é@ü.o@.o" = objectName "é@.o.o" ↔ DifferInVariant "é@ü.o@.o" "é@.o.o"))
      ∧ ('@' ∉ "é.o".toList ∧ objectName ("é.o" ++ "@" ++ "@" ++ ".o") = "é.o")
      ∧ (Path.fileName? ⟨[0x2f, 0xc3, 0x40, 0x2e, 0x6f]⟩ = some [0xc3, 0x40, 0x2e, 0x6f]
        ∧ isObjectFile [0xc3, 0x40, 0x2e, 0x6f] = true
        ∧ ∃ variant, Decomposes (decodeLossy [0xc3, 0x40, 0x2e, 0x6f])
            (nameOfPath ⟨[0x2f, 0xc3, 0x40, 0x2e, 0x6f]⟩) variant) := by
  have hfile : isObjectFile (encode "é@ü.o@.o") = true := by decide
  have hfile' : isObjectFile (encode "é@.o.o") = true := by decide
  have hsign : '@' ∉ "é.o".toList := by decide
  have hname : Path.fileName? ⟨[0x2f, 0xc3, 0x40, 0x2e, 0x6f]⟩ = some [0xc3, 0x40, 0x2e, 0x6f] := by decide
  have hbytes : isObjectFile [0xc3, 0x40, 0x2e, 0x6f] = true := by decide
  obtain ⟨hparts, hnames, hsame, -, hpaths⟩ := objectName_takes_apart
  exact ⟨⟨hfile, hfile', (hparts _ hfile).1, hsame _ _ hfile hfile'⟩, ⟨hsign, (hnames _ "@" hsign).1⟩,
    ⟨hname, hbytes, hpaths _ _ hname hbytes⟩⟩

end BpfBoot.Object
