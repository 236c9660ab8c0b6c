import BpfBoot.Proofs.Json5.Number

/-!
# Documents are read

Every document in the forms that the reader takes is read, and the value that is read stands for what the
document says. The proof follows the grammar, with one case for each of its forms; a text has more characters
than it has parts, so the fuel of the reader lasts.
-/

namespace BpfBoot.Json5

open Text

mutual

/-- The value says the same as the item. -/
inductive StandsFor : Value → Item → Prop where
  | flag {b : Bool} : StandsFor (.boolean b) (.flag b)
  | text {s : String} : StandsFor (.string s) (.text s)
  | number {v : Value} {n : Nat} (h : v.IsNatural n) : StandsFor v (.number n)
  | list {values : List Value} {items : List Item} (h : StandForElements values items) :
      StandsFor (.array values) (.list items)
  | object {values : List (String × Value)} {members : List (String × Item)}
      (h : StandForMembers values members) : StandsFor (.object values) (.object members)

inductive StandForElements : List Value → List Item → Prop where
  | nil : StandForElements [] []
  | cons {v : Value} {item : Item} {values : List Value} {items : List Item} (h : StandsFor v item)
      (hmore : StandForElements values items) : StandForElements (v :: values) (item :: items)

inductive StandForMembers : List (String × Value) → List (String × Item) → Prop where
  | nil : StandForMembers [] []
  | cons {key : String} {v : Value} {item : Item} {values : List (String × Value)}
      {members : List (String × Item)} (h : StandsFor v item) (hmore : StandForMembers values members) :
      StandForMembers ((key, v) :: values) ((key, item) :: members)

end

variable {forms : Forms}

theorem WritesNumber.ne_nil {n : Nat} {s : List Char} (h : WritesNumber forms n s) : s ≠ [] := by
  cases h with
  | decimal hsign hmantissa =>
    cases hmantissa with
    | integer h | point h => simp [h.ne_nil]
    | fraction => simp
  | hex => simp

theorem Continued.length_le {rest s : List Char} (h : Continued rest s) : rest.length ≤ s.length := by
  induction h with
  | none => exact le_rfl
  | line _ _ ih | carriageReturn _ ih =>
    simp only [List.length_cons]
    omega

theorem InString.length_lt {quote : Char} {rest meaning s : List Char}
    (h : InString forms quote rest meaning s) : rest.length < s.length := by
  induction h with
  | close => simp
  | pair _ _ _ _ _ _ hbetween _ ih =>
    have hlength := hbetween.length_le
    simp only [List.length_cons] at *
    omega
  | _ =>
    simp only [List.length_cons]
    omega

theorem Quoted.length_lt {rest meaning s : List Char} (h : Quoted forms rest meaning s) :
    rest.length < s.length := by
  obtain ⟨quote, -, t, rfl, h⟩ := h
  exact h.length_lt.trans (Nat.lt_succ_self _)

theorem NameRest.length_le {rest meaning s : List Char} (h : NameRest rest meaning s) :
    rest.length ≤ s.length := by
  induction h with
  | none => exact le_rfl
  | more hc _ ih => exact ih.trans hc.length_lt.le

theorem MemberKey.length_lt {rest meaning s : List Char} (h : MemberKey forms rest meaning s) :
    rest.length < s.length := by
  cases h with
  | quoted h => exact h.length_lt
  | name hc h => exact Nat.lt_of_le_of_lt h.length_le hc.length_lt

mutual

theorem Writes.length_lt {item : Item} {s rest : List Char} :
    Writes forms item s rest → rest.length < s.length
  | .yes | .no => by simp +arith
  | .text h => h.length_lt
  | .number h _ => by
      have hlength := List.length_pos_iff.mpr h.ne_nil
      rw [List.length_append]
      omega
  | .list hgap h => Nat.lt_succ_of_lt (Nat.lt_of_lt_of_le h.length_lt hgap.length_le)
  | .object hgap h => Nat.lt_succ_of_lt (Nat.lt_of_lt_of_le h.length_lt hgap.length_le)

theorem WritesElements.length_lt {items : List Item} {s rest : List Char} :
    WritesElements forms items s rest → rest.length < s.length
  | .none => by simp
  | .last h hend => (Nat.lt_of_succ_le hend.length_le).trans h.length_lt
  | .more h hcomma hgap hmore =>
      calc rest.length < _ := hmore.length_lt
        _ ≤ _ := hgap.length_le
        _ < _ := Nat.lt_of_succ_le hcomma.length_le
        _ < s.length := h.length_lt

theorem WritesMembers.length_lt {members : List (String × Item)} {s rest : List Char} :
    WritesMembers forms members s rest → rest.length < s.length
  | .none => by simp
  | .last hkey hcolon hgap h hend =>
      calc rest.length < _ := Nat.lt_of_succ_le hend.length_le
        _ < _ := h.length_lt
        _ ≤ _ := hgap.length_le
        _ < _ := Nat.lt_of_succ_le hcolon.length_le
        _ < s.length := hkey.length_lt
  | .more hkey hcolon hgap h hcomma hgap' hmore =>
      calc rest.length < _ := hmore.length_lt
        _ ≤ _ := hgap'.length_le
        _ < _ := Nat.lt_of_succ_le hcomma.length_le
        _ < _ := h.length_lt
        _ ≤ _ := hgap.length_le
        _ < _ := Nat.lt_of_succ_le hcolon.length_le
        _ < s.length := hkey.length_lt

end

/-! ## Where values and keys begin -/

theorem stops_cons {c : Char} (hblank : isBlank c = false) (hslash : c ≠ '/') (s : List Char) :
    Stops (c :: s) := by
  intro d hd
  obtain rfl := Option.some.inj hd
  exact ⟨hblank, hslash⟩

theorem isBlank_of_isDigit {c : Char} (h : isDigit c = true) : isBlank c = false := by
  by_contra hblank
  obtain ⟨-, -, -, -, hdigit, -⟩ := breaks_of_isBlank (by simpa using hblank)
  rw [h] at hdigit
  cases hdigit

theorem stops_of_startsName {c : Char} (h : startsName c = true) (s : List Char) : Stops (c :: s) := by
  refine stops_cons ?_ ?_ s
  · by_contra hblank
    have hname := (breaks_of_isBlank (by simpa using hblank)).1
    simp [continuesName, h] at hname
  · rintro rfl
    rw [startsName_of_isMark (by decide)] at h
    cases h

theorem Quoted.stops {rest meaning s : List Char} (h : Quoted forms rest meaning s) : Stops s := by
  obtain ⟨quote, hquote, t, rfl, -⟩ := h
  rcases hquote with rfl | rfl
  · exact stops_cons (isBlank_of_graphic (by decide) (by decide)) (by decide) t
  · exact stops_cons (isBlank_of_graphic (by decide) (by decide)) (by decide) t

/-- A character that a number begins with. -/
def StartsNumber (c : Char) : Prop :=
  isDigit c = true ∨ c = '.' ∨ c = '+' ∨ c = '-'

theorem Mantissa.startsNumber {whole places mantissa : List Char} (h : Mantissa whole places mantissa)
    (t : List Char) : ∀ c ∈ (mantissa ++ t).head?, StartsNumber c :=
  fun c hc => (h.head_eq t c hc).imp_right .inl

theorem WritesNumber.startsNumber {n : Nat} {s : List Char} (h : WritesNumber forms n s) (rest : List Char) :
    ∀ c ∈ (s ++ rest).head?, StartsNumber c := by
  have hsigned {sign : List Char} (hsign : SignPart n sign) {body : List Char}
      (hbody : ∀ c ∈ body.head?, StartsNumber c) : ∀ c ∈ (sign ++ body).head?, StartsNumber c := by
    intro c hc
    cases hsign with
    | none => exact hbody c hc
    | plus => exact .inr (.inr (.inl (Option.some.inj hc).symm))
    | minus => exact .inr (.inr (.inr (Option.some.inj hc).symm))
  cases h with
  | decimal hsign hmantissa =>
    simp only [List.append_assoc]
    exact hsigned hsign (hmantissa.startsNumber _)
  | hex hsign =>
    rw [List.append_assoc]
    refine hsigned hsign ?_
    intro c hc
    obtain rfl := Option.some.inj hc
    exact .inl (by decide)

theorem WritesNumber.exists_cons {n : Nat} {s : List Char} (h : WritesNumber forms n s) (rest : List Char) :
    ∃ c t, s ++ rest = c :: t ∧ StartsNumber c := by
  obtain ⟨c, t, hcons⟩ := List.exists_cons_of_ne_nil (List.append_ne_nil_of_left_ne_nil h.ne_nil rest)
  exact ⟨c, t, hcons, h.startsNumber rest c (by rw [hcons]; rfl)⟩

theorem WritesNumber.stops {n : Nat} {s : List Char} (h : WritesNumber forms n s) (rest : List Char) :
    Stops (s ++ rest) := by
  obtain ⟨c, t, hcons, hc⟩ := h.exists_cons rest
  rw [hcons]
  rcases hc with hdigit | rfl | rfl | rfl
  · exact stops_cons (isBlank_of_isDigit hdigit) (ne_of_isDigit hdigit (by decide)) t
  · exact stops_cons (isBlank_of_graphic (by decide) (by decide)) (by decide) t
  · exact stops_cons (isBlank_of_graphic (by decide) (by decide)) (by decide) t
  · exact stops_cons (isBlank_of_graphic (by decide) (by decide)) (by decide) t

theorem Writes.stops {item : Item} {s rest : List Char} (h : Writes forms item s rest) : Stops s := by
  cases h with
  | yes | no | list | object => exact stops_cons (isBlank_of_graphic (by decide) (by decide)) (by decide) _
  | text h => exact h.stops
  | number h => exact h.stops rest

theorem WritesElements.stops {items : List Item} {s rest : List Char}
    (h : WritesElements forms items s rest) : Stops s := by
  cases h with
  | none => exact stops_cons (isBlank_of_graphic (by decide) (by decide)) (by decide) _
  | last h | more h => exact h.stops

theorem MemberKey.stops {rest meaning s : List Char} (h : MemberKey forms rest meaning s) : Stops s := by
  cases h with
  | quoted h => exact h.stops
  | name hc =>
    cases hc with
    | literal hc => exact stops_of_startsName hc _
    | code => exact stops_cons (isBlank_of_graphic (by decide) (by decide)) (by decide) _

theorem WritesMembers.stops {members : List (String × Item)} {s rest : List Char}
    (h : WritesMembers forms members s rest) : Stops s := by
  cases h with
  | none => exact stops_cons (isBlank_of_graphic (by decide) (by decide)) (by decide) _
  | last hkey | more hkey => exact hkey.stops

/-! ## Values -/

/-- Reads elements from a place on where one may begin. -/
def readElementsOrEnd? (fuel : Nat) (s : List Char) : Option (List Value × List Char) :=
  match s with
  | ']' :: rest => some ([], rest)
  | _ => readElements? fuel s

/-- Reads members from a place on where one may begin. -/
def readMembersOrEnd? (fuel : Nat) (s : List Char) : Option (List (String × Value) × List Char) :=
  match s with
  | '\x7d' :: rest => some ([], rest)
  | _ => readMembers? fuel s

theorem readValue?_number {c : Char} (h : StartsNumber c) (fuel : Nat) (s : List Char) :
    readValue? (fuel + 1) (c :: s) = readNumber? (c :: s) := by
  have hne {d : Char} (hd : isDigit d = false ∧ d ≠ '.' ∧ d ≠ '+' ∧ d ≠ '-') : c ≠ d := by
    rintro rfl
    rcases h with h | h | h | h
    · rw [hd.1] at h
      cases h
    · exact hd.2.1 h
    · exact hd.2.2.1 h
    · exact hd.2.2.2 h
  rw [readValue?.eq_def]
  simp only
  split <;> first | rfl | (next heq => exact absurd (List.cons.inj heq).1 (hne (by decide)))

theorem readValue?_list (fuel : Nat) (s : List Char) :
    readValue? (fuel + 1) ('[' :: s)
      = (readElementsOrEnd? fuel (skip s)).map fun (elements, rest) => (.array elements, rest) := by
  rw [readValue?, readElementsOrEnd?.eq_def]
  split <;> simp_all

theorem readValue?_object (fuel : Nat) (s : List Char) :
    readValue? (fuel + 1) ('\x7b' :: s)
      = (readMembersOrEnd? fuel (skip s)).map fun (members, rest) => (.object members, rest) := by
  rw [readValue?, readMembersOrEnd?.eq_def]
  split <;> simp_all

section

variable {v : Value} {key : String} {s t u w x rest : List Char} {fuel : Nat}

theorem readElementsOrEnd?_of_ne (hstart : s.head? ≠ some ']') (fuel : Nat) :
    readElementsOrEnd? fuel s = readElements? fuel s := by
  unfold readElementsOrEnd?
  split
  · exact absurd rfl hstart
  · rfl

theorem readElementsOrEnd?_last (hstart : s.head? ≠ some ']') (h : readValue? fuel s = some (v, t))
    (hend : skip t = ']' :: rest) : readElementsOrEnd? (fuel + 1) s = some ([v], rest) := by
  rw [readElementsOrEnd?_of_ne hstart]
  simp [readElements?, h, hend]

theorem readElementsOrEnd?_more {values : List Value} (hstart : s.head? ≠ some ']')
    (h : readValue? fuel s = some (v, t)) (hcomma : skip t = ',' :: u)
    (hmore : readElementsOrEnd? fuel (skip u) = some (values, rest)) :
    readElementsOrEnd? (fuel + 1) s = some (v :: values, rest) := by
  rw [readElementsOrEnd?_of_ne hstart]
  unfold readElementsOrEnd? at hmore
  split at hmore
  next heq =>
    obtain ⟨rfl, rfl⟩ := hmore
    simp [readElements?, h, hcomma, heq]
  next hne => simp [readElements?, h, hcomma, hmore]

theorem readMembersOrEnd?_of_ne (hstart : s.head? ≠ some '\x7d') (fuel : Nat) :
    readMembersOrEnd? fuel s = readMembers? fuel s := by
  unfold readMembersOrEnd?
  split
  · exact absurd rfl hstart
  · rfl

theorem readMembersOrEnd?_last (hstart : s.head? ≠ some '\x7d') (hkey : readKey? s = some (key, t))
    (hcolon : skip t = ':' :: u) (h : readValue? fuel (skip u) = some (v, w)) (hend : skip w = '\x7d' :: rest) :
    readMembersOrEnd? (fuel + 1) s = some ([(key, v)], rest) := by
  rw [readMembersOrEnd?_of_ne hstart]
  simp [readMembers?, hkey, hcolon, h, hend]

theorem readMembersOrEnd?_more {values : List (String × Value)} (hstart : s.head? ≠ some '\x7d')
    (hkey : readKey? s = some (key, t)) (hcolon : skip t = ':' :: u)
    (h : readValue? fuel (skip u) = some (v, w)) (hcomma : skip w = ',' :: x)
    (hmore : readMembersOrEnd? fuel (skip x) = some (values, rest)) :
    readMembersOrEnd? (fuel + 1) s = some ((key, v) :: values, rest) := by
  rw [readMembersOrEnd?_of_ne hstart]
  unfold readMembersOrEnd? at hmore
  split at hmore
  next heq =>
    obtain ⟨rfl, rfl⟩ := hmore
    simp [readMembers?, hkey, hcolon, h, hcomma, heq]
  next hne => simp [readMembers?, hkey, hcolon, h, hcomma, hmore]

end

theorem Quoted.head?_ne {rest meaning s : List Char} (h : Quoted forms rest meaning s) {d : Char}
    (hd : d ≠ '"' ∧ d ≠ '\x27') : s.head? ≠ some d := by
  obtain ⟨quote, hquote, t, rfl, -⟩ := h
  intro heq
  obtain rfl := Option.some.inj heq
  exact hquote.elim hd.1 hd.2

theorem Writes.head?_ne {item : Item} {s rest : List Char} (h : Writes forms item s rest) :
    s.head? ≠ some ']' := by
  cases h with
  | yes | no | list | object => simp
  | text h => exact h.head?_ne (by decide)
  | number h =>
    intro heq
    rcases h.startsNumber rest _ heq with hdigit | hsign
    · exact absurd hdigit (by decide)
    · exact absurd hsign (by decide)

theorem MemberKey.head?_ne {rest meaning s : List Char} (h : MemberKey forms rest meaning s) :
    s.head? ≠ some '\x7d' := by
  cases h with
  | quoted h => exact h.head?_ne (by decide)
  | name hc => exact hc.head_ne (startsName_of_isMark (by decide)) (by decide)

/-- The characters that stand between values. -/
def punctuation : List Char := [',', ':', ']', '\x7d']

theorem stops_of_punctuation {c : Char} (h : c ∈ punctuation) (s : List Char) : Stops (c :: s) := by
  simp only [punctuation, List.mem_cons, List.not_mem_nil, or_false] at h
  rcases h with rfl | rfl | rfl | rfl <;>
    exact stops_cons (isBlank_of_graphic (by decide) (by decide)) (by decide) s

theorem ends_of_punctuation {c : Char} (h : c ∈ punctuation) (s : List Char) : Ends (c :: s) := by
  intro d hd
  obtain rfl := Option.some.inj hd
  simp only [punctuation, List.mem_cons, List.not_mem_nil, or_false] at h
  rcases h with rfl | rfl | rfl | rfl <;> exact ⟨continuesName_of_isMark (by decide), by decide⟩

theorem skip_of_punctuation {c : Char} (h : c ∈ punctuation) {s t : List Char} (hgap : Gap (c :: s) t) :
    skip t = c :: s :=
  skip_of_gap hgap (stops_of_punctuation h s)

theorem ends_of_gap_punctuation {c : Char} (h : c ∈ punctuation) {s t : List Char} (hgap : Gap (c :: s) t) :
    Ends t :=
  ends_of_gap hgap (ends_of_punctuation h s)

theorem readValue?_text {rest meaning s : List Char} (h : Quoted .plain rest meaning s) (fuel : Nat) :
    readValue? (fuel + 1) s = some (.string (String.ofList meaning), rest) := by
  obtain ⟨quote, hquote, t, rfl, h⟩ := h
  have hread := readString?_of_inString h hquote
  rcases hquote with rfl | rfl <;> simp [readValue?, hread]

mutual

/-- A value is read off its text, and the fuel lasts. -/
theorem exists_readValue? {item : Item} {s rest : List Char} :
    Writes .plain item s rest → Ends rest → ∀ {fuel : Nat}, 2 * s.length ≤ fuel →
      ∃ v, readValue? fuel s = some (v, rest) ∧ StandsFor v item
  | h, _, 0, hfuel => absurd h.length_lt (by omega)
  | .yes, _, fuel + 1, _ => ⟨.boolean true, rfl, .flag⟩
  | .no, _, fuel + 1, _ => ⟨.boolean false, rfl, .flag⟩
  | .text h, _, fuel + 1, _ => ⟨_, readValue?_text h fuel, .text⟩
  | .number h hn, hends, fuel + 1, _ => by
      obtain ⟨v, hread, hnatural⟩ := exists_readNumber? h hn hends
      obtain ⟨c, t, hcons, hc⟩ := h.exists_cons rest
      refine ⟨v, ?_, .number hnatural⟩
      rw [hcons] at hread ⊢
      rw [readValue?_number hc, hread]
  | .list hgap h, _, fuel + 1, hfuel => by
      have hlength := hgap.length_le
      rw [List.length_cons] at hfuel
      obtain ⟨values, hread, hstand⟩ := exists_readElementsOrEnd? h (by omega : _ ≤ fuel)
      exact ⟨.array values, by simp [readValue?_list, skip_of_gap hgap h.stops, hread], .list hstand⟩
  | .object hgap h, _, fuel + 1, hfuel => by
      have hlength := hgap.length_le
      rw [List.length_cons] at hfuel
      obtain ⟨values, hread, hstand⟩ := exists_readMembersOrEnd? h (by omega : _ ≤ fuel)
      exact ⟨.object values, by simp [readValue?_object, skip_of_gap hgap h.stops, hread], .object hstand⟩

theorem exists_readElementsOrEnd? {items : List Item} {s rest : List Char} :
    WritesElements .plain items s rest → ∀ {fuel : Nat}, 2 * s.length + 1 ≤ fuel →
      ∃ values, readElementsOrEnd? fuel s = some (values, rest) ∧ StandForElements values items
  | _, 0, hfuel => by omega
  | .none, _, _ => ⟨[], rfl, .nil⟩
  | .last h hend, fuel + 1, hfuel => by
      obtain ⟨v, hread, hstand⟩ := exists_readValue? h (ends_of_gap_punctuation (by decide) hend)
        (by omega : _ ≤ fuel)
      exact ⟨[v], readElementsOrEnd?_last h.head?_ne hread (skip_of_punctuation (by decide) hend),
        .cons hstand .nil⟩
  | .more h hcomma hgap hmore, fuel + 1, hfuel => by
      have hshorter := h.length_lt
      have hcommaLength := hcomma.length_le
      have hgapLength := hgap.length_le
      rw [List.length_cons] at hcommaLength
      obtain ⟨v, hread, hstand⟩ := exists_readValue? h (ends_of_gap_punctuation (by decide) hcomma)
        (by omega : _ ≤ fuel)
      obtain ⟨values, hreads, hstands⟩ := exists_readElementsOrEnd? hmore (by omega : _ ≤ fuel)
      rw [← skip_of_gap hgap hmore.stops] at hreads
      exact ⟨v :: values,
        readElementsOrEnd?_more h.head?_ne hread (skip_of_punctuation (by decide) hcomma) hreads,
        .cons hstand hstands⟩

theorem exists_readMembersOrEnd? {members : List (String × Item)} {s rest : List Char} :
    WritesMembers .plain members s rest → ∀ {fuel : Nat}, 2 * s.length + 1 ≤ fuel →
      ∃ values, readMembersOrEnd? fuel s = some (values, rest) ∧ StandForMembers values members
  | _, 0, hfuel => by omega
  | .none, _, _ => ⟨[], rfl, .nil⟩
  | .last hkey hcolon hgap h hend, fuel + 1, hfuel => by
      have hkeyLength := hkey.length_lt
      have hcolonLength := hcolon.length_le
      have hgapLength := hgap.length_le
      rw [List.length_cons] at hcolonLength
      have hreadKey := readKey?_of_key hkey (ends_of_gap_punctuation (by decide) hcolon)
      obtain ⟨v, hread, hstand⟩ := exists_readValue? h (ends_of_gap_punctuation (by decide) hend)
        (by omega : _ ≤ fuel)
      rw [← skip_of_gap hgap h.stops] at hread
      exact ⟨[(_, v)],
        readMembersOrEnd?_last hkey.head?_ne hreadKey (skip_of_punctuation (by decide) hcolon) hread
          (skip_of_punctuation (by decide) hend),
        .cons hstand .nil⟩
  | .more hkey hcolon hgap h hcomma hgap' hmore, fuel + 1, hfuel => by
      have hkeyLength := hkey.length_lt
      have hcolonLength := hcolon.length_le
      have hgapLength := hgap.length_le
      have hshorter := h.length_lt
      have hcommaLength := hcomma.length_le
      have hgapLength' := hgap'.length_le
      rw [List.length_cons] at hcolonLength hcommaLength
      have hreadKey := readKey?_of_key hkey (ends_of_gap_punctuation (by decide) hcolon)
      obtain ⟨v, hread, hstand⟩ := exists_readValue? h (ends_of_gap_punctuation (by decide) hcomma)
        (by omega : _ ≤ fuel)
      obtain ⟨values, hreads, hstands⟩ := exists_readMembersOrEnd? hmore (by omega : _ ≤ fuel)
      rw [← skip_of_gap hgap h.stops] at hread
      rw [← skip_of_gap hgap' hmore.stops] at hreads
      exact ⟨(_, v) :: values,
        readMembersOrEnd?_more hkey.head?_ne hreadKey (skip_of_punctuation (by decide) hcolon) hread
          (skip_of_punctuation (by decide) hcomma) hreads,
        .cons hstand hstands⟩

end

/-- Every document in the forms that the reader takes is read. -/
theorem exists_parse?_of_document {text : String} {item : Item} (h : Document .plain text item) :
    ∃ v, parse? text = some v ∧ StandsFor v item := by
  obtain ⟨s, t, hgap, hwrites, hend⟩ := h
  have hnil : Ends [] ∧ Stops [] := ⟨nofun, nofun⟩
  obtain ⟨v, hread, hstand⟩ := exists_readValue? hwrites (ends_of_gap hend hnil.1) (Nat.le_succ _)
  refine ⟨v, ?_, hstand⟩
  simp [parse?, skip_of_gap hgap hwrites.stops, hread, skip_of_gap hend hnil.2]

end BpfBoot.Json5
