import BpfBoot.Json5.Parser
import BpfBoot.Proofs.Text.Numeral
import Mathlib.Algebra.Order.Field.Rat

/-!
# JSON5 documents

What a JSON5 text stands for, as its grammar has it and apart from any way of reading it. Each part of the
grammar relates the text from a place on to the text that is left after the part. Values are those that a
configuration can ask for: truth values, texts, natural numbers, lists and objects.

A few forms of the grammar are set apart, because the reader does not take them: numbers in base sixteen with
a sign or with more than 32 bits, the characters U+2028 and U+2029 as they are within quotes, and pairs of
surrogates for characters of the planes whose number is even.
-/

namespace BpfBoot.Json5

open Text

/-- What a document can say. -/
inductive Item where
  | flag (b : Bool)
  | text (s : String)
  | number (n : Nat)
  | list (items : List Item)
  | object (members : List (String × Item))

/-- Which forms a document may use. -/
inductive Forms where
  /-- All forms of JSON5. -/
  | all
  /-- The forms that the reader takes. -/
  | plain
  deriving DecidableEq, Repr

/-- A text that goes on from one place to another with blanks and comments only. -/
inductive Gap (rest : List Char) : List Char → Prop where
  | none : Gap rest rest
  | blank {c : Char} {s : List Char} (hc : isBlank c = true) (h : Gap rest s) : Gap rest (c :: s)
  | block {comment s : List Char} (hcomment : ¬ ['*', '/'] <:+: comment ++ ['*']) (h : Gap rest s) :
      Gap rest ('/' :: '*' :: (comment ++ '*' :: '/' :: s))
  | line {comment : List Char} {c : Char} {s : List Char} (hcomment : ∀ d ∈ comment, endsLine d = false)
      (hc : endsLine c = true) (h : Gap rest s) : Gap rest ('/' :: '/' :: (comment ++ c :: s))
  /-- A comment on the last line. -/
  | lastLine {comment : List Char} (hcomment : ∀ d ∈ comment, endsLine d = false) (hrest : rest = []) :
      Gap rest ('/' :: '/' :: comment)

/-! ## Strings and names -/

def AreHexDigits (digits : List Char) : Prop :=
  ∀ c ∈ digits, isHexDigit c = true

/-- The text goes on after ends of lines that a backslash stands before. -/
inductive Continued (rest : List Char) : List Char → Prop where
  | none : Continued rest rest
  | line {c : Char} {s : List Char} (hc : endsLine c = true) (h : Continued rest s) :
      Continued rest ('\\' :: c :: s)
  | carriageReturn {s : List Char} (h : Continued rest s) : Continued rest ('\\' :: '\r' :: '\n' :: s)

/-- A character that stands for itself within quotes. -/
def IsLiteral (forms : Forms) (quote c : Char) : Prop :=
  c ≠ quote ∧ c ≠ '\\' ∧ c ≠ '\n' ∧ c ≠ '\r' ∧ (endsLine c = true → forms = .all)

/-- The character that two surrogates stand for. -/
def pairValue (high low : Nat) : Nat :=
  (high - 0xd800) * 0x400 + (low - 0xdc00) + 0x10000

/-- The plane of the character that two surrogates stand for. -/
def pairPlane (high low : Nat) : Nat :=
  pairValue high low / 0x10000

/-- The rest of a string, and what it stands for. -/
inductive InString (forms : Forms) (quote : Char) (rest : List Char) : List Char → List Char → Prop where
  | close : InString forms quote rest [] (quote :: rest)
  | literal {c : Char} {meaning s : List Char} (hc : IsLiteral forms quote c)
      (h : InString forms quote rest meaning s) : InString forms quote rest (c :: meaning) (c :: s)
  | escape {c : Char} {meaning s : List Char} (hcode : c ≠ 'x' ∧ c ≠ 'u') (hdigit : isDigit c = false)
      (hline : endsLine c = false) (h : InString forms quote rest meaning s) :
      InString forms quote rest (escaped c :: meaning) ('\\' :: c :: s)
  | nul {meaning s : List Char} (hnext : ∀ c ∈ s.head?, isDigit c = false)
      (h : InString forms quote rest meaning s) :
      InString forms quote rest ('\x00' :: meaning) ('\\' :: '0' :: s)
  | byte {a b : Char} {meaning s : List Char} (hdigits : AreHexDigits [a, b])
      (h : InString forms quote rest meaning s) :
      InString forms quote rest (Char.ofNat (numeralValue 16 [a, b]) :: meaning) ('\\' :: 'x' :: a :: b :: s)
  | code {a b c d : Char} {meaning s : List Char} (hdigits : AreHexDigits [a, b, c, d])
      (hvalid : (numeralValue 16 [a, b, c, d]).isValidChar) (h : InString forms quote rest meaning s) :
      InString forms quote rest (Char.ofNat (numeralValue 16 [a, b, c, d]) :: meaning)
        ('\\' :: 'u' :: a :: b :: c :: d :: s)
  | pair {a b c d a' b' c' d' : Char} {high low : Nat} {meaning s between : List Char}
      (hdigits : AreHexDigits [a, b, c, d]) (hdigits' : AreHexDigits [a', b', c', d'])
      (hhigh : numeralValue 16 [a, b, c, d] = high) (hlow : numeralValue 16 [a', b', c', d'] = low)
      (hpair : isHighSurrogate high = true ∧ isLowSurrogate low = true)
      (hplane : pairPlane high low % 2 = 0 → forms = .all)
      (hbetween : Continued ('\\' :: 'u' :: a' :: b' :: c' :: d' :: s) between)
      (h : InString forms quote rest meaning s) :
      InString forms quote rest (Char.ofNat (pairValue high low) :: meaning)
        ('\\' :: 'u' :: a :: b :: c :: d :: between)
  | continued {c : Char} {meaning s : List Char} (hc : endsLine c = true)
      (h : InString forms quote rest meaning s) : InString forms quote rest meaning ('\\' :: c :: s)
  | carriageReturn {meaning s : List Char} (h : InString forms quote rest meaning s) :
      InString forms quote rest meaning ('\\' :: '\r' :: '\n' :: s)

/-- A string in quotes, and what it stands for. -/
def Quoted (forms : Forms) (rest meaning s : List Char) : Prop :=
  ∃ quote, (quote = '"' ∨ quote = '\x27') ∧ ∃ t, s = quote :: t ∧ InString forms quote rest meaning t

/-- A character of a name: as it is, or by its code. -/
inductive InName (allowed : Char → Bool) (rest : List Char) : Char → List Char → Prop where
  | literal {c : Char} (hc : allowed c = true) : InName allowed rest c (c :: rest)
  | code {a b c d x : Char} (hdigits : AreHexDigits [a, b, c, d])
      (hx : x = Char.ofNat (numeralValue 16 [a, b, c, d])) (hallowed : allowed x = true) :
      InName allowed rest x ('\\' :: 'u' :: a :: b :: c :: d :: rest)

inductive NameRest (rest : List Char) : List Char → List Char → Prop where
  | none : NameRest rest [] rest
  | more {c : Char} {meaning s t : List Char} (hc : InName continuesName s c t)
      (h : NameRest rest meaning s) : NameRest rest (c :: meaning) t

/-- The key of a member: a string or a name. -/
inductive MemberKey (forms : Forms) (rest : List Char) : List Char → List Char → Prop where
  | quoted {meaning s : List Char} (h : Quoted forms rest meaning s) : MemberKey forms rest meaning s
  | name {c : Char} {meaning s t : List Char} (hc : InName startsName s c t)
      (h : NameRest rest meaning s) : MemberKey forms rest (c :: meaning) t

/-! ## Numbers -/

def AreDigits (digits : List Char) : Prop :=
  ∀ c ∈ digits, isDigit c = true

/-- The digits before the point: zero, or digits that do not begin with it. -/
inductive WholePart : List Char → Prop where
  | zero : WholePart ['0']
  | digits {c : Char} {s : List Char} (hc : c ≠ '0') (h : AreDigits (c :: s)) : WholePart (c :: s)

/-- The digits before and after the point, and how they are written. -/
inductive Mantissa : (whole places s : List Char) → Prop where
  | integer {whole : List Char} (h : WholePart whole) : Mantissa whole [] whole
  | point {whole places : List Char} (h : WholePart whole) (hplaces : AreDigits places) :
      Mantissa whole places (whole ++ '.' :: places)
  | fraction {places : List Char} (hplaces : AreDigits places) (hne : places ≠ []) :
      Mantissa [] places ('.' :: places)

/-- A sign before the digits of an exponent, and whether it is a minus sign. -/
inductive ExponentSign : Bool → List Char → Prop where
  | none : ExponentSign false []
  | plus : ExponentSign false ['+']
  | minus : ExponentSign true ['-']

/-- An exponent, and how it is written. -/
inductive ExponentPart : Int → List Char → Prop where
  | none : ExponentPart 0 []
  | some {e : Char} {negative : Bool} {sign digits : List Char} (he : e = 'e' ∨ e = 'E')
      (hsign : ExponentSign negative sign) (h : IsNumeral digits) :
      ExponentPart (if negative then -(numeralValue 10 digits : Int) else numeralValue 10 digits)
        (e :: (sign ++ digits))

/-- The sign of a natural number. -/
inductive SignPart (n : Nat) : List Char → Prop where
  | none : SignPart n []
  | plus : SignPart n ['+']
  | minus (h : n = 0) : SignPart n ['-']

/-- A natural number, and how it is written. -/
inductive WritesNumber (forms : Forms) (n : Nat) : List Char → Prop where
  | decimal {sign whole places mantissa exponent : List Char} {k : Int} (hsign : SignPart n sign)
      (hmantissa : Mantissa whole places mantissa) (hexponent : ExponentPart k exponent)
      (hvalue : (numeralValue 10 (whole ++ places) : ℚ) * 10 ^ (k - places.length) = n) :
      WritesNumber forms n (sign ++ (mantissa ++ exponent))
  | hex {sign digits : List Char} {x : Char} (hsign : SignPart n sign) (hx : x = 'x' ∨ x = 'X')
      (hdigits : AreHexDigits digits) (hne : digits ≠ []) (hvalue : numeralValue 16 digits = n)
      (hform : sign ≠ [] ∨ hexBound ≤ n → forms = .all) :
      WritesNumber forms n (sign ++ '0' :: x :: digits)

/-! ## Values -/

/-- The bound on the numbers of a document: they have at most 53 bits. -/
def numberBound : Nat := 0x20000000000000

mutual

/-- A value, from its first character on. -/
inductive Writes (forms : Forms) : Item → (s rest : List Char) → Prop where
  | yes {rest : List Char} : Writes forms (.flag true) ('t' :: 'r' :: 'u' :: 'e' :: rest) rest
  | no {rest : List Char} : Writes forms (.flag false) ('f' :: 'a' :: 'l' :: 's' :: 'e' :: rest) rest
  | text {meaning s rest : List Char} (h : Quoted forms rest meaning s) :
      Writes forms (.text (String.ofList meaning)) s rest
  | number {n : Nat} {s rest : List Char} (h : WritesNumber forms n s) (hn : n < numberBound) :
      Writes forms (.number n) (s ++ rest) rest
  | list {items : List Item} {s t rest : List Char} (hgap : Gap t s) (h : WritesElements forms items t rest) :
      Writes forms (.list items) ('[' :: s) rest
  | object {members : List (String × Item)} {s t rest : List Char} (hgap : Gap t s)
      (h : WritesMembers forms members t rest) : Writes forms (.object members) ('\x7b' :: s) rest

/-- The elements of an array from a place on where one may begin. -/
inductive WritesElements (forms : Forms) : List Item → (s rest : List Char) → Prop where
  | none {rest : List Char} : WritesElements forms [] (']' :: rest) rest
  | last {item : Item} {s t rest : List Char} (h : Writes forms item s t) (hend : Gap (']' :: rest) t) :
      WritesElements forms [item] s rest
  | more {item : Item} {items : List Item} {s t u v rest : List Char} (h : Writes forms item s t)
      (hcomma : Gap (',' :: u) t) (hgap : Gap v u) (hmore : WritesElements forms items v rest) :
      WritesElements forms (item :: items) s rest

/-- The members of an object from a place on where one may begin. -/
inductive WritesMembers (forms : Forms) : List (String × Item) → (s rest : List Char) → Prop where
  | none {rest : List Char} : WritesMembers forms [] ('\x7d' :: rest) rest
  | last {key : List Char} {item : Item} {s t u v w rest : List Char} (hkey : MemberKey forms t key s)
      (hcolon : Gap (':' :: u) t) (hgap : Gap v u) (h : Writes forms item v w)
      (hend : Gap ('\x7d' :: rest) w) : WritesMembers forms [(String.ofList key, item)] s rest
  | more {key : List Char} {item : Item} {members : List (String × Item)} {s t u v w x y rest : List Char}
      (hkey : MemberKey forms t key s) (hcolon : Gap (':' :: u) t) (hgap : Gap v u) (h : Writes forms item v w)
      (hcomma : Gap (',' :: x) w) (hgap' : Gap y x) (hmore : WritesMembers forms members y rest) :
      WritesMembers forms ((String.ofList key, item) :: members) s rest

end

/-- A text that holds one value. -/
def Document (forms : Forms) (text : String) (item : Item) : Prop :=
  ∃ s t, Gap s text.toList ∧ Writes forms item s t ∧ Gap [] t

end BpfBoot.Json5
