import BpfBoot.Bytes
import BpfBoot.Text.Numeral

/-!
# UTF-8

Decoding of byte strings. A byte string is decoded from its front: either a whole character stands
there, or a malformed sequence of one to three bytes, or the byte string ends inside a character.
Strict decoding reports where the first of the last two happens, lossy decoding writes one U+FFFD
for each malformed sequence.
-/

namespace BpfBoot.Text.Utf8

/-- What stands at the front of a byte string. -/
inductive Front where
  | done
  | char (c : Char) (rest : Bytes)
  | malformed (length : Nat) (rest : Bytes)
  | truncated
  deriving DecidableEq, Repr

/-- Whether a byte continues a character. -/
def isContinuation (b : UInt8) : Bool :=
  0x80 ≤ b && b ≤ 0xbf

/-- The bounds of the second byte of a character that starts with `lead`. -/
def secondBounds (lead : UInt8) : UInt8 × UInt8 :=
  if lead == 0xe0 then (0xa0, 0xbf)
  else if lead == 0xed then (0x80, 0x9f)
  else if lead == 0xf0 then (0x90, 0xbf)
  else if lead == 0xf4 then (0x80, 0x8f)
  else (0x80, 0xbf)

/-- Whether `b` may follow `lead` as the second byte of a character. -/
def isSecond (lead b : UInt8) : Bool :=
  (secondBounds lead).1 ≤ b && b ≤ (secondBounds lead).2

/-- The six low bits of a byte that continues a character. -/
def payload (b : UInt8) : Nat :=
  b.toNat % 64

/-- The number of bytes of the character that starts with `lead`; zero if no character does. -/
def width (lead : UInt8) : Nat :=
  if lead < 0x80 then 1
  else if lead < 0xc2 then 0
  else if lead < 0xe0 then 2
  else if lead < 0xf0 then 3
  else if lead < 0xf5 then 4
  else 0

/-- Reads one character off the front. -/
def front : Bytes → Front
  | [] => .done
  | b :: rest =>
      match width b with
      | 1 => .char (Char.ofNat b.toNat) rest
      | 2 => two b rest
      | 3 => three b rest
      | 4 => four b rest
      | _ => .malformed 1 rest
where
  two (b : UInt8) : Bytes → Front
    | [] => .truncated
    | b₂ :: rest =>
        if isSecond b b₂ then .char (Char.ofNat (b.toNat % 32 * 64 + payload b₂)) rest
        else .malformed 1 (b₂ :: rest)
  three (b : UInt8) : Bytes → Front
    | [] => .truncated
    | b₂ :: rest =>
        if !isSecond b b₂ then .malformed 1 (b₂ :: rest)
        else match rest with
          | [] => .truncated
          | b₃ :: rest =>
              if isContinuation b₃ then
                .char (Char.ofNat ((b.toNat % 16 * 64 + payload b₂) * 64 + payload b₃)) rest
              else .malformed 2 (b₃ :: rest)
  four (b : UInt8) : Bytes → Front
    | [] => .truncated
    | b₂ :: rest =>
        if !isSecond b b₂ then .malformed 1 (b₂ :: rest)
        else match rest with
          | [] => .truncated
          | b₃ :: rest =>
              if !isContinuation b₃ then .malformed 2 (b₃ :: rest)
              else match rest with
                | [] => .truncated
                | b₄ :: rest =>
                    if isContinuation b₄ then
                      .char (Char.ofNat
                        (((b.toNat % 8 * 64 + payload b₂) * 64 + payload b₃) * 64 + payload b₄)) rest
                    else .malformed 3 (b₄ :: rest)

/-- The bytes left after what stands at the front. -/
def Front.rest : Front → Bytes
  | .char _ rest | .malformed _ rest => rest
  | .done | .truncated => []

theorem length_two_rest_le (b : UInt8) (bytes : Bytes) :
    (front.two b bytes).rest.length ≤ bytes.length := by
  rcases bytes with _ | ⟨b₂, bytes⟩ <;> grind [front.two, Front.rest]

theorem length_three_rest_le (b : UInt8) (bytes : Bytes) :
    (front.three b bytes).rest.length ≤ bytes.length := by
  rcases bytes with _ | ⟨b₂, _ | ⟨b₃, bytes⟩⟩ <;> grind [front.three, Front.rest]

theorem length_four_rest_le (b : UInt8) (bytes : Bytes) :
    (front.four b bytes).rest.length ≤ bytes.length := by
  rcases bytes with _ | ⟨b₂, _ | ⟨b₃, _ | ⟨b₄, bytes⟩⟩⟩ <;> grind [front.four, Front.rest]

theorem length_front_rest_lt (b : UInt8) (bytes : Bytes) :
    (front (b :: bytes)).rest.length < (b :: bytes).length := by
  have h₂ := length_two_rest_le b bytes
  have h₃ := length_three_rest_le b bytes
  have h₄ := length_four_rest_le b bytes
  simp only [front, List.length_cons]
  split
  · exact Nat.lt_succ_self _
  · omega
  · omega
  · omega
  · exact Nat.lt_succ_self _

/-- Where and why a byte string is not UTF-8. -/
structure DecodeError where
  /-- The length of the longest prefix that is UTF-8. -/
  validUpTo : Nat
  /-- The length of the malformed sequence, or `none` if the byte string ends inside a character. -/
  malformed : Option Nat
  deriving DecidableEq, Repr

def DecodeError.message (e : DecodeError) : String :=
  match e.malformed with
  | some length =>
      "invalid utf-8 sequence of " ++ decimal length ++ " bytes from index " ++ decimal e.validUpTo
  | none => "incomplete utf-8 byte sequence from index " ++ decimal e.validUpTo

/-- The characters that a byte string encodes, all of it or not at all. -/
def decodeFrom (position : Nat) (bytes : Bytes) : Except DecodeError (List Char) :=
  match bytes with
  | [] => .ok []
  | b :: tail =>
      match h : front (b :: tail) with
      | .done => .ok []
      | .char c rest =>
          have : rest.length ≤ tail.length := by
            simpa [h, Front.rest] using Nat.le_of_lt_succ (length_front_rest_lt b tail)
          (decodeFrom (position + ((b :: tail).length - rest.length)) rest).map (c :: ·)
      | .malformed length _ => .error ⟨position, some length⟩
      | .truncated => .error ⟨position, none⟩
termination_by bytes.length

/-- The text that a byte string encodes. -/
def decode (bytes : Bytes) : Except DecodeError String :=
  (decodeFrom 0 bytes).map String.ofList

/-- The characters of a byte string, with U+FFFD for each malformed sequence. -/
def decodeLossyList (bytes : Bytes) : List Char :=
  match bytes with
  | [] => []
  | b :: tail =>
      match h : front (b :: tail) with
      | .done => []
      | .char c rest =>
          have : rest.length ≤ tail.length := by
            simpa [h, Front.rest] using Nat.le_of_lt_succ (length_front_rest_lt b tail)
          c :: decodeLossyList rest
      | .malformed _ rest =>
          have : rest.length ≤ tail.length := by
            simpa [h, Front.rest] using Nat.le_of_lt_succ (length_front_rest_lt b tail)
          '\ufffd' :: decodeLossyList rest
      | .truncated => ['\ufffd']
termination_by bytes.length

/-- The text of a byte string, with U+FFFD for each malformed sequence. -/
def decodeLossy (bytes : Bytes) : String :=
  String.ofList (decodeLossyList bytes)

def encode (s : String) : Bytes :=
  s.toList.flatMap String.utf8EncodeChar

/-- The text before the first NUL of a buffer. -/
def decodeUpToNul (buffer : Bytes) : Except DecodeError String :=
  decode buffer.upToNul

end BpfBoot.Text.Utf8
