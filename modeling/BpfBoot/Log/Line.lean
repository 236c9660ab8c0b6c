import BpfBoot.Log.Channel

/-!
# Log lines

How an event is written on each kind of channel. Control characters that terminals act on are written
out in text lines.
-/

namespace BpfBoot.Log

/-- A text up to a width, with blanks before it. -/
def rightAligned (width : Nat) (s : String) : String :=
  String.ofList (Text.padLeft width ' ' s.toList)

/-- A character as it stands in a text line. -/
def lineChar (c : Char) : List Char :=
  if c.toNat = 0x1b ∨ c.toNat = 0x07 ∨ c.toNat = 0x08 ∨ c.toNat = 0x0c ∨ c.toNat = 0x7f then
    '\\' :: 'x' :: (Text.hex c.toNat 2).toList
  else if 0x80 ≤ c.toNat ∧ c.toNat ≤ 0x9f then
    ['\\', 'u', '\x7b'] ++ (Text.hex c.toNat 1).toList ++ ['\x7d']
  else [c]

/-- A message as it stands in a text line. -/
def lineText (s : String) : String :=
  String.ofList (s.toList.flatMap lineChar)

/-- A character within a JSON string. -/
def jsonChar (c : Char) : List Char :=
  if c == '"' then ['\\', '"']
  else if c == '\\' then ['\\', '\\']
  else if c.toNat = 8 then ['\\', 'b']
  else if c.toNat = 9 then ['\\', 't']
  else if c.toNat = 10 then ['\\', 'n']
  else if c.toNat = 12 then ['\\', 'f']
  else if c.toNat = 13 then ['\\', 'r']
  else if c.toNat < 32 then ['\\', 'u'] ++ (Text.hex c.toNat 4).toList
  else [c]

/-- A JSON string. -/
def jsonText (s : String) : String :=
  String.ofList ('"' :: s.toList.flatMap jsonChar ++ ['"'])

namespace Format

/-- The level as it stands at the start of a line. -/
def levelColumn (e : Event) : String :=
  rightAligned 5 e.level.label

/-- The line that an event makes at a time. -/
def line (f : Format) (time : String) (e : Event) : String :=
  match f with
  | .compact => levelColumn e ++ " " ++ lineText e.message ++ "\n"
  | .full => time ++ " " ++ levelColumn e ++ " " ++ lineText e.message ++ "\n"
  | .pretty =>
      "  " ++ time ++ " " ++ levelColumn e ++ " " ++ e.target ++ ": " ++ lineText e.message ++ "\n\n"
  | .json =>
      "\x7b" ++ "\"timestamp\":" ++ jsonText time ++ ",\"level\":" ++ jsonText e.level.label
        ++ ",\"message\":" ++ jsonText e.message ++ ",\"target\":" ++ jsonText e.target
        ++ "\x7d\n"

end Format

end BpfBoot.Log
