import LaneMatrix.Text.Ranges

/-!
# Quoted text

A quoted text stands between double quotes. Quotes and backslashes are escaped, the usual controls
have a short escape, and every other character that cannot be shown is written by its number.
-/

namespace LaneMatrix.Quoted

def controls : Ranges := [(0x0, 0x1f), (0x7f, 0x9f)]

/-- Blanks and line ends, the space excepted. -/
def blanks : Ranges :=
  [(0xa0, 0xa0), (0x1680, 0x1680), (0x2000, 0x200a), (0x2028, 0x2029), (0x202f, 0x202f),
   (0x205f, 0x205f), (0x3000, 0x3000)]

/-- Characters that only direct how their neighbours are set: joiners, marks of direction, tags. -/
def formats : Ranges :=
  [(0xad, 0xad), (0x600, 0x605), (0x61c, 0x61c), (0x6dd, 0x6dd), (0x70f, 0x70f), (0x890, 0x891),
   (0x8e2, 0x8e2), (0x180e, 0x180e), (0x200b, 0x200f), (0x202a, 0x202e), (0x2060, 0x2064),
   (0x2066, 0x206f), (0xfeff, 0xfeff), (0xfff9, 0xfffb), (0x110bd, 0x110bd), (0x110cd, 0x110cd),
   (0x13430, 0x1343f), (0x1bca0, 0x1bca3), (0x1d173, 0x1d17a), (0xe0001, 0xe0001),
   (0xe0020, 0xe007f)]

/-- Letters without a shape, which keep the place of a missing letter. -/
def fillers : Ranges := [(0x115f, 0x1160), (0x3164, 0x3164), (0xffa0, 0xffa0)]

def privateUse : Ranges := [(0xe000, 0xf8ff), (0xf0000, 0xffffd), (0x100000, 0x10fffd)]

/-- The classes of characters that are never shown as they are. -/
def hidden : List Ranges :=
  [controls, blanks, formats, fillers, privateUse, extendingMarks, unassigned]

def isShown (c : Char) : Bool := !hidden.any fun ranges => ranges.covers c

def escape (c : Char) : List Char :=
  if c = '"' then ['\\', '"']
  else if c = '\\' then ['\\', '\\']
  else if c = '\t' then ['\\', 't']
  else if c = '\n' then ['\\', 'n']
  else if c = '\r' then ['\\', 'r']
  else if c = '\x00' then ['\\', '0']
  else if isShown c then [c]
  else ['\\', 'u', '\x7b'] ++ Nat.toDigits 16 c.toNat ++ ['\x7d']

def encode (text : List Char) : List Char :=
  '"' :: text.flatMap escape ++ ['"']

def quote (text : String) : String :=
  String.ofList (encode text.toList)

example : quote "a\"b\\" = "\"a\\\"b\\\\\"" := by decide +kernel

example : quote "t\tb\n\u00e9" = "\"t\\tb\\n\u00e9\"" := by decide +kernel

/-- A letter and an accent that follows it: the accent is written by its number. -/
example : quote "e\u0301" = "\"e\\u\x7b301\x7d\"" := by decide +kernel

end LaneMatrix.Quoted
