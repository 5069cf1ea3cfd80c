import ScriptFront.CodeSet.DefaultIgnorable
import ScriptFront.CodeSet.GraphemeExtend
import ScriptFront.CodeSet.Unprintable

/-!
# Quoted text

Text that a message shows to a reader stands between quotes, and what could be misread in it is
escaped (`Quoted.escape`): the quote itself, the backslash, and every character that has no printed
form of its own. A string stands between double quotes and a single character between single ones;
the other quote needs no escape.
-/

namespace ScriptFront.Quoted

/-- The voiced and semi-voiced sound marks of halfwidth katakana. They belong to the letter before
them, but each is a letter with a width of its own. -/
def isHalfwidthSoundMark (c : Char) : Bool :=
  c == '\uFF9E' || c == '\uFF9F'

/-- Whether a character joins the one before it and has no width of its own. -/
def isJoining (c : Char) : Bool :=
  CodeSet.graphemeExtend.contains c && !isHalfwidthSoundMark c

/-- Whether a character shows nothing, or nothing by itself: it cannot be printed, is ignored in
display, or joins the character before it. -/
def isHidden (c : Char) : Bool :=
  CodeSet.unprintable.contains c || CodeSet.defaultIgnorable.contains c || isJoining c

/-- What stands for `c` in a text between two `quote` characters: a backslash and one character for
the common controls, the backslash and the quote; the code point in lower-case hexadecimal for any
other character that does not show; else the character. -/
def escape (quote c : Char) : List Char :=
  if c = '\x00' then ['\\', '0']
  else if c = '\t' then ['\\', 't']
  else if c = '\n' then ['\\', 'n']
  else if c = '\r' then ['\\', 'r']
  else if c = '\\' ∨ c = quote then ['\\', c]
  else if isHidden c then ['\\', 'u', '{'] ++ Nat.toDigits 16 c.toNat ++ ['}']
  else [c]

/-- A text between two `quote` characters. -/
def between (quote : Char) (text : List Char) : String :=
  String.ofList ([quote] ++ text.flatMap (escape quote) ++ [quote])

/-- A string in double quotes. -/
def ofString (s : String) : String :=
  between '"' s.toList

/-- A character in single quotes. -/
def ofChar (c : Char) : String :=
  between '\'' [c]

end ScriptFront.Quoted
