/-
# Quoted texts

The quoted form of a text: single quotes around it, or double quotes if it
holds single quotes and no double ones. The quote in use and the backslash
are written after a backslash, line feeds, carriage returns and tabs by their
letters, and other characters without a printed form by their code point.

Key definitions: `hex`, `quote`.
-/
import ChainedSdk.Text.Basic
import ChainedSdk.Text.PrintableTable

namespace ChainedSdk
namespace Text

/-- The digit of a value below 36, letters small. -/
def digit (n : Nat) : Char :=
  if n < 10 then Char.ofNat (48 + n) else Char.ofNat (87 + n)

/-- The last `width` digits of `n` in base 16. -/
def hex : Nat → Nat → List Char
  | 0, _ => []
  | width + 1, n => hex width (n / 16) ++ [digit (n % 16)]

/-- The character has a printed form. -/
def isPrintable (c : Char) : Bool :=
  if c.toNat < 127 then 32 ≤ c.toNat else !inRanges unprintables c

/-- A character within quotes. -/
def quoteChar (mark c : Char) : List Char :=
  if c = mark || c = '\\' then ['\\', c]
  else if c = '\n' then ['\\', 'n']
  else if c = '\r' then ['\\', 'r']
  else if c = '\t' then ['\\', 't']
  else if isPrintable c then [c]
  else if c.toNat < 256 then '\\' :: 'x' :: hex 2 c.toNat
  else if c.toNat < 65536 then '\\' :: 'u' :: hex 4 c.toNat
  else '\\' :: 'U' :: hex 8 c.toNat

/-- The quote that goes around a text. -/
def quoteMark (cs : List Char) : Char :=
  if cs.contains '\'' && !cs.contains '"' then '"' else '\''

/-- The quoted form of a text. -/
def quote (s : String) : String :=
  let mark := quoteMark s.toList
  String.ofList (mark :: s.toList.flatMap (quoteChar mark) ++ [mark])

/-- The quoted form of a text with every character outside ASCII escaped. -/
def quoteAscii (s : String) : String :=
  String.ofList ((quote s).toList.flatMap fun c =>
    if c.toNat < 128 then [c]
    else if c.toNat < 256 then '\\' :: 'x' :: hex 2 c.toNat
    else if c.toNat < 65536 then '\\' :: 'u' :: hex 4 c.toNat
    else '\\' :: 'U' :: hex 8 c.toNat)

end Text
end ChainedSdk
