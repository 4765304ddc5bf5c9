/-
# Snake case

`camelCase` and `PascalCase` names become `snake_case` in two passes over the
characters: the first cuts before a capital letter that starts a word
(`HTTPStatus` becomes `HTTP_Status`), the second between a small letter or
digit and a capital letter (`getHTTP` becomes `get_HTTP`). The result is in
lower case. Only the letters and digits of ASCII cut words.

Key definitions: `cutWords`, `cutHumps`, `snakeCase`.
-/
import ChainedSdk.Text.Case

namespace ChainedSdk
namespace Text

/-- First pass: a low line goes before a capital letter that is followed by a
small one and has a character other than a line feed before it. The small
letters that follow belong to the word (`inWord`) and do not stand before
another cut themselves. -/
def cutWords (inWord : Bool) : List Char → List Char
  | [] => []
  | [c] => [c]
  | [c, d] => [c, d]
  | c :: u :: l :: rest =>
    if inWord && c.isLower then c :: cutWords true (u :: l :: rest)
    else if c ≠ '\n' && u.isUpper && l.isLower then
      c :: '_' :: u :: cutWords true (l :: rest)
    else c :: cutWords false (u :: l :: rest)

/-- Second pass: a low line goes between a small letter or digit and a capital
letter. -/
def cutHumps : List Char → List Char
  | [] => []
  | [c] => [c]
  | c :: u :: rest =>
    if (c.isLower || c.isDigit) && u.isUpper then c :: '_' :: cutHumps (u :: rest)
    else c :: cutHumps (u :: rest)

/-- The name in snake case. -/
def snakeCase (s : String) : String :=
  String.ofList (lowerAfter [] (cutHumps (cutWords false s.toList)))

end Text
end ChainedSdk
