/-
# Block strings

A block string stands for its lines without the indentation they share and
without the blank lines around them. It is written with its quotes on lines of
their own when that reads better: several lines, a long one, or one whose end
would run into the quotes.

Key definitions: `BlockString.dedent`, `BlockString.write`.
-/
import ChainedSdk.Text.Basic

namespace ChainedSdk
namespace GraphQL
namespace BlockString

/-- A character of indentation. -/
def isIndent (c : Char) : Bool :=
  c = ' ' || c = '\t'

/-- The line has nothing but indentation. -/
def isBlankLine (line : List Char) : Bool :=
  line.all isIndent

/-- The indentation shared by the lines that are not blank. -/
def commonIndent (lines : List (List Char)) : Option Nat :=
  lines.foldl
    (fun least line =>
      if isBlankLine line then least
      else
        let width := (line.takeWhile isIndent).length
        match least with
        | none => some width
        | some n => some (min n width))
    none

/-- The lines without the blank ones at both ends. -/
def trimBlank (lines : List (List Char)) : List (List Char) :=
  ((lines.dropWhile isBlankLine).reverse.dropWhile isBlankLine).reverse

/-- The lines a block string stands for. The first line, next to the quotes,
keeps its indentation and does not count for the others. -/
def dedent : List (List Char) → List (List Char)
  | [] => []
  | first :: rest =>
    let width := (commonIndent rest).getD 0
    trimBlank (first :: rest.map (·.drop width))

/-- Three quotes. -/
def quotes : List Char :=
  ['"', '"', '"']

/-- The text with a backslash before each three quotes. -/
def escapeQuotes : List Char → List Char
  | [] => []
  | '"' :: '"' :: '"' :: rest => '\\' :: '"' :: '"' :: '"' :: escapeQuotes rest
  | c :: rest => c :: escapeQuotes rest

/-- A text as a block string. -/
def write (s : String) : String :=
  let value := s.toList
  let escaped := escapeQuotes value
  let lines := Text.splitAt '\n' escaped
  let single := lines.length = 1
  let startsIndented : Bool :=
    match value with
    | c :: _ => isIndent c
    | [] => false
  let indentedAfterFirst := 1 < lines.length && (lines.drop 1).all fun line =>
    match line with
    | c :: _ => isIndent c
    | [] => true
  let endsTripled := ('\\' :: quotes).isSuffixOf escaped
  let needsBreak :=
    (['"'].isSuffixOf value && !endsTripled) || ['\\'].isSuffixOf value
  let spread : Bool :=
    !single || 70 < value.length || needsBreak || indentedAfterFirst || endsTripled
  let opened :=
    if (spread && !(single && startsIndented)) || indentedAfterFirst then ['\n'] else []
  let closed := if spread || needsBreak then ['\n'] else []
  String.ofList (quotes ++ opened ++ escaped ++ closed ++ quotes)

end BlockString
end GraphQL
end ChainedSdk
