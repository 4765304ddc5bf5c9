/-
# Upper and lower case

The full case mappings: a letter may become several (`ß` in upper case is
`SS`), and a capital sigma at the end of a word becomes the final one. Texts
in ASCII are mapped letter by letter, `Char.toLower` and `Char.toUpper`.

Key definitions: `lower`, `lowerFirst`, `upperFirst`.
-/
import ChainedSdk.Text.Basic
import ChainedSdk.Text.CaseTable

namespace ChainedSdk
namespace Text

/-- The image of `c` in a table of runs, `c` itself if no run covers it. -/
def shiftCase (runs : List CaseRun) (c : Char) : Char :=
  match runs.find? (·.covers c.toNat) with
  | some r => Char.ofNat (c.toNat + r.shift).toNat
  | none => c

/-- The lower case of a letter that is not a capital sigma. -/
def lowerLetter (c : Char) : List Char :=
  if c.toNat < 128 then [c.toLower]
  else if c.toNat = 304 then ['i', Char.ofNat 775]
  else [shiftCase lowerRuns c]

/-- The upper case of a letter. -/
def upperLetter (c : Char) : List Char :=
  if c.toNat < 128 then [c.toUpper]
  else
    match upperExpansions.lookup c.toNat with
    | some points => points.map Char.ofNat
    | none => [shiftCase upperRuns c]

/-- The first character that is not looked through is a letter with a case. -/
def meetsCased (cs : List Char) : Bool :=
  match cs.dropWhile (inRanges caseIgnorables) with
  | [] => false
  | c :: _ => inRanges casedLetters c

/-- Lower case of a text that follows the characters `seen`, last one first.
A capital sigma is final if a letter comes before it and none after it. -/
def lowerAfter (seen : List Char) : List Char → List Char
  | [] => []
  | c :: rest =>
    (if c.toNat = 931 then
      [Char.ofNat (if meetsCased seen && !meetsCased rest then 962 else 963)]
    else lowerLetter c) ++ lowerAfter (c :: seen) rest

/-- The text in lower case. -/
def lower (s : String) : String :=
  String.ofList (lowerAfter [] s.toList)

/-- The text with its first character in lower case. -/
def lowerFirst (s : String) : String :=
  match s.toList with
  | [] => ""
  | c :: rest => String.ofList (lowerAfter [] [c] ++ rest)

/-- The text with its first character in upper case. -/
def upperFirst (s : String) : String :=
  match s.toList with
  | [] => ""
  | c :: rest => String.ofList (upperLetter c ++ rest)

end Text
end ChainedSdk
