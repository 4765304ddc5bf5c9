/-
# Characters by their names

A character can be told by its name. Most names are in a table; the rest are
made of a code point in base 16, or, for Hangul, of the sounds of a syllable.
The case of letters does not matter, except in the names of unified ideographs
and of syllables.

Key definitions: `isCharacterName`.
-/
import ChainedSdk.Json.Reader
import ChainedSdk.Text.CharacterNameTable

namespace ChainedSdk
namespace Text

namespace CharacterName

/-! ### Names in the table -/

/-- A character of a word of a name. -/
def isWordChar (c : Char) : Bool :=
  c.isUpper || c.isDigit || c = '-'

/-- What follows a part of the tree that is in parentheses. -/
def afterBranch (depth : Nat) : List Char → List Char
  | [] => []
  | c :: rest =>
    if c = '(' then afterBranch (depth + 1) rest
    else if c = ')' then if depth ≤ 1 then rest else afterBranch (depth - 1) rest
    else afterBranch depth rest

/-- The words are a way through the tree to the end of a name; `fuel` bounds
the number of words looked at. -/
def inTree : Nat → List (List Char) → List Char → Bool
  | 0, _, _ => false
  | _, [], _ => false
  | fuel + 1, word :: more, tree =>
    let found := tree.takeWhile isWordChar
    let (ends, rest) : Bool × List Char :=
      match tree.dropWhile isWordChar with
      | '.' :: rest => (true, rest)
      | rest => (rest.head? ≠ some '(', rest)
    if found = word then
      match more, rest with
      | [], _ => ends
      | _, '(' :: branch => inTree fuel more branch
      | _, _ => false
    else
      match if rest.head? = some '(' then afterBranch 0 rest else rest with
      | ' ' :: next => inTree fuel (word :: more) next
      | '\n' :: next => inTree fuel (word :: more) next
      | _ => false

/-! ### Names made of a code point -/

/-- The number in base 16 that digits and capital letters stand for. -/
def codePoint? (cs : List Char) : Option Nat :=
  if cs.any Char.isLower then none
  else (cs.mapM Json.hexDigit?).map fun ds => ds.foldl (fun n d => 16 * n + d) 0

/-- A code point as it is written in a name. -/
def written (n : Nat) : List Char :=
  let digits := (Nat.toDigits 16 n).map Char.toUpper
  List.replicate (4 - digits.length) '0' ++ digits

/-- The unified ideographs. -/
def unifiedIdeographs : List (Nat × Nat) :=
  [(13312, 19903), (19968, 40959), (131072, 173791), (173824, 177976), (177984, 178205),
    (178208, 183969), (183984, 191456), (196608, 201546)]

/-- The other characters with a name made of a code point, by what stands
before it. -/
def numbered : List (String × List (Nat × Nat)) :=
  [ ("CJK COMPATIBILITY IDEOGRAPH-", [(63744, 64109), (64112, 64217), (194560, 195101)]),
    ("KHITAN SMALL SCRIPT CHARACTER-", [(101120, 101589)]),
    ("NUSHU CHARACTER-", [(110960, 111355)]) ]

/-- The number is in one of the inclusive ranges. -/
def within (ranges : List (Nat × Nat)) (n : Nat) : Bool :=
  ranges.any fun r => r.1 ≤ n && n ≤ r.2

/-- What follows `start` in a text. -/
def after? (start : String) (cs : List Char) : Option (List Char) :=
  if start.toList.isPrefixOf cs then some (cs.drop start.toList.length) else none

/-- The code point of a unified ideograph, in four or five digits. -/
def isUnified (cs : List Char) : Bool :=
  (cs.length = 4 || cs.length = 5) && ((codePoint? cs).map (within unifiedIdeographs)).getD false

/-- A name made of a code point, other than that of a unified ideograph. -/
def isNumbered (cs : List Char) : Bool :=
  numbered.any fun family =>
    match after? family.1 cs with
    | some digits =>
      match codePoint? digits with
      | some n => digits = written n && within family.2 n
      | none => false
    | none => false

/-! ### Syllables -/

/-- The sounds a syllable may start with. -/
def leads : List String :=
  ["G", "GG", "N", "D", "DD", "R", "M", "B", "BB", "S", "SS", "", "J", "JJ", "C", "K", "T", "P",
    "H"]

/-- The vowels of syllables. -/
def vowels : List String :=
  ["A", "AE", "YA", "YAE", "EO", "E", "YEO", "YE", "O", "WA", "WAE", "OE", "YO", "U", "WEO", "WE",
    "WI", "YU", "EU", "YI", "I"]

/-- The sounds a syllable may end with. -/
def tails : List String :=
  ["", "G", "GG", "GS", "N", "NJ", "NH", "D", "L", "LG", "LM", "LB", "LS", "LT", "LP", "LH", "M",
    "B", "BS", "S", "SS", "NG", "J", "C", "K", "T", "P", "H"]

/-- The sounds of a syllable. -/
def isSyllable (cs : List Char) : Bool :=
  leads.any fun lead =>
    match after? lead cs with
    | some rest =>
      vowels.any fun vowel =>
        match after? vowel rest with
        | some rest => tails.any fun tail => tail.toList = rest
        | none => false
    | none => false

end CharacterName

open CharacterName

/-- The text is the name of a character. -/
def isCharacterName (cs : List Char) : Bool :=
  match after? "HANGUL SYLLABLE " cs with
  | some sounds => isSyllable sounds
  | none =>
    match after? "CJK UNIFIED IDEOGRAPH-" cs with
    | some digits => isUnified digits
    | none =>
      let name := cs.map Char.toUpper
      let tree := nameTree.toList
      isNumbered name || inTree (tree.length + 1) (splitAt ' ' name) tree

end Text
end ChainedSdk
