/-
# Texts as lists of characters

What the rest of the library asks of texts and the standard library does not
answer in the same words: membership in a table of code points, cutting a
text at a character, and the texts that start or end with another.

Texts are `String`s everywhere; the algorithms run on their characters, so
that a statement about them is a statement about lists.

Key definitions: `inRanges`, `splitAt`, `joinWith`, `sortedSet`.
-/
namespace ChainedSdk
namespace Text

/-- The code point of `c` is in one of the inclusive ranges. -/
def inRanges (table : List (Nat × Nat)) (c : Char) : Bool :=
  table.any fun r => r.1 ≤ c.toNat && c.toNat ≤ r.2

/-- The pieces of a text between the occurrences of `sep`; one more piece than
there are occurrences. -/
def splitAt (sep : Char) : List Char → List (List Char)
  | [] => [[]]
  | c :: rest =>
    if c = sep then [] :: splitAt sep rest
    else
      match splitAt sep rest with
      | [] => [[c]]
      | piece :: pieces => (c :: piece) :: pieces

/-- The pieces of a text between the occurrences of `sep`. -/
def split (sep : Char) (s : String) : List String :=
  (splitAt sep s.toList).map String.ofList

/-- The texts in order with `sep` between neighbours. -/
def joinWith (sep : String) : List String → String
  | [] => ""
  | [s] => s
  | s :: rest => s ++ sep ++ joinWith sep rest

/-- `s` starts with `start`. -/
def startsWith (s start : String) : Bool :=
  start.toList.isPrefixOf s.toList

/-- `s` ends with `ending`. -/
def endsWith (s ending : String) : Bool :=
  ending.toList.isSuffixOf s.toList

/-- Every occurrence of `c` becomes `image`. -/
def replaceChar (c : Char) (image : String) (s : String) : String :=
  String.ofList (s.toList.flatMap fun d => if d = c then image.toList else [d])

/-- The text without the characters at its end that satisfy `p`. -/
def trimEnd (p : Char → Bool) (s : String) : String :=
  String.ofList (s.toList.reverse.dropWhile p).reverse

/-- Carriage returns, alone or before a line feed, become line feeds. -/
def unifyNewlines : List Char → List Char
  | [] => []
  | '\r' :: '\n' :: rest => '\n' :: unifyNewlines rest
  | '\r' :: rest => '\n' :: unifyNewlines rest
  | c :: rest => c :: unifyNewlines rest

/-- The characters that text editors and terminals take for white space, in
Unicode 14. -/
def isBlank (c : Char) : Bool :=
  inRanges
    [(9, 13), (28, 32), (133, 133), (160, 160), (5760, 5760), (8192, 8202), (8232, 8233),
      (8239, 8239), (8287, 8287), (12288, 12288)] c


/-- Insertion into a sorted list; an element equal to the new one is kept and
the new one dropped. -/
def insertSorted (s : String) : List String → List String
  | [] => [s]
  | t :: rest =>
    if s = t then t :: rest
    else if s < t then s :: t :: rest
    else t :: insertSorted s rest

/-- The texts in increasing order, each once. -/
def sortedSet (xs : List String) : List String :=
  xs.foldr insertSorted []

end Text
end ChainedSdk
