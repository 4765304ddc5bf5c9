/-
# Identifiers

A name can stand in generated code if it is an identifier and not one of the
reserved words. A reserved name gets a low line at its end; words that are
reserved in some places only are treated likewise.

Key definitions: `isIdentifier`, `isKeyword`, `isPlainName`, `escapeName`.
-/
import ChainedSdk.Text.Basic
import ChainedSdk.Text.IdentifierTable

namespace ChainedSdk
namespace Text

/-- An identifier may start with `c`. -/
def isIdentifierStart (c : Char) : Bool :=
  c.isAlpha || c = '_' || (128 ≤ c.toNat && inRanges identifierStarts c)

/-- An identifier may go on with `c`. -/
def isIdentifierPart (c : Char) : Bool :=
  isIdentifierStart c || c.isDigit || (128 ≤ c.toNat && inRanges identifierParts c)

/-- The text is an identifier; reserved words count. -/
def isIdentifier (s : String) : Bool :=
  match s.toList with
  | [] => false
  | c :: rest => isIdentifierStart c && rest.all isIdentifierPart

/-- The reserved words. -/
def keywords : List String :=
  ["False", "None", "True", "and", "as", "assert", "async", "await", "break", "class", "continue",
    "def", "del", "elif", "else", "except", "finally", "for", "from", "global", "if", "import",
    "in", "is", "lambda", "nonlocal", "not", "or", "pass", "raise", "return", "try", "while",
    "with", "yield"]

/-- The words that are reserved in some places only. -/
def softKeywords : List String :=
  ["_", "case", "match"]

/-- The text is a reserved word. -/
def isKeyword (s : String) : Bool :=
  keywords.contains s

/-- The text is an identifier and no reserved word. -/
def isPlainName (s : String) : Bool :=
  isIdentifier s && !isKeyword s

/-- The name, with a low line at its end if it is reserved anywhere. -/
def escapeName (s : String) : String :=
  if keywords.contains s || softKeywords.contains s then s ++ "_" else s

end Text
end ChainedSdk
