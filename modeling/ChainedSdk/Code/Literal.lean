/-
# Constants in generated code

The text of a constant: the words for nothing and the truth values, numbers
as they are, texts in their quoted form, lists in brackets and dictionaries
in braces.

Key definitions: `Code.literalText`.
-/
import ChainedSdk.Json.Basic
import ChainedSdk.Number.Shortest
import ChainedSdk.Text.Quoted

namespace ChainedSdk
namespace Code

mutual

/-- The text of a constant. -/
def literalText : Json → String
  | .null => "None"
  | .bool b => if b then "True" else "False"
  | .int n => toString n
  | .decimal d => d.toDouble.text
  | .nan => "nan"
  | .string s => Text.quote s
  | .array items => "[" ++ Text.joinWith ", " (literalItems items) ++ "]"
  | .object fields => "\x7b" ++ Text.joinWith ", " (literalFields fields) ++ "\x7d"

/-- The texts of constants. -/
def literalItems : List Json → List String
  | [] => []
  | x :: xs => literalText x :: literalItems xs

/-- The texts of dictionary entries. -/
def literalFields : List (String × Json) → List String
  | [] => []
  | (k, x) :: rest => (Text.quote k ++ ": " ++ literalText x) :: literalFields rest

end

end Code
end ChainedSdk
