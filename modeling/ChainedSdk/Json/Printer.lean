/-
# Writing JSON

The text of a value without any white space. Characters below the space are
written as escapes, all others as they are.

Key definitions: `Json.render`.
-/
import ChainedSdk.Json.Basic
import ChainedSdk.Number.Shortest
import ChainedSdk.Text.Quoted

namespace ChainedSdk
namespace Json

/-- A character inside a string. -/
def renderChar (c : Char) : List Char :=
  if c = '"' || c = '\\' then ['\\', c]
  else if c.toNat < 32 then '\\' :: 'u' :: Text.hex 4 c.toNat
  else [c]

/-- A string with its quotes. -/
def renderString (s : String) : String :=
  String.ofList ('"' :: s.toList.flatMap renderChar ++ ['"'])

mutual

/-- The text of a value. -/
def render : Json → String
  | .null => "null"
  | .bool b => if b then "true" else "false"
  | .int n => toString n
  | .decimal d =>
    match d.toDouble with
    | .infinite negative => if negative then "-Infinity" else "Infinity"
    | double => double.text
  | .nan => "NaN"
  | .string s => renderString s
  | .array items => "[" ++ renderItems items ++ "]"
  | .object fields => "\x7b" ++ renderFields fields ++ "\x7d"

/-- The items of an array, with commas between them. -/
def renderItems : List Json → String
  | [] => ""
  | [x] => render x
  | x :: xs => render x ++ "," ++ renderItems xs

/-- The fields of an object, with commas between them. -/
def renderFields : List (String × Json) → String
  | [] => ""
  | [(k, x)] => renderString k ++ ":" ++ render x
  | (k, x) :: rest => renderString k ++ ":" ++ render x ++ "," ++ renderFields rest

end

end Json
end ChainedSdk
