/-
# Reading JSON

The grammar of JSON, with the number words `NaN`, `Infinity` and `-Infinity`
besides. A text that holds anything after its value, a character below the
space inside a string, or an escape for half a surrogate pair is refused, and
so is one that goes beyond the limits it is read with.

A key that an object repeats keeps its last value. `readAll?` gives the fields
as they are written, repetitions and all.

Key definitions: `Json.Limits`, `Json.readAll?`, `Json.parse?`.
-/
import ChainedSdk.Json.Basic
import ChainedSdk.Text.Basic

namespace ChainedSdk
namespace Json

/-- What a reader takes at most: arrays and objects with content nested in one
another, and characters of a number before its point or exponent. -/
structure Limits where
  depth? : Option Nat := none
  wholePart? : Option Nat := none
deriving DecidableEq, Repr

/-- The number does not go beyond a limit, if there is one. -/
def within (n : Nat) (limit? : Option Nat) : Bool :=
  match limit? with
  | some limit => n ≤ limit
  | none => true

/-- The text without the white space it starts with. -/
def skipSpace (cs : List Char) : List Char :=
  cs.dropWhile fun c => c = ' ' || c = '\n' || c = '\r' || c = '\t'

/-- The value of a digit in base 16. -/
def hexDigit? (c : Char) : Option Nat :=
  if c.isDigit then some (c.toNat - 48)
  else if 'a' ≤ c && c ≤ 'f' then some (c.toNat - 87)
  else if 'A' ≤ c && c ≤ 'F' then some (c.toNat - 55)
  else none

/-- A code unit of four digits in base 16, and what follows it. -/
def codeUnit? : List Char → Option (Nat × List Char)
  | a :: b :: c :: d :: rest => do
    let units ← [a, b, c, d].mapM hexDigit?
    return (units.foldl (fun n u => 16 * n + u) 0, rest)
  | _ => none

/-- The character of an escape, and what follows it; the text starts after the
backslash. -/
def escape? : List Char → Option (Char × List Char)
  | '"' :: rest => some ('"', rest)
  | '\\' :: rest => some ('\\', rest)
  | '/' :: rest => some ('/', rest)
  | 'b' :: rest => some (Char.ofNat 8, rest)
  | 'f' :: rest => some (Char.ofNat 12, rest)
  | 'n' :: rest => some ('\n', rest)
  | 'r' :: rest => some ('\r', rest)
  | 't' :: rest => some ('\t', rest)
  | 'u' :: rest => do
    let (high, rest) ← codeUnit? rest
    if 0xDC00 ≤ high && high < 0xE000 then none
    else if 0xD800 ≤ high && high < 0xDC00 then
      match rest with
      | '\\' :: 'u' :: rest =>
        let (low, rest) ← codeUnit? rest
        if 0xDC00 ≤ low && low < 0xE000 then
          some (Char.ofNat ((high - 0xD800) * 1024 + (low - 0xDC00) + 0x10000), rest)
        else none
      | _ => none
    else some (Char.ofNat high, rest)
  | _ => none

/-- The rest of a string whose opening quote is read; `fuel` bounds the number
of its characters. -/
def stringBody? : Nat → List Char → Option (List Char × List Char)
  | 0, _ => none
  | _, [] => none
  | fuel + 1, c :: rest =>
    if c = '"' then some ([], rest)
    else if c = '\\' then do
      let (d, rest) ← escape? rest
      let (ds, rest) ← stringBody? fuel rest
      return (d :: ds, rest)
    else if c.toNat < 32 then none
    else do
      let (ds, rest) ← stringBody? fuel rest
      return (c :: ds, rest)

/-- The number that digits of base 10 stand for. -/
def ofDigits (cs : List Char) : Nat :=
  cs.foldl (fun n c => 10 * n + (c.toNat - 48)) 0

/-- A number after its sign, and what follows it. -/
def unsigned? (limits : Limits) (negative : Bool) (cs : List Char) :
    Option (Json × List Char) := do
  let whole := cs.takeWhile Char.isDigit
  let rest := cs.dropWhile Char.isDigit
  if whole.isEmpty || (whole.head? = some '0' && 1 < whole.length) then none
  let width := if negative then whole.length + 1 else whole.length
  if !within width limits.wholePart? then none
  let (fraction, rest, pointed) ←
    match rest with
    | '.' :: rest =>
      let digits := rest.takeWhile Char.isDigit
      if digits.isEmpty then none else some (digits, rest.dropWhile Char.isDigit, true)
    | _ => some ([], rest, false)
  let (exponent, rest, raised) ←
    match rest with
    | c :: rest' =>
      if c = 'e' || c = 'E' then
        let signed : Int × List Char :=
          match rest' with
          | '-' :: r => (-1, r)
          | '+' :: r => (1, r)
          | r => (1, r)
        let digits := signed.2.takeWhile Char.isDigit
        if digits.isEmpty then none
        else some (signed.1 * (ofDigits digits : Int), signed.2.dropWhile Char.isDigit, true)
      else some (0, rest, false)
    | [] => some (0, [], false)
  if pointed || raised then
    return (.decimal ⟨negative, ofDigits (whole ++ fraction), exponent - fraction.length⟩, rest)
  else
    return (.int (if negative then -(ofDigits whole : Int) else ofDigits whole), rest)

/-- A decimal beyond every double. -/
def infinity (negative : Bool) : Json :=
  .decimal ⟨negative, 1, 400⟩

/-- A value other than a string, an array or an object, and what follows it. -/
def scalar? (limits : Limits) (cs : List Char) : Option (Json × List Char) :=
  match cs with
  | 'n' :: 'u' :: 'l' :: 'l' :: rest => some (.null, rest)
  | 't' :: 'r' :: 'u' :: 'e' :: rest => some (.bool true, rest)
  | 'f' :: 'a' :: 'l' :: 's' :: 'e' :: rest => some (.bool false, rest)
  | 'N' :: 'a' :: 'N' :: rest => some (.nan, rest)
  | 'I' :: 'n' :: 'f' :: 'i' :: 'n' :: 'i' :: 't' :: 'y' :: rest => some (infinity false, rest)
  | '-' :: 'I' :: 'n' :: 'f' :: 'i' :: 'n' :: 'i' :: 't' :: 'y' :: rest =>
    some (infinity true, rest)
  | '-' :: rest => unsigned? limits true rest
  | cs => unsigned? limits false cs

mutual

/-- A value, white space before it skipped, and what follows it. `depth` is the
number of arrays and objects around it; `fuel` bounds the number of steps. -/
def value? (limits : Limits) (depth : Nat) : Nat → List Char → Option (Json × List Char)
  | 0, _ => none
  | fuel + 1, cs =>
    match skipSpace cs with
    | '"' :: rest => do
      let (s, rest) ← stringBody? (rest.length + 1) rest
      return (.string (String.ofList s), rest)
    | '[' :: rest =>
      match skipSpace rest with
      | ']' :: rest => some (.array [], rest)
      | rest =>
        if within (depth + 1) limits.depth? then do
          let (items, rest) ← items? limits (depth + 1) fuel rest
          return (.array items, rest)
        else none
    | '\x7b' :: rest =>
      match skipSpace rest with
      | '\x7d' :: rest => some (.object [], rest)
      | rest =>
        if within (depth + 1) limits.depth? then do
          let (fields, rest) ← fields? limits (depth + 1) fuel rest
          return (.object fields, rest)
        else none
    | rest => scalar? limits rest

/-- The items of an array up to its closing bracket, at least one. -/
def items? (limits : Limits) (depth : Nat) : Nat → List Char → Option (List Json × List Char)
  | 0, _ => none
  | fuel + 1, cs => do
    let (item, rest) ← value? limits depth fuel cs
    match skipSpace rest with
    | ',' :: rest =>
      let (items, rest) ← items? limits depth fuel rest
      return (item :: items, rest)
    | ']' :: rest => return ([item], rest)
    | _ => none

/-- The fields of an object up to its closing brace, at least one. -/
def fields? (limits : Limits) (depth : Nat) :
    Nat → List Char → Option (List (String × Json) × List Char)
  | 0, _ => none
  | fuel + 1, cs =>
    match skipSpace cs with
    | '"' :: rest => do
      let (key, rest) ← stringBody? (rest.length + 1) rest
      match skipSpace rest with
      | ':' :: rest =>
        let (value, rest) ← value? limits depth fuel rest
        match skipSpace rest with
        | ',' :: rest =>
          let (fields, rest) ← fields? limits depth fuel rest
          return ((String.ofList key, value) :: fields, rest)
        | '\x7d' :: rest => return ([(String.ofList key, value)], rest)
        | _ => none
      | _ => none
    | _ => none

end

mutual

/-- The value in which no object repeats a key. -/
def distinct : Json → Json
  | .array items => .array (distinctItems items)
  | .object fields => .object (Assoc.ofList (distinctFields fields))
  | j => j

/-- The items, in which no object repeats a key. -/
def distinctItems : List Json → List Json
  | [] => []
  | x :: xs => distinct x :: distinctItems xs

/-- The fields, in whose values no object repeats a key. -/
def distinctFields : List (String × Json) → List (String × Json)
  | [] => []
  | (key, x) :: xs => (key, distinct x) :: distinctFields xs

end

/-- The value a text holds, if it is the text of one value, with all fields of
its objects as they are written. -/
def readAll? (limits : Limits) (s : String) : Option Json :=
  let cs := s.toList
  match value? limits 0 (2 * cs.length + 2) cs with
  | some (value, rest) => if (skipSpace rest).isEmpty then some value else none
  | none => none

/-- The value a text holds, if it is the text of one value. -/
def parse? (s : String) : Option Json :=
  (readAll? {} s).map distinct

end Json
end ChainedSdk
