/-
# Quoted texts in code

A text stands between quotes, on one line or between three quotes on several.
Unless it is raw, its escapes stand for characters. In a formatted text, an
expression stands in braces, with a conversion and a layout behind it that may
hold expressions in turn; braces written twice stand for themselves.

Key definitions: `Code.Quotation`, `Code.Quotation.end?`,
`Code.Quotation.escapesOk`, `Code.Quotation.fields?`.
-/
import ChainedSdk.Text.CharacterName

namespace ChainedSdk
namespace Code

/-- What the letters before a text say about it. -/
structure Quotation where
  raw : Bool
  bytes : Bool
  formatted : Bool
deriving DecidableEq, Repr

namespace Quotation

/-- A text without letters before it. -/
def plain : Quotation := ⟨false, false, false⟩

/-- The letters that may stand before a text. -/
def letters : List String :=
  ["r", "u", "b", "br", "rb", "f", "fr", "rf"]

/-- The kind of text that letters stand for; their case does not matter. -/
def ofLetters? (cs : List Char) : Option Quotation :=
  let lowered := cs.map Char.toLower
  if letters.contains (String.ofList lowered) then
    some ⟨lowered.contains 'r', lowered.contains 'b', lowered.contains 'f'⟩
  else none

/-! ### Where a text ends -/

/-- What stands between quotes, and what follows the closing ones; the text
starts after the opening ones. `escaped` tells that a backslash was read last,
`seen` is what was read, last character first. -/
def bodyEnd? (triple : Bool) (mark : Char) (escaped : Bool) (seen : List Char) :
    List Char → Option (List Char × List Char)
  | [] => none
  | c :: rest =>
    if escaped then bodyEnd? triple mark false (c :: seen) rest
    else if c = '\\' then bodyEnd? triple mark true (c :: seen) rest
    else if c = mark && !triple then some (seen.reverse, rest)
    else if c = mark && [mark, mark].isPrefixOf rest then some (seen.reverse, rest.drop 2)
    else if c = '\n' && !triple then none
    else bodyEnd? triple mark false (c :: seen) rest

/-- What stands between the quotes a text starts with, and what follows. -/
def end? (cs : List Char) : Option (List Char × List Char) :=
  match cs with
  | q :: rest =>
    if [q, q].isPrefixOf rest then bodyEnd? true q false [] (rest.drop 2)
    else bodyEnd? false q false [] rest
  | [] => none

/-! ### Escapes -/

/-- The number of digits in base 16 that an escape has. -/
def escapeDigits (bytes : Bool) : Char → Nat
  | 'x' => 2
  | 'u' => if bytes then 0 else 4
  | 'U' => if bytes then 0 else 8
  | _ => 0

/-- The text starts with the name of a character in braces. -/
def startsWithName : List Char → Bool
  | '\x7b' :: rest =>
    rest.contains '\x7d' && Text.isCharacterName (rest.takeWhile (· ≠ '\x7d'))
  | _ => false

/-- The escape that starts with `c`, before `rest`, stands for something. -/
def escapeOk (bytes : Bool) (c : Char) (rest : List Char) : Bool :=
  if c = 'N' && !bytes then startsWithName rest
  else
    let count := escapeDigits bytes c
    match (rest.take count).mapM Json.hexDigit? with
    | some ds => ds.length = count && ds.foldl (fun n d => 16 * n + d) 0 ≤ 0x10FFFF
    | none => false

/-- All escapes of a text stand for something. -/
def escapesOk (bytes : Bool) : List Char → Bool
  | '\\' :: c :: rest => escapeOk bytes c rest && escapesOk bytes rest
  | _ :: rest => escapesOk bytes rest
  | [] => true

/-! ### Formatted texts -/

/-- How a piece of a formatted text that is no expression ends: with the text,
with a doubled brace, of which one belongs to it, or before a brace. -/
inductive PieceEnd where
  | ended
  | doubled (rest : List Char)
  | brace (rest : List Char)

/-- A piece of a formatted text up to an expression, and how it ends. Inside of
a layout braces are not doubled. -/
def piece? (raw layout : Bool) : Nat → List Char → List Char → Option (List Char × PieceEnd)
  | 0, _, _ => none
  | _, seen, [] => some (seen.reverse, .ended)
  | fuel + 1, seen, c :: rest =>
    let atBrace (seen : List Char) (brace : Char) (rest : List Char) :=
      if !layout && rest.head? = some brace then
        some ((brace :: seen).reverse, PieceEnd.doubled (rest.drop 1))
      else if !layout && brace = '\x7d' then none
      else some (seen.reverse, .brace (brace :: rest))
    if c = '\\' && !raw then
      match rest with
      | 'N' :: '\x7b' :: more =>
        let name := more.takeWhile (· ≠ '\x7d')
        let closed := more.take (name.length + 1)
        piece? raw layout fuel (closed.reverse ++ '\x7b' :: 'N' :: c :: seen)
          (more.drop closed.length)
      | d :: more =>
        if d = '\x7b' || d = '\x7d' then atBrace (c :: seen) d more
        else piece? raw layout fuel (d :: c :: seen) more
      | [] => some ((c :: seen).reverse, .ended)
    else if c = '\x7b' || c = '\x7d' then atBrace seen c rest
    else piece? raw layout fuel (c :: seen) rest

/-- A bracket that closes another one. -/
def closes (opening closing : Char) : Bool :=
  (opening = '(' && closing = ')') || (opening = '[' && closing = ']')
    || (opening = '\x7b' && closing = '\x7d')

/-- Where reading an expression stands: the quotes it is inside of, and the
brackets open around, the inner one first. -/
structure Inside where
  quote : Option (Char × Bool)
  brackets : List Char

/-- The text of an expression of a formatted text, and the rest, which starts
with the character that ends it. -/
def expression? : Nat → Inside → List Char → List Char → Option (List Char × List Char)
  | 0, _, _, _ => none
  | _, _, _, [] => none
  | fuel + 1, w, seen, c :: rest =>
    if c = '\\' then none
    else
      match w.quote with
      | some (mark, triple) =>
        if c ≠ mark then expression? fuel w (c :: seen) rest
        else if !triple then expression? fuel { w with quote := none } (c :: seen) rest
        else if [c, c].isPrefixOf rest then
          expression? fuel { w with quote := none } (c :: c :: c :: seen) (rest.drop 2)
        else expression? fuel w (c :: seen) rest
      | none =>
        if c = '\'' || c = '"' then
          if [c, c].isPrefixOf rest then
            expression? fuel { w with quote := some (c, true) } (c :: c :: c :: seen) (rest.drop 2)
          else expression? fuel { w with quote := some (c, false) } (c :: seen) rest
        else if c = '(' || c = '[' || c = '\x7b' then
          expression? fuel { w with brackets := c :: w.brackets } (c :: seen) rest
        else if c = '#' then none
        else if w.brackets.isEmpty && ['!', ':', '\x7d', '=', '>', '<'].contains c then
          if rest.head? = some '=' && ['!', '=', '<', '>'].contains c then
            expression? fuel w ('=' :: c :: seen) (rest.drop 1)
          else if c = '>' || c = '<' then expression? fuel w (c :: seen) rest
          else some (seen.reverse, c :: rest)
        else if c = ')' || c = ']' || c = '\x7d' then
          match w.brackets with
          | opening :: outer =>
            if closes opening c then
              expression? fuel { w with brackets := outer } (c :: seen) rest
            else none
          | [] => none
        else expression? fuel w (c :: seen) rest

/-- A character that may stand alone in braces without making an expression. -/
def isBlank (c : Char) : Bool :=
  c = ' ' || c = '\t' || c = '\n' || c.toNat = 12

/-- A blank that may follow the sign that asks for the text of an expression. -/
def isGap (c : Char) : Bool :=
  isBlank c || c.toNat = 11 || c = '\r'

/-- What follows the conversion that may stand behind an expression. -/
def afterConversion? (cs : List Char) : Option (List Char) :=
  match cs with
  | '!' :: c :: rest =>
    if ['s', 'r', 'a'].contains c && (rest.head? = some '\x7d' || rest.head? = some ':') then
      some rest
    else none
  | '!' :: [] => none
  | _ => some cs

/-- The texts of the expressions of a formatted text, and the rest, which is
empty unless the text is a layout. `level` is the number of layouts around. -/
def fields? (raw : Bool) (level : Nat) : Nat → List Char → Option (List (List Char) × List Char)
  | 0, _ => none
  | fuel + 1, cs => do
    let (text, ending) ← piece? raw (level ≠ 0) (cs.length + 1) [] cs
    if !raw && !escapesOk false text then none
    else
      match ending with
      | .ended => if level = 0 then some ([], []) else none
      | .doubled rest => fields? raw level fuel rest
      | .brace ('\x7b' :: rest) =>
        if 2 ≤ level then none
        else
          let (source, rest) ← expression? (rest.length + 1) ⟨none, []⟩ [] rest
          if source.all isBlank then none
          else
            let rest :=
              match rest with
              | '=' :: more => more.dropWhile isGap
              | _ => rest
            let rest ← afterConversion? rest
            let (inner, rest) ←
              match rest with
              | ':' :: layout => fields? raw (level + 1) fuel layout
              | _ => some ([], rest)
            match rest with
            | '\x7d' :: rest =>
              let (others, rest) ← fields? raw level fuel rest
              return (source :: inner ++ others, rest)
            | _ => none
      | .brace rest => some ([], rest)

/-- The texts of the expressions in a text, if the text is well formed. -/
def expressions? (q : Quotation) (body : List Char) : Option (List (List Char)) :=
  if q.bytes && body.any (128 ≤ ·.toNat) then none
  else if q.formatted then (fields? q.raw 0 (body.length + 1) body).map (·.1)
  else if q.raw || escapesOk q.bytes body then some []
  else none

end Quotation
end Code
end ChainedSdk
