/-
# The lexemes of a module

What a module is made of before its grammar is looked at: names, numbers,
texts and operators, with the ends of logical lines and the places where the
indentation changes. A text that cannot be cut like this is no module: a text
that is not closed or holds an escape that stands for nothing, a character
that begins no lexeme, a bracket that is not closed, or an indentation that
matches none around it. Brackets and indentations are nested up to a limit.

Key definitions: `Code.Lexeme`, `Code.lexemes?`.
-/
import ChainedSdk.Code.Quotation
import ChainedSdk.Text.Identifier

namespace ChainedSdk
namespace Code

/-- A lexeme. Of numbers and texts only the kind matters, and of a formatted
text what its expressions are. -/
inductive Lexeme where
  | name (s : String)
  | op (s : String)
  | number (imaginary : Bool)
  | text (bytes : Bool) (expressions : List (List Char))
  | newline
  | indent
  | dedent
deriving DecidableEq, Repr

namespace Lexeme

/-! ### Numbers -/

/-- The text after digits with single low lines between them, if it starts
with a digit. -/
def digitRun (ok : Char → Bool) : List Char → Option (List Char)
  | [] => none
  | [c] => if ok c then some [] else none
  | c :: d :: rest =>
    if ¬ ok c then none
    else if d = '_' then digitRun ok rest
    else if ok d then digitRun ok (d :: rest)
    else some (d :: rest)

/-- What follows the exponent a text may start with. -/
def afterExponent (cs : List Char) : Option (List Char) :=
  match cs with
  | c :: rest =>
    if c = 'e' || c = 'E' then
      match rest with
      | s :: more =>
        if s = '+' || s = '-' then digitRun Char.isDigit more
        else some ((digitRun Char.isDigit rest).getD cs)
      | [] => some cs
    else some cs
  | [] => some []

/-- What follows a fraction, an exponent and the mark of an imaginary number,
all of which may be missing, and whether there was such a mark. -/
def afterWhole (cs : List Char) : Option (Bool × List Char) := do
  let rest :=
    match cs with
    | '.' :: more => (digitRun Char.isDigit more).getD more
    | _ => cs
  let rest ← afterExponent rest
  match rest with
  | c :: more => if c = 'j' || c = 'J' then some (true, more) else some (false, rest)
  | [] => some (false, [])

/-- The digits of a base told by its letter. -/
def baseDigits? (c : Char) : Option (Char → Bool) :=
  if c = 'x' || c = 'X' then some fun d => (Json.hexDigit? d).isSome
  else if c = 'o' || c = 'O' then some fun d => '0' ≤ d && d ≤ '7'
  else if c = 'b' || c = 'B' then some fun d => d = '0' || d = '1'
  else none

/-- The words that may follow a number without a blank between. -/
def wordsAfterNumber : List String :=
  ["and", "else", "for", "if", "in", "is", "not", "or"]

/-- The number of digits up to which a whole number in base 10 can be read. -/
def wholeDigitLimit : Nat := 4300

/-- The digits a text starts with, without the underscores between them. -/
def wholeDigits (cs : List Char) : List Char :=
  (cs.takeWhile fun d => d.isDigit || d = '_').filter (· ≠ '_')

/-- What follows a number, and whether the number is imaginary. A number does
not run into a name, and a whole number other than zero does not start with a
zero. -/
def number? (cs : List Char) : Option (Bool × List Char) := do
  let (imaginary, rest) ←
    match cs with
    | '0' :: c :: more =>
      match baseDigits? c with
      | some ok =>
        (digitRun ok (if more.head? = some '_' then more.drop 1 else more)).map (false, ·)
      | none => do
        let whole ← digitRun Char.isDigit cs
        let (imaginary, rest) ← afterWhole whole
        if (wholeDigits cs).all (· = '0') || rest.length < whole.length then
          some (imaginary, rest)
        else none
    | '.' :: _ => afterWhole cs
    | _ => do
      let whole ← digitRun Char.isDigit cs
      let (imaginary, rest) ← afterWhole whole
      if (wholeDigits cs).length ≤ wholeDigitLimit || rest.length < whole.length then
        some (imaginary, rest)
      else none
  if wordsAfterNumber.any (fun w => w.toList.isPrefixOf rest) then some (imaginary, rest)
  else if (rest.head?.map Text.isIdentifierPart).getD false then none
  else some (imaginary, rest)

/-! ### Names and operators -/

/-- A character of a name, before it is asked whether the name is an
identifier. -/
def isNameChar (c : Char) : Bool :=
  c.isAlphanum || c = '_' || 128 ≤ c.toNat

/-- The operators, longer ones first. -/
def operators : List String :=
  ["**=", "//=", ">>=", "<<=", "...", "**", "//", ">>", "<<", "<=", ">=", "==", "!=", "->", "+=",
    "-=", "*=", "/=", "%=", "&=", "|=", "^=", "@=", ":=", "+", "-", "*", "/", "%", "@", "&", "|",
    "^", "~", "<", ">", "(", ")", "[", "]", "\x7b", "\x7d", ",", ":", ".", ";", "="]

/-- The operator a text starts with. -/
def operator? (cs : List Char) : Option String :=
  operators.find? fun s => s.toList.isPrefixOf cs

/-- How an operator changes the number of open brackets. -/
def bracketChange (s : String) : Int :=
  if ["(", "[", "\x7b"].contains s then 1
  else if [")", "]", "\x7d"].contains s then -1
  else 0

/-! ### Lines -/

/-- How far a line is indented: with tabs that go to the next multiple of
eight, and with tabs as wide as blanks. -/
structure Width where
  columns : Nat
  characters : Nat
deriving DecidableEq, Repr

/-- The indentation a line starts with, and the rest. Where lines are joined by
a backslash, the first of them that is indented counts; `held` is how far it
is. Nothing may end with such a backslash. -/
def indentation (held : Nat) (w : Width) : List Char → Option (Width × List Char)
  | [] => some (if held = 0 then w else ⟨held, held⟩, [])
  | ['\\', '\n'] => none
  | '\\' :: '\n' :: rest => indentation (if held = 0 then w.columns else held) w rest
  | c :: rest =>
    if c = ' ' then indentation held ⟨w.columns + 1, w.characters + 1⟩ rest
    else if c = '\t' then indentation held ⟨(w.columns / 8 + 1) * 8, w.characters + 1⟩ rest
    else if c.toNat = 12 then indentation held ⟨0, 0⟩ rest
    else some (if held = 0 then w else ⟨held, held⟩, c :: rest)

/-- The number of indentations up to which lines may be nested. -/
def indentLimit : Nat := 99

/-- The number of brackets that may be open. -/
def bracketLimit : Nat := 200

/-- The lexemes for the change of indentation before a line, and the
indentations around it then, the inner one first. A line is indented more,
or as much as one of those around it, in both ways of counting. -/
def reindent (w : Width) : List Width → Option (List Lexeme × List Width)
  | [] => if w = ⟨0, 0⟩ then some ([], []) else some ([indent], [w])
  | inner :: outer =>
    if w.columns = inner.columns then
      if w.characters = inner.characters then some ([], inner :: outer) else none
    else if inner.columns < w.columns then
      if inner.characters < w.characters then some ([indent], w :: inner :: outer) else none
    else
      match reindent w outer with
      | some ([], left) => some ([dedent], left)
      | some (dedent :: more, left) => some (dedent :: dedent :: more, left)
      | _ => none

/-- The text from the next line feed on. -/
def toLineEnd (cs : List Char) : List Char :=
  cs.dropWhile (· ≠ '\n')

/-- The lexemes of a text. `fresh` tells that a line starts here, `depth` is
the number of open brackets, `widths` are the indentations around, the inner
one first; `fuel` bounds the number of steps. -/
def scan : Nat → Bool → Nat → List Width → List Char → Option (List Lexeme)
  | 0, _, _, _, _ => none
  | fuel + 1, true, depth, widths, cs => do
    let (width, rest) ← indentation 0 ⟨0, 0⟩ cs
    match rest with
    | [] => some (widths.map fun _ => dedent)
    | '\n' :: more => scan fuel true depth widths more
    | '#' :: more => scan fuel true depth widths (toLineEnd more)
    | _ =>
      let (changes, widths) ← reindent width widths
      if indentLimit < widths.length then none
      else (scan fuel false depth widths rest).map (changes ++ ·)
  | fuel + 1, false, depth, widths, cs =>
    match cs with
    | [] =>
      if depth = 0 then some (newline :: widths.map fun _ => dedent) else none
    | '\n' :: rest =>
      if depth = 0 then (scan fuel true 0 widths rest).map (newline :: ·)
      else scan fuel false depth widths rest
    | ['\\', '\n'] => none
    | '\\' :: '\n' :: rest => scan fuel false depth widths rest
    | '#' :: rest => scan fuel false depth widths (toLineEnd rest)
    | c :: rest =>
      let quoted (q : Quotation) (cs : List Char) : Option (List Lexeme) := do
        let (body, after) ← Quotation.end? cs
        let sources ← q.expressions? body
        (scan fuel false depth widths after).map (text q.bytes sources :: ·)
      if c = ' ' || c = '\t' || c.toNat = 12 then scan fuel false depth widths rest
      else if c = '"' || c = '\'' then quoted .plain cs
      else if c.isDigit || (c = '.' && (rest.headD ' ').isDigit) then do
        let (imaginary, after) ← number? cs
        (scan fuel false depth widths after).map (number imaginary :: ·)
      else if isNameChar c then
        let word := cs.takeWhile isNameChar
        let after := cs.dropWhile isNameChar
        match (if after.headD ' ' = '"' || after.headD ' ' = '\'' then Quotation.ofLetters? word
          else none) with
        | some q => quoted q after
        | none =>
          if Text.isIdentifier (String.ofList word) then
            (scan fuel false depth widths after).map (name (String.ofList word) :: ·)
          else none
      else
        match operator? cs with
        | some s =>
          let changed := (depth : Int) + bracketChange s
          if changed < 0 || (bracketLimit : Int) < changed then none
          else
            (scan fuel false changed.toNat widths (cs.drop s.toList.length)).map (op s :: ·)
        | none => none

end Lexeme

/-- The lexemes of a text, if it can be cut into lexemes. -/
def lexemes? (s : String) : Option (List Lexeme) :=
  let cs := Text.unifyNewlines s.toList
  if cs.contains (Char.ofNat 0) then none
  else Lexeme.scan (2 * cs.length + 2) true 0 [] cs

end Code
end ChainedSdk
