/-
# Reading tokens

The tokens of a text, one after the other; white space, commas, byte order
marks and comments between them mean nothing. A name is a letter or low line
followed by letters, digits and low lines, all of them ASCII.

Key definitions: `isName`, `Lexer.scan`, `tokens`.
-/
import ChainedSdk.GraphQL.BlockString
import ChainedSdk.GraphQL.Token
import ChainedSdk.Json.Reader

namespace ChainedSdk
namespace GraphQL

/-- A name may start with `c`. -/
def isNameStart (c : Char) : Bool :=
  c.isAlpha || c = '_'

/-- A name may go on with `c`. -/
def isNamePart (c : Char) : Bool :=
  isNameStart c || c.isDigit

/-- The text is a name. -/
def isName (s : String) : Bool :=
  match s.toList with
  | [] => false
  | c :: rest => isNameStart c && rest.all isNamePart

namespace Lexer

/-- At least four digits in base 16 of a code point. -/
def codePoint (n : Nat) : List Char :=
  let digits := (Nat.toDigits 16 n).map Char.toUpper
  List.replicate (4 - digits.length) '0' ++ digits

/-- What a text starts with, as shown in an error. -/
def shownStart : List Char → String
  | [] => "<EOF>"
  | c :: _ =>
    if 32 ≤ c.toNat && c.toNat ≤ 126 then String.ofList ['\'', c, '\'']
    else "U+" ++ String.ofList (codePoint c.toNat)

/-- The digits a text starts with, at least one, and the rest. -/
def digits (p : Cursor) (cs : List Char) : Except SyntaxError (List Char × List Char) :=
  if (cs.takeWhile Char.isDigit).isEmpty then
    .error ((SyntaxFault.missingDigit (shownStart cs)).at p)
  else .ok (cs.takeWhile Char.isDigit, cs.dropWhile Char.isDigit)

/-- The whole part of a number: a zero alone, or digits. -/
def wholePart (p : Cursor) (cs : List Char) : Except SyntaxError (List Char × List Char) :=
  match cs with
  | '0' :: rest =>
    match rest with
    | c :: _ =>
      if c.isDigit then .error ((SyntaxFault.digitAfterZero (shownStart rest)).at (p.step '0'))
      else .ok (['0'], rest)
    | [] => .ok (['0'], [])
  | _ => digits p cs

/-- The part of a number behind a point, if there is a point. -/
def fractionPart (p : Cursor) (cs : List Char) : Except SyntaxError (List Char × List Char) :=
  match cs with
  | '.' :: rest => do
    let (ds, rest) ← digits (p.step '.') rest
    return ('.' :: ds, rest)
  | _ => .ok ([], cs)

/-- The exponent of a number, if there is one. -/
def exponentPart (p : Cursor) (cs : List Char) : Except SyntaxError (List Char × List Char) :=
  match cs with
  | c :: rest =>
    if c = 'e' || c = 'E' then
      match rest with
      | s :: rest' =>
        if s = '+' || s = '-' then do
          let (ds, rest) ← digits (p.move [c, s]) rest'
          return (c :: s :: ds, rest)
        else do
          let (ds, rest) ← digits (p.step c) rest
          return (c :: ds, rest)
      | [] => do
        let (ds, rest) ← digits (p.step c) []
        return (c :: ds, rest)
    else .ok ([], cs)
  | [] => .ok ([], [])

/-- A number, its text, and the rest. A number does not run into a name or a
point. -/
def number (p : Cursor) (cs : List Char) : Except SyntaxError (Lexeme × List Char × List Char) := do
  let (sign, rest) : List Char × List Char :=
    match cs with
    | '-' :: rest => (['-'], rest)
    | _ => ([], cs)
  let (whole, rest) ← wholePart (p.move sign) rest
  let (fraction, rest) ← fractionPart (p.move (sign ++ whole)) rest
  let (exponent, rest) ← exponentPart (p.move (sign ++ whole ++ fraction)) rest
  let text := sign ++ whole ++ fraction ++ exponent
  let lexeme :=
    if fraction.isEmpty && exponent.isEmpty then Lexeme.int (String.ofList text)
    else Lexeme.float (String.ofList text)
  match rest with
  | c :: _ =>
    if c = '.' || isNameStart c then
      .error ((SyntaxFault.missingDigit (shownStart rest)).at (p.move text))
    else return (lexeme, text, rest)
  | [] => return (lexeme, text, rest)

/-- The number is a code point other than half a surrogate pair. -/
def isScalar (n : Nat) : Bool :=
  n < 0xD800 || (0xE000 ≤ n && n ≤ 0x10FFFF)

/-- The code point of an escape in braces, from the text after the opening
brace; at most `left` characters are looked at. On failure, the characters
looked at. -/
def braced : Nat → Nat → List Char → List Char → Except (List Char) (Nat × List Char × List Char)
  | 0, _, seen, _ => .error seen.reverse
  | _, _, seen, [] => .error seen.reverse
  | left + 1, point, seen, c :: rest =>
    if c = '\x7d' then
      if !seen.isEmpty && isScalar point then .ok (point, (c :: seen).reverse, rest)
      else .error (c :: seen).reverse
    else
      match Json.hexDigit? c with
      | some d => braced left (16 * point + d) (c :: seen) rest
      | none => .error (c :: seen).reverse

/-- The second half of a surrogate pair, as the escape a text starts with, and
the rest. -/
def lowSurrogate? (cs : List Char) : Option (Nat × List Char) :=
  match cs with
  | '\\' :: 'u' :: more => do
    let (low, rest) ← Json.codeUnit? more
    if 0xDC00 ≤ low && low < 0xE000 then some (low, rest) else none
  | _ => none

/-- The character of an escape by code point, the characters of the escape
itself, and the rest; `cs` starts after the backslash and the letter. -/
def unicodeEscape (p : Cursor) (cs : List Char) :
    Except SyntaxError (Char × List Char × List Char) :=
  match cs with
  | '\x7b' :: rest =>
    match braced 9 0 [] rest with
    | .ok (point, text, rest) => .ok (Char.ofNat point, '\\' :: 'u' :: '\x7b' :: text, rest)
    | .error seen =>
      .error ((SyntaxFault.unknownCodePoint
        (String.ofList ('\\' :: 'u' :: '\x7b' :: seen))).at p)
  | _ =>
    let text := '\\' :: 'u' :: cs.take 4
    let refusal := (SyntaxFault.unknownCodePoint (String.ofList text)).at p
    match Json.codeUnit? cs with
    | none => .error refusal
    | some (high, rest) =>
      if isScalar high then .ok (Char.ofNat high, text, rest)
      else
        match lowSurrogate? rest with
        | some (low, more) =>
          if high < 0xDC00 then
            .ok (Char.ofNat ((high - 0xD800) * 1024 + (low - 0xDC00) + 0x10000),
              text ++ rest.take 6, more)
          else .error refusal
        | none => .error refusal

/-- The character of an escape, the characters of the escape itself, and the
rest; `cs` starts after the backslash. -/
def escape (p : Cursor) (cs : List Char) : Except SyntaxError (Char × List Char × List Char) :=
  match cs with
  | [] => .error ((SyntaxFault.unknownEscape "\\").at p)
  | 'u' :: rest => unicodeEscape p rest
  | c :: rest =>
    let known : Option Char :=
      match c with
      | '"' => some '"'
      | '\\' => some '\\'
      | '/' => some '/'
      | 'b' => some (Char.ofNat 8)
      | 'f' => some (Char.ofNat 12)
      | 'n' => some '\n'
      | 'r' => some '\r'
      | 't' => some '\t'
      | _ => none
    match known with
    | some d => .ok (d, ['\\', c], rest)
    | none => .error ((SyntaxFault.unknownEscape (String.ofList ['\\', c])).at p)

/-- A string after its opening quote: what it stands for, the place after it,
and the rest. `fuel` bounds the number of its characters. -/
def stringBody : Nat → Cursor → List Char → Except SyntaxError (List Char × Cursor × List Char)
  | 0, p, _ => .error (SyntaxFault.unterminatedString.at p)
  | _, p, [] => .error (SyntaxFault.unterminatedString.at p)
  | fuel + 1, p, c :: rest =>
    if c = '"' then .ok ([], p.step c, rest)
    else if c = '\\' then do
      let (d, text, rest) ← escape p rest
      let (ds, q, rest) ← stringBody fuel (p.move text) rest
      return (d :: ds, q, rest)
    else if c = '\n' || c = '\r' then .error (SyntaxFault.unterminatedString.at p)
    else do
      let (ds, q, rest) ← stringBody fuel (p.step c) rest
      return (c :: ds, q, rest)

/-- A block string after its opening quotes: its lines as written, the place
after it, and the rest. `line` holds the characters of the current line, last
one first, `lines` the lines before it. -/
def blockBody (p : Cursor) (line : List Char) (lines : List (List Char)) :
    List Char → Except SyntaxError (List (List Char) × Cursor × List Char)
  | [] => .error (SyntaxFault.unterminatedString.at p)
  | '"' :: '"' :: '"' :: rest =>
    .ok ((line.reverse :: lines).reverse, p.move BlockString.quotes, rest)
  | '\\' :: '"' :: '"' :: '"' :: rest =>
    blockBody (p.move ('\\' :: BlockString.quotes)) (BlockString.quotes ++ line) lines rest
  | '\r' :: '\n' :: rest => blockBody (p.move ['\r', '\n']) [] (line.reverse :: lines) rest
  | '\r' :: rest => blockBody (p.step '\r') [] (line.reverse :: lines) rest
  | '\n' :: rest => blockBody (p.step '\n') [] (line.reverse :: lines) rest
  | c :: rest => blockBody (p.step c) (c :: line) lines rest

/-- The mark of a single character. -/
def mark? : Char → Option Mark
  | '!' => some .bang
  | '$' => some .dollar
  | '&' => some .amp
  | '(' => some .parenL
  | ')' => some .parenR
  | ':' => some .colon
  | '=' => some .equals
  | '@' => some .at
  | '[' => some .bracketL
  | ']' => some .bracketR
  | '\x7b' => some .braceL
  | '|' => some .pipe
  | '\x7d' => some .braceR
  | _ => none

/-- Nothing but a separator of tokens. -/
def isSeparator (c : Char) : Bool :=
  c = ' ' || c = '\t' || c = ',' || c = '\n' || c = '\r' || c.toNat = 0xFEFF

/-- The lexeme a text starts with, the place after it, and the rest. -/
def lexeme (p : Cursor) (cs : List Char) : Except SyntaxError (Lexeme × Cursor × List Char) :=
  match cs with
  | [] => .ok (.endOfText, p, [])
  | '"' :: '"' :: '"' :: rest => do
    let (lines, q, rest) ← blockBody (p.move BlockString.quotes) [] [] rest
    let text := Text.joinWith "\n" ((BlockString.dedent lines).map String.ofList)
    return (.blockString text, q, rest)
  | '"' :: rest => do
    let (text, q, rest) ← stringBody (rest.length + 1) (p.step '"') rest
    return (.string (String.ofList text), q, rest)
  | '.' :: '.' :: '.' :: rest => .ok (.mark .spread, p.move ['.', '.', '.'], rest)
  | '.' :: '.' :: _ => .error (SyntaxFault.twoPoints.at p)
  | '.' :: rest =>
    if (rest.takeWhile Char.isDigit).isEmpty then
      .error ((SyntaxFault.strayCharacter (shownStart cs)).at p)
    else
      .error ((SyntaxFault.wholePartMissing (String.ofList (rest.takeWhile Char.isDigit))).at p)
  | c :: rest =>
    match mark? c with
    | some m => .ok (.mark m, p.step c, rest)
    | none =>
      if c.isDigit || c = '-' then do
        let (found, text, rest) ← number p cs
        return (found, p.move text, rest)
      else if isNameStart c then
        let text := cs.takeWhile isNamePart
        .ok (.name (String.ofList text), p.move text, cs.dropWhile isNamePart)
      else if c = '\'' then .error (SyntaxFault.singleQuote.at p)
      else .error ((SyntaxFault.strayCharacter (shownStart cs)).at p)

/-- The tokens of a text; `fuel` bounds the number of steps. -/
def scan : Nat → Cursor → List Char → List Token
  | 0, p, _ => [⟨.endOfText, p⟩]
  | _, p, [] => [⟨.endOfText, p⟩]
  | fuel + 1, p, c :: rest =>
    if isSeparator c then scan fuel (p.step c) rest
    else if c = '#' then
      let comment := rest.takeWhile fun d => d ≠ '\n' && d ≠ '\r'
      scan fuel (p.move (c :: comment)) (rest.dropWhile fun d => d ≠ '\n' && d ≠ '\r')
    else
      match lexeme p (c :: rest) with
      | .ok (found, q, rest) => ⟨found, p⟩ :: scan fuel q rest
      | .error e => [⟨.broken e, p⟩]

end Lexer

/-- The tokens of a text, up to its end or its first error. -/
def tokens (s : String) : List Token :=
  Lexer.scan (s.toList.length + 1) Cursor.start s.toList

end GraphQL
end ChainedSdk
