/-
# Tokens and syntax errors

A token is a mark, a name, a number or a string, and stands at a position of
the text. The list of tokens of a text ends with the end of the text, or with
the error that stopped the reading, so that an error in the text shows when
the token before it is taken and not earlier.

Positions are lines and columns from 1 on. A line ends with a line feed, a
carriage return, or both in this order.

Key definitions: `Cursor`, `SyntaxFault.message`, `SyntaxError`, `Token`.
-/
import ChainedSdk.Text.Quoted

namespace ChainedSdk
namespace GraphQL

/-- A place in a text, and whether a carriage return was read last. -/
structure Cursor where
  line : Nat
  column : Nat
  afterReturn : Bool
deriving DecidableEq, Repr

namespace Cursor

/-- The start of a text. -/
def start : Cursor := ⟨1, 1, false⟩

/-- The place after a further character. -/
def step (p : Cursor) (c : Char) : Cursor :=
  if c = '\n' && p.afterReturn then ⟨p.line, p.column, false⟩
  else if c = '\n' || c = '\r' then ⟨p.line + 1, 1, c = '\r'⟩
  else ⟨p.line, p.column + 1, false⟩

/-- The place after further characters. -/
def move (p : Cursor) (cs : List Char) : Cursor :=
  cs.foldl step p

end Cursor

/-- The marks of the language. -/
inductive Mark where
  | bang
  | dollar
  | amp
  | parenL
  | parenR
  | spread
  | colon
  | equals
  | at
  | bracketL
  | bracketR
  | braceL
  | pipe
  | braceR
deriving DecidableEq, Repr

/-- The text of a mark. -/
def Mark.text : Mark → String
  | .bang => "!"
  | .dollar => "$"
  | .amp => "&"
  | .parenL => "("
  | .parenR => ")"
  | .spread => "..."
  | .colon => ":"
  | .equals => "="
  | .at => "@"
  | .bracketL => "["
  | .bracketR => "]"
  | .braceL => "\x7b"
  | .pipe => "|"
  | .braceR => "\x7d"

/-- What is wrong with a text. Tokens and expectations are kept as they are
shown. -/
inductive SyntaxFault where
  | expected (kind found : String)
  | unexpected (found : String)
  | variableInConstant (name : String)
  | strayDescription
  | reservedEnumValue (found : String)
  | unterminatedString
  | unknownEscape (escape : String)
  | unknownCodePoint (escape : String)
  | digitAfterZero (shown : String)
  | missingDigit (shown : String)
  | strayCharacter (shown : String)
  | singleQuote
  | twoPoints
  | wholePartMissing (digits : String)
  | nestedTooDeeply
deriving DecidableEq, Repr

/-- The fault in words. -/
def SyntaxFault.message : SyntaxFault → String
  | .expected kind found => "Expected " ++ kind ++ ", found " ++ found ++ "."
  | .unexpected found => "Unexpected " ++ found ++ "."
  | .variableInConstant name => "Unexpected variable '$" ++ name ++ "' in constant value."
  | .strayDescription =>
    "Unexpected description, descriptions are supported only on type definitions."
  | .reservedEnumValue found =>
    found ++ " is reserved and cannot be used for an enum value."
  | .unterminatedString => "Unterminated string."
  | .unknownEscape escape => "Invalid character escape sequence: '" ++ escape ++ "'."
  | .unknownCodePoint escape => "Invalid Unicode escape sequence: '" ++ escape ++ "'."
  | .digitAfterZero shown => "Invalid number, unexpected digit after 0: " ++ shown ++ "."
  | .missingDigit shown => "Invalid number, expected digit but got: " ++ shown ++ "."
  | .strayCharacter shown => "Unexpected character: " ++ shown ++ "."
  | .singleQuote =>
    "Unexpected single quote character ('), did you mean to use a double quote (\")?"
  | .twoPoints => "Unexpected '..', did you mean '...'?"
  | .wholePartMissing digits =>
    "Invalid number, expected digit before '.', did you mean '0." ++ digits ++ "'?"
  | .nestedTooDeeply => "Document is nested too deeply. Parsing aborted."

/-- A fault and its place. -/
structure SyntaxError where
  fault : SyntaxFault
  line : Nat
  column : Nat
deriving DecidableEq, Repr

/-- The fault at a place. -/
def SyntaxFault.at (fault : SyntaxFault) (p : Cursor) : SyntaxError :=
  ⟨fault, p.line, p.column⟩

/-- The error in words, as shown to a reader. -/
def SyntaxError.message (e : SyntaxError) : String :=
  "Syntax Error: " ++ e.fault.message

/-- What a token is. The text of a string is the text it stands for. -/
inductive Lexeme where
  | mark (m : Mark)
  | name (text : String)
  | int (text : String)
  | float (text : String)
  | string (text : String)
  | blockString (text : String)
  | endOfText
  | broken (e : SyntaxError)
deriving DecidableEq, Repr

/-- A lexeme and its place. -/
structure Token where
  lexeme : Lexeme
  place : Cursor
deriving DecidableEq, Repr

/-- A kind of lexeme with its text, which is not escaped. -/
def shownText (kind text : String) : String :=
  kind ++ " '" ++ text ++ "'"

/-- A lexeme as it is shown in an error. -/
def Lexeme.shown : Lexeme → String
  | .mark m => "'" ++ m.text ++ "'"
  | .name text => shownText "Name" text
  | .int text => shownText "Int" text
  | .float text => shownText "Float" text
  | .string text => shownText "String" text
  | .blockString text => shownText "BlockString" text
  | .endOfText => "<EOF>"
  | .broken e => e.message

/-- The text of a lexeme that has one of its own. -/
def Lexeme.text? : Lexeme → Option String
  | .name text => some text
  | .int text => some text
  | .float text => some text
  | .string text => some text
  | .blockString text => some text
  | _ => none

end GraphQL
end ChainedSdk
