/-
# Texts in triple quotes

Two ways of putting a text between three double quotes. A line of
documentation doubles its backslashes, escapes quotes that come in threes,
and gets a space behind a quote at its end, which would run into the closing
quotes. A constant escapes every quote, so that it can be read back exactly.

Key definitions: `Code.docLine`, `Code.DocBlock.render`, `Code.constantLines`.
-/
import ChainedSdk.Code.Tree
import ChainedSdk.Text.Basic

namespace ChainedSdk
namespace Code

/-- One step of indentation. -/
def indentStep : String := "    "

/-- Three quotes. -/
def tripleQuote : String := "\"\"\""

/-- Backslashes doubled, and each quote of three in a row escaped. -/
def escapeDoc : List Char → List Char
  | [] => []
  | '\\' :: rest => '\\' :: '\\' :: escapeDoc rest
  | '"' :: '"' :: '"' :: rest => '\\' :: '"' :: '\\' :: '"' :: '\\' :: '"' :: escapeDoc rest
  | c :: rest => c :: escapeDoc rest

/-- The text ends with a quote. -/
def endsInQuote (cs : List Char) : Bool :=
  cs.getLast? = some '"'

/-- A line of documentation, fit to stand in triple quotes. -/
def docLine (s : String) : String :=
  let escaped := escapeDoc s.toList
  String.ofList (if endsInQuote escaped then escaped ++ [' '] else escaped)

/-- The lines of a documentation before they are escaped and indented. -/
def DocBlock.lines (d : DocBlock) : List String :=
  let summary := if d.summary.isEmpty then [""] else d.summary
  let args :=
    if d.args.isEmpty then [] else ["", "Args:"] ++ d.args.map (indentStep ++ ·)
  let returns :=
    match d.returns? with
    | some text => if text = "" then [] else ["", "Returns:", indentStep ++ text]
    | none => []
  summary ++ args ++ returns

/-- The documentation in triple quotes: on one line, or with the closing
quotes on a line of their own. Empty lines stay empty. -/
def DocBlock.render (d : DocBlock) (indent : String) : List String :=
  match d.lines with
  | [] => [indent ++ tripleQuote ++ tripleQuote]
  | [line] => [indent ++ tripleQuote ++ docLine line ++ tripleQuote]
  | first :: rest =>
    (indent ++ tripleQuote ++ docLine first)
      :: rest.map (fun line => if line = "" then "" else indent ++ docLine line)
      ++ [indent ++ tripleQuote]

/-- Backslashes and quotes after a backslash. -/
def escapeConstant (cs : List Char) : List Char :=
  cs.flatMap fun c => if c = '\\' || c = '"' then ['\\', c] else [c]

/-- The text that a text in triple quotes stands for, as far as the two ways
of escaping go: a backslash before a backslash or a quote goes away. -/
def unescape : List Char → List Char
  | [] => []
  | '\\' :: c :: rest =>
    if c = '\\' || c = '"' then c :: unescape rest else '\\' :: unescape (c :: rest)
  | c :: rest => c :: unescape rest

/-- The lines of a text constant. The lines of the text itself are not
indented. -/
def constantLines (indent name value : String) : List String :=
  match Text.splitAt '\n' (escapeConstant value.toList) with
  | [] => [indent ++ name ++ " = " ++ tripleQuote ++ tripleQuote]
  | [line] => [indent ++ name ++ " = " ++ tripleQuote ++ String.ofList line ++ tripleQuote]
  | first :: rest =>
    (indent ++ name ++ " = " ++ tripleQuote ++ String.ofList first)
      :: (rest.dropLast.map String.ofList
        ++ [String.ofList (rest.getLast?.getD []) ++ tripleQuote])

end Code
end ChainedSdk
