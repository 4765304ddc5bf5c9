/-
# Writing documents

The canonical text of a document: two spaces of indentation for each level,
one selection a line, one blank line between definitions. The arguments of a
field go on lines of their own when the line they would be on has more than
80 characters, and so do the items of a list and the fields of an object. A
query without a name, variables or directives is its selection set alone.

Key definitions: `Definition.print`, `Document.print`, `TypeRef.print`.
-/
import ChainedSdk.GraphQL.BlockString
import ChainedSdk.GraphQL.Document
import ChainedSdk.GraphQL.Lexer

namespace ChainedSdk
namespace GraphQL

namespace Layout

/-- `before` and `after` around a text, nothing around no text. -/
def around (before s after : String) : String :=
  if s = "" then "" else before ++ s ++ after

/-- The texts that are not empty, with `sep` between them. -/
def joinSome (sep : String) (parts : List String) : String :=
  Text.joinWith sep (parts.filter (· ≠ ""))

/-- The text two columns further to the right. -/
def indent (s : String) : String :=
  around "  " (Text.replaceChar '\n' "\n  " s) ""

/-- Items in braces, one a line; nothing for no items. -/
def block (parts : List String) : String :=
  if parts.isEmpty then "" else "\x7b\n" ++ indent (joinSome "\n" parts) ++ "\n\x7d"

/-- One of the texts has several lines. -/
def anyBroken (parts : List String) : Bool :=
  parts.any fun s => s.toList.contains '\n'

/-- The number of characters up to which a list is written on one line. -/
def lineLimit : Nat := 80

/-- Items between two texts: on one line with `gap` inside the two, or on
lines of their own if that line is too long. -/
def enclosed (before gap after : String) (parts : List String) : String :=
  let line := before ++ gap ++ Text.joinWith ", " parts ++ gap ++ after
  if lineLimit < line.length then
    before ++ "\n" ++ indent (Text.joinWith "\n" parts) ++ "\n" ++ after
  else line

end Layout

open Layout

/-- A character of a string. -/
def printChar (c : Char) : List Char :=
  if c = '"' || c = '\\' then ['\\', c]
  else if c = '\n' then ['\\', 'n']
  else if c = '\r' then ['\\', 'r']
  else if c = '\t' then ['\\', 't']
  else if c.toNat = 8 then ['\\', 'b']
  else if c.toNat = 12 then ['\\', 'f']
  else if c.toNat < 32 || (127 ≤ c.toNat && c.toNat < 160) then
    '\\' :: 'u' :: Lexer.codePoint c.toNat
  else [c]

/-- A string with its quotes. -/
def printString (s : String) : String :=
  String.ofList ('"' :: s.toList.flatMap printChar ++ ['"'])

/-- The text of a type. -/
def TypeRef.print : TypeRef → String
  | .named name => name
  | .list item => "[" ++ item.print ++ "]"
  | .nonNull inner => inner.print ++ "!"

mutual

/-- The text of a value. -/
def Value.print : Value → String
  | .variable name => "$" ++ name
  | .int text => text
  | .float text => text
  | .string text block => if block then BlockString.write text else printString text
  | .boolean b => if b then "true" else "false"
  | .null => "null"
  | .enum name => name
  | .list items => enclosed "[" "" "]" (Value.printItems items)
  | .object fields => enclosed "\x7b" " " "\x7d" (Value.printFields fields)

/-- The texts of values. -/
def Value.printItems : List Value → List String
  | [] => []
  | v :: vs => v.print :: Value.printItems vs

/-- The texts of named values. -/
def Value.printFields : List (String × Value) → List String
  | [] => []
  | (name, v) :: vs => (name ++ ": " ++ v.print) :: Value.printFields vs

end

/-- The text of an argument. -/
def Argument.print (a : Argument) : String :=
  a.name ++ ": " ++ a.value.print

/-- The text of a directive. -/
def Directive.print (d : Directive) : String :=
  "@" ++ d.name ++ around "(" (Text.joinWith ", " (d.arguments.map Argument.print)) ")"

/-- The text of directives. -/
def printDirectives (ds : List Directive) : String :=
  Text.joinWith " " (ds.map Directive.print)

/-- The text of the declaration of a variable. -/
def VariableDefinition.print (v : VariableDefinition) : String :=
  "$" ++ v.name ++ ": " ++ v.type.print
    ++ around " = " ((v.default?.map Value.print).getD "") ""
    ++ around " " (printDirectives v.directives) ""

/-- A name with arguments, on one line or with a line for each argument. -/
def printCall (head : String) (arguments : List Argument) : String :=
  let parts := arguments.map Argument.print
  let line := head ++ around "(" (Text.joinWith ", " parts) ")"
  if lineLimit < line.length then
    head ++ around "(\n" (indent (Text.joinWith "\n" parts)) "\n)"
  else line

mutual

/-- The text of a selection. -/
def Selection.print : Selection → String
  | .field alias? name arguments directives selections =>
    let head := around "" (alias?.getD "") ": " ++ name
    joinSome " " [printCall head arguments, printDirectives directives,
      block (Selection.printAll selections)]
  | .spread name directives => "..." ++ name ++ around " " (printDirectives directives) ""
  | .inline typeCondition? directives selections =>
    joinSome " " ["...", around "on " (typeCondition?.getD "") "", printDirectives directives,
      block (Selection.printAll selections)]

/-- The texts of selections. -/
def Selection.printAll : List Selection → List String
  | [] => []
  | s :: rest => s.print :: Selection.printAll rest

end

/-- The text of an operation. -/
def Operation.print (o : Operation) : String :=
  let parts := o.declared.map VariableDefinition.print
  let declared :=
    if anyBroken parts then around "(\n" (Text.joinWith "\n" parts) "\n)"
    else around "(" (Text.joinWith ", " parts) ")"
  let head := joinSome " "
    [o.kind.word, joinSome "" [o.name?.getD "", declared], printDirectives o.directives]
  (if head = "query" then "" else head ++ " ") ++ block (Selection.printAll o.selections)

/-- The text of a fragment. -/
def Fragment.print (f : Fragment) : String :=
  "fragment " ++ f.name ++ " on " ++ f.typeCondition ++ " "
    ++ around "" (printDirectives f.directives) " " ++ block (Selection.printAll f.selections)

/-- The text of a description, on a line before what it describes. -/
def printDescription : Option Description → String
  | none => ""
  | some d =>
    around "" (if d.block then BlockString.write d.text else printString d.text) "\n"

/-- The text of an argument or input field of a type system. -/
def InputValue.print (v : InputValue) : String :=
  printDescription v.description? ++
    joinSome " " [v.name ++ ": " ++ v.type.print,
      around "= " ((v.default?.map Value.print).getD "") "", printDirectives v.directives]

/-- Arguments in parentheses, on lines of their own if one of them has several. -/
def printParameters (arguments : List InputValue) : String :=
  let parts := arguments.map InputValue.print
  if anyBroken parts then around "(\n" (indent (Text.joinWith "\n" parts)) "\n)"
  else around "(" (Text.joinWith ", " parts) ")"

/-- The text of a field of a type system. -/
def FieldDefinition.print (f : FieldDefinition) : String :=
  printDescription f.description? ++ f.name ++ printParameters f.arguments ++ ": " ++ f.type.print
    ++ around " " (printDirectives f.directives) ""

/-- The text of a value of an enum type. -/
def EnumValue.print (v : EnumValue) : String :=
  printDescription v.description? ++ joinSome " " [v.name, printDirectives v.directives]

/-- The text of a definition of a type system. -/
def SystemDefinition.print (d : SystemDefinition) : String :=
  let start := if d.isExtension then "extend " else ""
  let name := d.name?.getD ""
  let ds := printDirectives d.directives
  let body :=
    match d.form with
    | .schema types =>
      joinSome " " [start ++ "schema", ds,
        block (types.map fun t => t.1.word ++ ": " ++ t.2)]
    | .scalar => joinSome " " [start ++ "scalar", name, ds]
    | .object implemented fields =>
      joinSome " " [start ++ "type", name,
        around "implements " (Text.joinWith " & " implemented) "", ds,
        block (fields.map FieldDefinition.print)]
    | .interface implemented fields =>
      joinSome " " [start ++ "interface", name,
        around "implements " (Text.joinWith " & " implemented) "", ds,
        block (fields.map FieldDefinition.print)]
    | .union members =>
      joinSome " " [start ++ "union", name, ds, around "= " (Text.joinWith " | " members) ""]
    | .enum values =>
      joinSome " " [start ++ "enum", name, ds, block (values.map EnumValue.print)]
    | .input fields =>
      joinSome " " [start ++ "input", name, ds, block (fields.map InputValue.print)]
    | .directive arguments repeatable locations =>
      "directive @" ++ name ++ printParameters arguments
        ++ (if repeatable then " repeatable" else "") ++ " on " ++ Text.joinWith " | " locations
  printDescription d.description? ++ body

/-- The text of a definition. -/
def Definition.print : Definition → String
  | .operation o => o.print
  | .fragment f => f.print
  | .system d => d.print

/-- The text of a document. -/
def Document.print (d : Document) : String :=
  Text.joinWith "\n\n" (d.definitions.map Definition.print)

end GraphQL
end ChainedSdk
