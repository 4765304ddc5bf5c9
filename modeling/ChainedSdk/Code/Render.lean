/-
# The text of generated code

Annotations and expressions have one line. Statements have lines at an
indentation. A line with more than 100 characters is broken where it has
parts to break between: the parameters of a function, and the entries of an
object that a statement returns, by itself or as the last argument of a call.

Key definitions: `Code.TypeExpr.text`, `Code.Expr.text`, `Code.Broken`,
`Code.Statement.lines`, `Code.render`.
-/
import ChainedSdk.Code.Docstring
import ChainedSdk.Code.Literal
import ChainedSdk.Text.Identifier

namespace ChainedSdk
namespace Code

/-- The length a line may have. -/
def lineLimit : Nat := 100

/-! ### Annotations -/

mutual

/-- The text of an annotation. -/
def TypeExpr.text : TypeExpr → String
  | .named name => name
  | .generic base args =>
    let inner := Text.joinWith ", " (typeTexts args)
    if inner = "" then base else base ++ "[" ++ inner ++ "]"
  | .optional inner => "Optional[" ++ inner.text ++ "]"
  | .record r => r.name

/-- The texts of annotations. -/
def typeTexts : List TypeExpr → List String
  | [] => []
  | t :: rest => t.text :: typeTexts rest

end

/-! ### Expressions -/

/-- The key of an entry that a constructor can take as a keyword. -/
def Entry.plainKey? : Entry → Option String
  | .property key _ => if Text.isPlainName key then some key else none
  | .spread .. => none

/-- A constructor takes the entries as keywords: all have plain keys, no two
the same. -/
def allKeywords (entries : List Entry) : Bool :=
  let keys := entries.filterMap Entry.plainKey?
  entries.all (fun e => e.plainKey?.isSome) && decide keys.Nodup

mutual

/-- The text of an expression. -/
def Expr.text : Expr → String
  | .name id => id
  | .literal value => literalText value
  | .call func args => func.text ++ "(" ++ Text.joinWith ", " (exprTexts args) ++ ")"
  | .lambda body => "lambda: " ++ body.text
  | .await value => "await " ++ value.text
  | .object entries maker? =>
    match maker? with
    | none => "\x7b" ++ Text.joinWith ", " (entryTexts false entries) ++ "\x7d"
    | some maker =>
      if allKeywords entries then
        maker ++ "(" ++ Text.joinWith ", " (keywordTexts entries) ++ ")"
      else
        maker ++ "(**\x7b" ++ Text.joinWith ", " (entryTexts true entries) ++ "\x7d)"

/-- The texts of expressions. -/
def exprTexts : List Expr → List String
  | [] => []
  | e :: rest => e.text :: exprTexts rest

/-- The text of an entry of a dictionary. Into a dictionary of attributes an
object is spread by its attributes. -/
def Entry.text (attributes : Bool) : Entry → String
  | .property key value => "\"" ++ key ++ "\": " ++ value.text
  | .spread value optional =>
    let source := if attributes then "vars(" ++ value.text ++ ")" else value.text
    if optional then "**(" ++ source ++ " or \x7b\x7d)" else "**" ++ source

/-- The texts of the entries of a dictionary. -/
def entryTexts (attributes : Bool) : List Entry → List String
  | [] => []
  | e :: rest => e.text attributes :: entryTexts attributes rest

/-- The text of an entry as a keyword. -/
def Entry.keywordText : Entry → String
  | .property key value => key ++ "=" ++ value.text
  | .spread value _ => value.text

/-- The texts of entries as keywords. -/
def keywordTexts : List Entry → List String
  | [] => []
  | e :: rest => e.keywordText :: keywordTexts rest

end

/-! ### Lines that can be broken -/

/-- A line made of parts: the text before them, the parts, and the text after
them. -/
structure Broken where
  opening : String
  parts : List String
  closing : String
deriving DecidableEq, Repr

namespace Broken

/-- The parts on one line. -/
def flat (b : Broken) : String :=
  b.opening ++ Text.joinWith ", " b.parts ++ b.closing

/-- The parts on lines of their own, each with a comma. -/
def lines (b : Broken) (indent : String) : List String :=
  (indent ++ b.opening)
    :: b.parts.map (fun part => indent ++ indentStep ++ part ++ ",")
    ++ [indent ++ b.closing]

end Broken

/-- The parts of an object that a line can be broken between. Here a
constructor without a name is none. -/
def objectParts (entries : List Entry) (maker? : Option String) : Broken :=
  match maker?.filter (· ≠ "") with
  | none => ⟨"\x7b", entryTexts false entries, "\x7d"⟩
  | some maker =>
    if allKeywords entries then ⟨maker ++ "(", keywordTexts entries, ")"⟩
    else ⟨maker ++ "(**\x7b", entryTexts true entries, "\x7d)"⟩

/-- The parts of a value that is an object. -/
def Expr.objectParts? : Expr → Option Broken
  | .object entries maker? => some (objectParts entries maker?)
  | _ => none

/-- The parts of a returned value that a line can be broken between: those of
an object, or of the object that is the last argument of a call. -/
def Expr.parts? : Expr → Option Broken
  | .object entries maker? => some (objectParts entries maker?)
  | .call func args =>
    match args.getLast? with
    | some last =>
      last.objectParts?.map fun b =>
        let leading := (exprTexts args.dropLast).map (· ++ ", ")
        { b with
          opening := func.text ++ "(" ++ Text.joinWith "" leading ++ b.opening
          closing := b.closing ++ ")" }
    | none => none
  | _ => none

/-- The lines of a statement that returns a value. -/
def returnLines (value : Expr) (indent : String) : List String :=
  let line := indent ++ "return " ++ value.text
  if line.length ≤ lineLimit then [line]
  else
    match value.parts? with
    | some b => { b with opening := "return " ++ b.opening }.lines indent
    | none => [line]

/-! ### Functions -/

/-- The text of a parameter. -/
def Param.text (p : Param) : String :=
  let typed :=
    match p.type? with
    | some t => p.name ++ ": " ++ t.text
    | none => p.name
  match p.default? with
  | some value => typed ++ " = " ++ value.text
  | none => typed

/-- The text of parameters. -/
def paramsText (params : List Param) : String :=
  Text.joinWith ", " (params.map Param.text)

namespace Signature

/-- The word or words that start a function. -/
def keyword (s : Signature) : String :=
  if s.async then "async def" else "def"

/-- The header of a function as parts. -/
def header (s : Signature) : Broken where
  opening := s.keyword ++ " " ++ s.name ++ "("
  parts := s.params.map Param.text
  closing :=
    match s.returns? with
    | some t => ") -> " ++ t.text ++ ":"
    | none => "):"

/-- The lines of the header of a function. -/
def headerLines (s : Signature) (indent : String) : List String :=
  let line := indent ++ s.header.flat
  if lineLimit < line.length && !s.params.isEmpty then s.header.lines indent else [line]

end Signature

/-! ### Classes -/

/-- The annotation of a field, marked if the field may be missing. -/
def Field.typeText (f : Field) : String :=
  if f.required then f.type.text else "NotRequired[" ++ f.type.text ++ "]"

/-- The name of the base class of records. -/
def recordBase : String := "TypedDict"

/-- A record with a field whose name cannot stand in a class body. -/
def ClassDecl.needsCall (bases : List String) (fields : List Field) : Bool :=
  bases.contains recordBase && !fields.all fun f => Text.isPlainName f.name

/-- A record as a call with a dictionary of its fields, whose annotations are
texts. -/
def ClassDecl.callText (name : String) (fields : List Field) : String :=
  let items := fields.map fun f => "\"" ++ f.name ++ "\": \"" ++ f.typeText ++ "\""
  name ++ " = " ++ recordBase ++ "(\"" ++ name ++ "\", \x7b" ++ Text.joinWith ", " items ++ "\x7d)"

/-- The sections of a class with empty lines between them. -/
def joinSections : List (List String) → List String
  | [] => []
  | [s] => s
  | s :: rest => s ++ "" :: joinSections rest

/-! ### Statements -/

mutual

/-- The lines of a statement. -/
def Statement.lines (indent : String) : Statement → List String
  | .ret value => returnLines value indent
  | .assign target value => [indent ++ target ++ " = " ++ value.text]
  | .function f => f.lines indent
  | .classDecl c => c.lines indent
  | .text name value => constantLines indent name value

/-- The lines of a function: its header, its documentation, and its body, or
the empty statement. -/
def FunctionDef.lines (indent : String) : FunctionDef → List String
  | ⟨signature, body⟩ =>
    let inner := indent ++ indentStep
    let doc :=
      match signature.doc? with
      | some d => d.render inner
      | none => []
    let rest :=
      if signature.doc?.isNone && body.isEmpty then [inner ++ "pass"]
      else bodyLines inner false body
    signature.headerLines indent ++ doc ++ rest

/-- The lines of a body. An empty line goes before a function, and after one
(`afterFunction`). -/
def bodyLines (indent : String) (afterFunction : Bool) : List Statement → List String
  | [] => []
  | s :: rest =>
    (if s.isFunction || afterFunction then [""] else []) ++ s.lines indent
      ++ bodyLines indent s.isFunction rest

/-- The lines of a class: its header, and its documentation, fields and
methods with empty lines between them, or the empty statement. -/
def ClassDecl.lines (indent : String) : ClassDecl → List String
  | ⟨name, bases, fields, methods, doc?⟩ =>
    if ClassDecl.needsCall bases fields then [indent ++ ClassDecl.callText name fields]
    else
      let inner := indent ++ indentStep
      let doc :=
        match doc? with
        | some d => [d.render inner]
        | none => []
      let fieldLines :=
        if fields.isEmpty then []
        else [fields.map fun f => inner ++ f.name ++ ": " ++ f.typeText]
      let sections := doc ++ fieldLines ++ methodSections inner methods
      let header :=
        if bases.isEmpty then "class " ++ name ++ ":"
        else "class " ++ name ++ "(" ++ Text.joinWith ", " bases ++ "):"
      (indent ++ header)
        :: (if sections.isEmpty then [inner ++ "pass"] else joinSections sections)

/-- The lines of the methods of a class. -/
def methodSections (indent : String) : List FunctionDef → List (List String)
  | [] => []
  | f :: rest => f.lines indent :: methodSections indent rest

end

/-- The text of declarations, two empty lines between them. -/
def render (nodes : List Statement) : String :=
  Text.joinWith "\n\n\n" (nodes.map fun s => Text.joinWith "\n" (s.lines ""))

end Code
end ChainedSdk
