/-
# Reading a code tree

A tree can be given as a JSON value: every node is an object whose `node`
field tells its construct. The nodes are read in the order in which they are
written out, so the first one that does not fit its place is the one that is
reported; what is not written out (the methods of a record that is written as
a call, say) is not read.

Key definitions: `Code.ReadFault`, `Code.readType`, `Code.readExpr`,
`Code.readStatement`, `Code.readDoc`.
-/
import ChainedSdk.Code.Render

namespace ChainedSdk
namespace Code

/-- What is wrong with a node. -/
inductive ReadFault where
  | notType
  | notExpr
  | notStatement
  | notEntry (given : String)
deriving DecidableEq, Repr

/-- The fault in words. -/
def ReadFault.message : ReadFault → String
  | notType => "Cannot render type node"
  | notExpr => "Cannot render expression node"
  | notStatement => "Cannot render statement node"
  | notEntry given => "'" ++ given ++ "' object has no attribute 'value'"

/-- The construct of a node. -/
def nodeTag (j : Json) : String :=
  j.textField "node"

/-- A field that may be missing or null. -/
def optionalField (key : String) (j : Json) : Option Json :=
  match j.field? key with
  | some .null => none
  | other => other

/-- A field that has to be there; null if it is not. -/
def neededField (key : String) (j : Json) : Json :=
  (j.field? key).getD .null

/-- Reads an annotation; `fuel` bounds its nesting. -/
def readTypeWithin : Nat → Json → Except ReadFault TypeExpr
  | 0, _ => .error .notType
  | fuel + 1, j =>
    match nodeTag j with
    | "named" => .ok (.named (j.textField "name"))
    | "generic" => do
      return .generic (j.textField "base") (← (j.arrayField "args").mapM (readTypeWithin fuel))
    | "optional" => do return .optional (← readTypeWithin fuel (neededField "inner" j))
    | "omit" =>
      -- Its fields are not written out, so one that has no type is passed over.
      .ok (.record ⟨j.textField "name", (j.arrayField "fields").filterMap fun f =>
        (readTypeWithin fuel (neededField "type" f)).toOption.map fun type =>
          { name := f.textField "name", type, required := f.boolField "required" true }⟩)
    | _ => .error .notType

/-- Reads an annotation. -/
def readType (j : Json) : Except ReadFault TypeExpr :=
  readTypeWithin j.size j

mutual

/-- Reads an expression; `fuel` bounds its nesting. -/
def readExprWithin : Nat → Json → Except ReadFault Expr
  | 0, _ => .error .notExpr
  | fuel + 1, j =>
    match nodeTag j with
    | "name" => .ok (.name (j.textField "id"))
    | "literal" => .ok (.literal (neededField "value" j))
    | "call" => do
      let args ← (j.arrayField "args").mapM (readExprWithin fuel)
      return .call (← readExprWithin fuel (neededField "func" j)) args
    | "lambda" => do return .lambda (← readExprWithin fuel (neededField "body" j))
    | "await" => do return .await (← readExprWithin fuel (neededField "value" j))
    | "object" => do
      let entries ← (j.arrayField "entries").mapM (readEntryWithin fuel)
      return .object entries (j.textField? "constructor")
    | _ => .error .notExpr

/-- Reads an entry of an object; `fuel` bounds its nesting. -/
def readEntryWithin : Nat → Json → Except ReadFault Entry
  | 0, _ => .error .notExpr
  | fuel + 1, j =>
    match nodeTag j with
    | "property" => do
      return .property (j.textField "key") (← readExprWithin fuel (neededField "value" j))
    | "spread" => do
      return .spread (← readExprWithin fuel (neededField "value" j)) (j.boolField "optional" false)
    | _ =>
      match j with
      | .string _ => .error (.notEntry "str")
      | .null => .error (.notEntry "NoneType")
      | _ => .error .notExpr

end

/-- Reads an expression. -/
def readExpr (j : Json) : Except ReadFault Expr :=
  readExprWithin j.size j

/-- Reads a parameter. -/
def readParam (j : Json) : Except ReadFault Param := do
  let type? ← (optionalField "type" j).mapM readType
  let default? ← (optionalField "default" j).mapM readExpr
  return { name := j.textField "name", type?, default? }

/-- Reads a documentation. -/
def readDoc (j : Json) : DocBlock where
  summary := j.textsField "summary"
  args := j.textsField "args"
  returns? := j.textField? "returns"

/-- Reads a field of a class. -/
def readField (j : Json) : Except ReadFault Field := do
  return {
    name := j.textField "name"
    type := ← readType (neededField "type" j)
    required := j.boolField "required" true }

mutual

/-- Reads a statement; `fuel` bounds its nesting. -/
def readStatementWithin : Nat → Json → Except ReadFault Statement
  | 0, _ => .error .notStatement
  | fuel + 1, j =>
    match nodeTag j with
    | "return" => do return .ret (← readExpr (neededField "value" j))
    | "assign" => do
      return .assign (j.textField "target") (← readExpr (neededField "value" j))
    | "function" => do return .function (← readFunctionWithin fuel j)
    | "class" => do
      let bases := j.textsField "bases"
      let fields ← (j.arrayField "fields").mapM readField
      let methods ←
        if ClassDecl.needsCall bases fields then pure []
        else (j.arrayField "methods").mapM (readFunctionWithin fuel)
      return .classDecl
        ⟨j.textField "name", bases, fields, methods, (optionalField "doc" j).map readDoc⟩
    | "string" => .ok (.text (j.textField "name") (j.textField "value"))
    | _ => .error .notStatement

/-- Reads a function; `fuel` bounds its nesting. -/
def readFunctionWithin : Nat → Json → Except ReadFault FunctionDef
  | 0, _ => .error .notStatement
  | fuel + 1, j => do
    let returns? ← (optionalField "returns" j).mapM readType
    let params ← (j.arrayField "params").mapM readParam
    let body ← (j.arrayField "body").mapM (readStatementWithin fuel)
    let signature : Signature :=
      { name := j.textField "name", params, returns?
        doc? := (optionalField "doc" j).map readDoc
        async := j.boolField "async" false }
    return ⟨signature, body⟩

end

/-- Reads a statement. -/
def readStatement (j : Json) : Except ReadFault Statement :=
  readStatementWithin (2 * j.size) j

end Code
end ChainedSdk
