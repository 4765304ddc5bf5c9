/-
# The tree of generated code

The few constructs a generated module is made of: annotations, expressions,
and declarations of functions, classes and text constants. A tree is built
from names and turned into text as a last step.

Key definitions: `Code.TypeExpr`, `Code.RecordType`, `Code.Expr`,
`Code.Statement`, `Code.FunctionDef`, `Code.ClassDecl`.
-/
import ChainedSdk.Json.Basic

namespace ChainedSdk
namespace Code

mutual

/-- An annotation. -/
inductive TypeExpr where
  | named (name : String)
  | generic (base : String) (args : List TypeExpr)
  | optional (inner : TypeExpr)
  | record (r : RecordType)

/-- A record type with its fields. It is written as its name alone, and what is declared
under that name may be the record of another annotation. -/
structure RecordType where
  name : String
  fields : List Field

/-- A field of a class. -/
structure Field where
  name : String
  type : TypeExpr
  required : Bool := true

end

deriving instance BEq, Repr for TypeExpr, RecordType, Field

instance : Inhabited TypeExpr := ⟨.named ""⟩

mutual

/-- An expression. A lambda takes no arguments. An object without a
constructor is a dictionary; with one its entries are the attributes of a new
instance. -/
inductive Expr where
  | name (id : String)
  | literal (value : Json)
  | call (func : Expr) (args : List Expr)
  | lambda (body : Expr)
  | await (value : Expr)
  | object (entries : List Entry) (maker? : Option String)

/-- An entry of an object: a key and its value, or all entries of another
object, which may be missing if it is optional. -/
inductive Entry where
  | property (key : String) (value : Expr)
  | spread (value : Expr) (optional : Bool)

end

deriving instance BEq, Repr for Expr, Entry

instance : Inhabited Expr := ⟨.name ""⟩

/-- A parameter of a function. -/
structure Param where
  name : String
  type? : Option TypeExpr := none
  default? : Option Expr := none
deriving BEq, Repr

/-- The documentation of a declaration. -/
structure DocBlock where
  summary : List String := []
  args : List String := []
  returns? : Option String := none
deriving BEq, Repr

/-- A function without its body. -/
structure Signature where
  name : String
  params : List Param := []
  returns? : Option TypeExpr := none
  doc? : Option DocBlock := none
  async : Bool := false
deriving BEq, Repr

mutual

/-- A statement. -/
inductive Statement where
  | ret (value : Expr)
  | assign (target : String) (value : Expr)
  | function (f : FunctionDef)
  | classDecl (c : ClassDecl)
  | text (name value : String)

/-- A function, perhaps inside another one. -/
structure FunctionDef where
  signature : Signature
  body : List Statement

/-- A class with typed fields and methods. -/
structure ClassDecl where
  name : String
  bases : List String
  fields : List Field
  methods : List FunctionDef
  doc? : Option DocBlock

end

deriving instance BEq, Repr for Statement, FunctionDef, ClassDecl

namespace FunctionDef

/-- The name of a function. -/
def name (f : FunctionDef) : String := f.signature.name

/-- The parameters of a function. -/
def params (f : FunctionDef) : List Param := f.signature.params

end FunctionDef

/-- The record type that a class declares. -/
def ClassDecl.recordType (c : ClassDecl) : RecordType := ⟨c.name, c.fields⟩

namespace Statement

/-- The statement declares a function. -/
def isFunction : Statement → Bool
  | .function _ => true
  | _ => false

end Statement
end Code
end ChainedSdk
