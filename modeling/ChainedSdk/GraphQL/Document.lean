/-
# GraphQL documents

A document is a list of definitions: operations, fragments, and definitions
of a type system, which are read and written but mean nothing to an SDK.
Numbers keep the text they are written with. A field without a selection set
has no selections; a selection set is never empty.

Key definitions: `TypeRef`, `Value`, `Selection`, `Operation`, `Fragment`,
`Definition`, `Document`.
-/
namespace ChainedSdk
namespace GraphQL

/-- What an operation does. -/
inductive OperationKind where
  | query
  | mutation
  | subscription
deriving DecidableEq, Repr

/-- The word an operation starts with. -/
def OperationKind.word : OperationKind → String
  | .query => "query"
  | .mutation => "mutation"
  | .subscription => "subscription"

/-- A reference to a type. -/
inductive TypeRef where
  | named (name : String)
  | list (item : TypeRef)
  | nonNull (inner : TypeRef)
deriving DecidableEq, Repr

/-- A value, which may use variables. -/
inductive Value where
  | variable (name : String)
  | int (text : String)
  | float (text : String)
  | string (text : String) (block : Bool)
  | boolean (b : Bool)
  | null
  | enum (name : String)
  | list (items : List Value)
  | object (fields : List (String × Value))
deriving BEq, Repr

/-- A named value. -/
structure Argument where
  name : String
  value : Value
deriving BEq, Repr

/-- An annotation of a definition or selection. -/
structure Directive where
  name : String
  arguments : List Argument
deriving BEq, Repr

/-- A variable that an operation declares. -/
structure VariableDefinition where
  name : String
  type : TypeRef
  default? : Option Value
  directives : List Directive
deriving BEq, Repr

/-- One item of a selection set. -/
inductive Selection where
  | field (alias? : Option String) (name : String) (arguments : List Argument)
      (directives : List Directive) (selections : List Selection)
  | spread (name : String) (directives : List Directive)
  | inline (typeCondition? : Option String) (directives : List Directive)
      (selections : List Selection)
deriving BEq, Repr

/-- An operation definition. -/
structure Operation where
  kind : OperationKind
  name? : Option String
  declared : List VariableDefinition
  directives : List Directive
  selections : List Selection
deriving BEq, Repr

/-- A fragment definition. -/
structure Fragment where
  name : String
  typeCondition : String
  directives : List Directive
  selections : List Selection
deriving BEq, Repr

/-- The description in front of a definition. -/
structure Description where
  text : String
  block : Bool
deriving BEq, Repr

/-- An argument or input field of a type system. -/
structure InputValue where
  description? : Option Description
  name : String
  type : TypeRef
  default? : Option Value
  directives : List Directive
deriving BEq, Repr

/-- A field of an object type or interface. -/
structure FieldDefinition where
  description? : Option Description
  name : String
  arguments : List InputValue
  type : TypeRef
  directives : List Directive
deriving BEq, Repr

/-- A value of an enum type. -/
structure EnumValue where
  description? : Option Description
  name : String
  directives : List Directive
deriving BEq, Repr

/-- What a type system definition defines. -/
inductive SystemForm where
  | schema (operationTypes : List (OperationKind × String))
  | scalar
  | object (interfaces : List String) (fields : List FieldDefinition)
  | interface (interfaces : List String) (fields : List FieldDefinition)
  | union (members : List String)
  | enum (values : List EnumValue)
  | input (fields : List InputValue)
  | directive (arguments : List InputValue) (repeatable : Bool) (locations : List String)
deriving BEq, Repr

/-- A definition of a type system, or an extension of one. A schema has no
name, a directive no directives. -/
structure SystemDefinition where
  description? : Option Description
  isExtension : Bool
  name? : Option String
  directives : List Directive
  form : SystemForm
deriving BEq, Repr

/-- A definition of a document. -/
inductive Definition where
  | operation (o : Operation)
  | fragment (f : Fragment)
  | system (d : SystemDefinition)
deriving BEq, Repr

/-- A document. -/
structure Document where
  definitions : List Definition
deriving BEq, Repr

namespace Document

/-- The operations, in order. -/
def operations (d : Document) : List Operation :=
  d.definitions.filterMap fun
    | .operation o => some o
    | _ => none

/-- The fragments, in order. -/
def fragments (d : Document) : List Fragment :=
  d.definitions.filterMap fun
    | .fragment f => some f
    | _ => none

/-- The definitions of several documents, one after the other. -/
def concat (ds : List Document) : Document :=
  ⟨ds.flatMap (·.definitions)⟩

end Document

/-- The name of a definition. -/
def Definition.name? : Definition → Option String
  | .operation o => o.name?
  | .fragment f => some f.name
  | .system d => d.name?

/-- The name of a definition's kind. -/
def Definition.kindName : Definition → String
  | .operation _ => "operation_definition"
  | .fragment _ => "fragment_definition"
  | .system d =>
    let ending := if d.isExtension then "_extension" else "_definition"
    match d.form with
    | .schema _ => "schema" ++ ending
    | .scalar => "scalar_type" ++ ending
    | .object .. => "object_type" ++ ending
    | .interface .. => "interface_type" ++ ending
    | .union _ => "union_type" ++ ending
    | .enum _ => "enum_type" ++ ending
    | .input _ => "input_object_type" ++ ending
    | .directive .. => "directive_definition"

end GraphQL
end ChainedSdk
