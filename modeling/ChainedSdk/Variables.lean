/-
# The variables of an operation

Which variables an operation declares, which of them may be left out, and
which one is the id: it has the name and the type that the configuration
gives to ids.

Key definitions: `GraphQL.VariableDefinition.isOptional`,
`GraphQL.VariableDefinition.isId`, `GraphQL.Operation.declares`,
`GraphQL.Operation.hasId`, `GraphQL.Operation.otherVariables`.
-/
import ChainedSdk.Config.Basic
import ChainedSdk.TypeName

namespace ChainedSdk
namespace GraphQL

namespace VariableDefinition

/-- The variable may be left out: null is a value of its type, or it has a
default. -/
def isOptional (v : VariableDefinition) : Bool :=
  !v.type.isNonNull || v.default?.isSome

/-- The variable is the id. -/
def isId (c : Config) (v : VariableDefinition) : Bool :=
  v.name = c.idName && v.type.innermost = c.idType

end VariableDefinition

namespace Operation

/-- A variable of this name is declared. -/
def declares (o : Operation) (name : String) : Bool :=
  o.declared.any (·.name = name)

/-- A variable of any other name is declared. -/
def declaresOther (o : Operation) (name : String) : Bool :=
  o.declared.any (·.name ≠ name)

/-- A variable may be left out. -/
def hasOptional (o : Operation) : Bool :=
  o.declared.any (·.isOptional)

/-- The id is declared. -/
def hasId (o : Operation) (c : Config) : Bool :=
  o.declared.any (·.isId c)

/-- The first variable of this name. -/
def namedVariable? (o : Operation) (name : String) : Option VariableDefinition :=
  o.declared.find? (·.name = name)

/-- The variables of other names, in order. -/
def otherVariables (o : Operation) (name : String) : List VariableDefinition :=
  o.declared.filter (·.name ≠ name)

/-- The name of the first field that is selected; spreads are passed over. -/
def firstField? (o : Operation) : Option String :=
  o.selections.findSome? fun
    | .field _ name _ _ _ => some name
    | _ => none

end Operation
end GraphQL
end ChainedSdk
