/-
# The names inside type references

The innermost name of a type reference decides its annotation; whether it is
a list decides the rest. A type may also be given by its bare name, or as
something that is no type at all, which gets a name that stands out in the
generated code.

Key definitions: `GraphQL.TypeRef.innermost`, `GraphQL.TypeRef.itemName?`,
`GivenType`.
-/
import ChainedSdk.GraphQL.Document
import ChainedSdk.Log

namespace ChainedSdk

namespace GraphQL.TypeRef

/-- The innermost name. -/
def innermost : TypeRef → String
  | named name => name
  | list item => item.innermost
  | nonNull inner => inner.innermost

/-- The innermost name of the items, if the reference is to a list. -/
def itemName? : TypeRef → Option String
  | named _ => none
  | list item => some item.innermost
  | nonNull inner => inner.itemName?

/-- Null is no value of the type. -/
def isNonNull : TypeRef → Bool
  | nonNull _ => true
  | _ => false

end GraphQL.TypeRef

/-- The name of a type that cannot be told. -/
def unknownTypeName : String := "UNKNOWN_TYPE_NAME"

/-- A type as it is handed in. -/
inductive GivenType where
  | ref (t : GraphQL.TypeRef)
  | bare (name : String)
  | unreadable
deriving DecidableEq, Repr

namespace GivenType

/-- The innermost name. -/
def name : GivenType → String
  | ref t => t.innermost
  | bare name => name
  | unreadable => unknownTypeName

/-- The innermost name of the items, if the type is a list. -/
def itemName? : GivenType → Option String
  | ref t => t.itemName?
  | _ => none

/-- What asking for the name of the type reports. -/
def log : GivenType → List LogRecord
  | unreadable =>
    [.core .warning "types" ("Unknown type node, using " ++ unknownTypeName)]
  | _ => []

end GivenType
end ChainedSdk
