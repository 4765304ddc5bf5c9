/-
# Scalars

The annotation of a GraphQL scalar comes from the scalars of the language
itself, then from the aliases of the configuration, then from the registered
handlers. A handler's annotation needs an import; the registry remembers the
names that were answered by a handler, so that only what is needed is
imported.

Key definitions: `ScalarRegistry`, `ScalarRegistry.hint?`,
`ScalarRegistry.resolve`, `ScalarRegistry.usedImports`.
-/
import ChainedSdk.Assoc
import ChainedSdk.Text.Basic

namespace ChainedSdk

/-- How a scalar is annotated, and the import the annotation needs. -/
structure ScalarHandler where
  hint : String
  importLine : String
deriving DecidableEq, Repr

/-- The scalars of GraphQL itself and their annotations. -/
def builtinScalars : List (String × String) :=
  [("ID", "str"), ("String", "str"), ("Int", "int"), ("Float", "float"), ("Boolean", "bool")]

/-- The handlers every registry starts with. -/
def defaultHandlers : List (String × ScalarHandler) :=
  [("DateTime", ⟨"datetime", "from datetime import datetime"⟩),
    ("Date", ⟨"date", "from datetime import date"⟩),
    ("UUID", ⟨"UUID", "from uuid import UUID"⟩),
    ("JSON", ⟨"Any", "from typing import Any"⟩),
    ("JSONObject", ⟨"Any", "from typing import Any"⟩)]

/-- The known scalars, and the names that a handler has answered. -/
structure ScalarRegistry where
  aliases : List (String × String)
  handlers : List (String × ScalarHandler)
  used : List String
deriving DecidableEq, Repr

namespace ScalarRegistry

/-- The registry with aliases and the default handlers. -/
def withAliases (aliases : List (String × String)) : ScalarRegistry :=
  ⟨aliases, defaultHandlers, []⟩

/-- The registry with a handler for a name, in place of an earlier one. -/
def register (r : ScalarRegistry) (name : String) (handler : ScalarHandler) : ScalarRegistry :=
  { r with handlers := Assoc.put name handler r.handlers }

/-- The handler that answers for a name: neither the language nor an alias
does. -/
def handler? (r : ScalarRegistry) (name : String) : Option ScalarHandler :=
  if Assoc.has name builtinScalars || Assoc.has name r.aliases then none
  else Assoc.get? name r.handlers

/-- The annotation of a scalar. -/
def hint? (r : ScalarRegistry) (name : String) : Option String :=
  match Assoc.get? name builtinScalars with
  | some hint => some hint
  | none =>
    match Assoc.get? name r.aliases with
    | some hint => some hint
    | none => (Assoc.get? name r.handlers).map (·.hint)

/-- The registry after a name was answered by a handler. -/
def markUsed (r : ScalarRegistry) (name : String) : ScalarRegistry :=
  if r.used.contains name then r else { r with used := r.used ++ [name] }

/-- The annotation of a scalar, and the registry after the answer. -/
def resolve (r : ScalarRegistry) (name : String) : Option String × ScalarRegistry :=
  (r.hint? name, if (r.handler? name).isSome then r.markUsed name else r)

/-- The imports of the handlers that answered, in order. -/
def usedImports (r : ScalarRegistry) : List String :=
  Text.sortedSet (r.used.filterMap fun name => (Assoc.get? name r.handlers).map (·.importLine))

end ScalarRegistry
end ChainedSdk
