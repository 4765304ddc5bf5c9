/-
# The text of a generated module

A module starts with a docstring and its imports: those of the language, of
the scalars that occur, of the runtime, and of the modules that provide
documents and types. The documents, records, APIs and results follow, each
after two empty lines.

    """Auto-generated Linear sdk.

    Generated by gql-sdkgen, do not edit.
    """

    from __future__ import annotations

Key definitions: `Config.runtimeNames`, `SdkModule`, `SdkModule.text`.
-/
import ChainedSdk.Code.Builtin
import ChainedSdk.Config.Basic
import ChainedSdk.Text.Identifier

namespace ChainedSdk

/-- The names that the runtime module provides, in order: those configured
that can be imported and have to be. -/
def Config.runtimeNames (c : Config) : List String :=
  Text.sortedSet
    ([c.requesterType, c.wrapperType, c.wrapperDefault, c.responseType, c.statusType,
      c.optionsType, c.operationSetType].filter fun name =>
        Text.isIdentifier name && !Code.isBuiltin name)

/-- What a module is made of, besides its configuration. -/
structure SdkModule where
  config : Config
  scalarImports : List String
  documents : List String
  records : List String
  apis : List String
  results : List String
deriving Repr

namespace SdkModule

/-- A line of its own. -/
def line (s : String) : String :=
  s ++ "\n"

/-- The names that every module imports from `typing`. -/
def typingNames : List String :=
  ["TYPE_CHECKING", "Any", "Awaitable", "NotRequired", "Optional", "Protocol", "TypedDict", "cast"]

/-- The docstring of a module. -/
def docstring (sdkName : String) : String :=
  "\"\"\"Auto-generated " ++ sdkName ++ " sdk.\n\nGenerated by gql-sdkgen, do not edit.\n\"\"\"\n"

/-- The docstring and the imports that every module has. -/
def opening (sdkName : String) : String :=
  docstring sdkName ++ "\nfrom __future__ import annotations\n\n"
    ++ line ("from typing import " ++ Text.joinWith ", " typingNames)

/-- The import of names from a module, one a line; none without names. -/
def namesImport (module : String) (names : List String) : String :=
  if names.isEmpty then ""
  else
    line ("from " ++ module ++ " import (")
      ++ Text.joinWith "" (names.map fun name => line ("    " ++ name ++ ","))
      ++ line ")"

/-- The import of a whole module, under a name or with all its names. -/
def wholeImport (module : String) (name? : Option String) : String :=
  match present name? with
  | some name => "import " ++ module ++ " as " ++ name
  | none => "from " ++ module ++ " import *"

/-- The import of the module that provides the documents. -/
def documentsImport (c : Config) : String :=
  match present c.documentsModule? with
  | some module => line (wholeImport module c.documentsNamespace?)
  | none => ""

/-- The import of the module that provides the types, which only a checker of
types runs. -/
def typesImport (c : Config) : String :=
  match present c.typesModule? with
  | some module =>
    "\nif TYPE_CHECKING:\n" ++ line ("    " ++ wholeImport module c.typesNamespace?)
  | none => ""

/-- A declaration after two empty lines. -/
def block (declaration : String) : String :=
  "\n\n" ++ line declaration

/-- The text of a module. -/
def text (m : SdkModule) : String :=
  opening m.config.sdkName
    ++ Text.joinWith "" (m.scalarImports.map line)
    ++ "\n"
    ++ namesImport m.config.runtimeModule m.config.runtimeNames
    ++ documentsImport m.config
    ++ typesImport m.config
    ++ Text.joinWith "" ((m.documents ++ m.records ++ m.apis ++ m.results).map block)

end SdkModule
end ChainedSdk
