/-
# The configuration of an SDK

Every naming convention of the generated code is a setting: the names of
parameters and types, the templates from which the names of APIs, results and
documents are made, and the modules that provide types and documents.

Key definitions: `Config`, `Config.apiFunctionName`, `Config.apiTypeName`,
`Config.operationNames`, `Config.namespacedType`, `Config.namespacedDocument`.
-/
import ChainedSdk.Template
import ChainedSdk.Text.Case

namespace ChainedSdk

/-- The conventions of a generated module. -/
structure Config where
  idName : String := "id"
  idType : String := "ID"
  variablesName : String := "variables"
  requesterName : String := "requester"
  requesterType : String := "Requester"
  wrapperName : String := "wrapper"
  wrapperType : String := "Wrapper"
  wrapperDefault : String := "default_wrapper"
  responseName : String := "response"
  responseType : String := "Response"
  statusType : String := "Status"
  optionsName : String := "options"
  optionsType : String := "RequestOptions"
  operationSetType : String := "OperationSet"
  sdkName : String := "GraphQL"
  apiFunctionTemplate : String := "create_\x7bkey\x7d_sdk"
  apiRootFunction : String := "create_raw_sdk"
  apiTypeTemplate : String := "\x7bKey\x7dSdk"
  apiRootType : String := "Sdk"
  chainResultTemplate : String := "\x7bType\x7dResult"
  documentTemplate : String := "\x7bName\x7dDocument"
  resultTypeTemplate : String := "\x7bName\x7d\x7bOperation\x7d"
  variablesTypeTemplate : String := "\x7bName\x7d\x7bOperation\x7dVariables"
  omitTypeTemplate : String := "\x7bType\x7dWithout\x7bKey\x7d"
  typesModule? : Option String := none
  typesNamespace? : Option String := none
  documentsModule? : Option String := none
  documentsNamespace? : Option String := none
  runtimeModule : String := "gql_sdkgen.runtime"
  scalars : List (String × String) := []
deriving DecidableEq, Repr

/-- The names of what is generated for an operation. -/
structure OperationNames where
  document : String
  resultType : String
  variablesType : String
deriving DecidableEq, Repr

/-- A name that is there and not empty. -/
def present (name? : Option String) : Option String :=
  name?.filter (· ≠ "")

namespace Config

/-- The values for templates that name an API by its chain key. -/
def keyValues (key : String) : List (String × String) :=
  [("key", key), ("Key", Text.upperFirst key)]

/-- The name of the function that makes the API of a chain key, or the root
API. -/
def apiFunctionName (c : Config) (key? : Option String) : Except TemplateError String :=
  match present key? with
  | none => .ok c.apiRootFunction
  | some key => Template.fill c.apiFunctionTemplate (keyValues key)

/-- The name of the type of the API of a chain key, or of the root API. -/
def apiTypeName (c : Config) (key? : Option String) : Except TemplateError String :=
  match present key? with
  | none => .ok c.apiRootType
  | some key => Template.fill c.apiTypeTemplate (keyValues key)

/-- The name of the type that an operation with a chained API resolves to. -/
def chainResultName (c : Config) (resultType : String) : Except TemplateError String :=
  Template.fill c.chainResultTemplate [("Type", resultType)]

/-- The names of an operation's document and types. -/
def operationNames (c : Config) (name kind : String) : Except TemplateError OperationNames := do
  let values := [("Name", Text.upperFirst name), ("Operation", Text.upperFirst kind)]
  return {
    document := ← Template.fill c.documentTemplate values
    resultType := ← Template.fill c.resultTypeTemplate values
    variablesType := ← Template.fill c.variablesTypeTemplate values }

/-- The name of a variables type that lacks a variable. -/
def omitTypeName (c : Config) (type key : String) : Except TemplateError String :=
  Template.fill c.omitTypeTemplate [("Type", type), ("Key", Text.upperFirst key)]

/-- A type of the types module, as the generated module refers to it. -/
def namespacedType (c : Config) (name : String) : String :=
  match present c.typesNamespace? with
  | some ns => ns ++ "." ++ name
  | none => name

/-- A document, as the generated module refers to it: only documents that come
from a module of their own can have a namespace. -/
def namespacedDocument (c : Config) (name : String) : String :=
  match present c.documentsModule?, present c.documentsNamespace? with
  | some _, some ns => ns ++ "." ++ name
  | _, _ => name

end Config
end ChainedSdk
