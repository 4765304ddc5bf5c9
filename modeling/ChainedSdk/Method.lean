/-
# The method of an operation

An operation becomes a method that sends the operation's document and
variables through the wrapped requester. The id is an argument of its own, the
other variables go into one argument; a child finds the id in the scope around
it. A parent also makes the API of its chain key and returns it merged with
the response.

    async def team(id: str, options: Optional[RequestOptions] = None) -> TeamQueryResult:
        response = await wrapper(lambda: requester(TeamDocument, {"id": id}, options))
        return cast(TeamQueryResult, OperationSet(**{
            **vars(response),
            **vars(create_team_sdk(id, requester, wrapper)),
        }))

Building a method leaves behind the record type of the variables without the
id, the protocol of a parent's result, and the scalars that occur.

Key definitions: `Conventions`, `Conventions.typeHint`,
`Conventions.operationArgs`, `Conventions.requesterArgs`, `Conventions.body`,
`methodName`, `Conventions.method`.
-/
import ChainedSdk.ArgList
import ChainedSdk.Emit
import ChainedSdk.Role
import ChainedSdk.Text.Snake

namespace ChainedSdk

open Code (TypeExpr Expr Entry Field Statement FunctionDef ClassDecl)

/-- The configuration and the scalars in force. -/
structure Conventions where
  config : Config
  scalars : ScalarRegistry

/-- The conventions of a configuration, with the scalars it names. -/
def Config.conventions (c : Config) : Conventions :=
  ⟨c, ScalarRegistry.withAliases c.scalars⟩

/-- Why the code of an operation or API cannot be built. -/
inductive BuildError where
  | template (e : TemplateError)
  | clash (first second method api : String)
deriving DecidableEq, Repr

/-- The error in words. -/
def BuildError.message : BuildError → String
  | template e => e.message
  | clash first second method api =>
    "Operations " ++ Text.quote first ++ " and " ++ Text.quote second
      ++ " both map to the method " ++ Text.quote method ++ " of " ++ api

/-- The outcome of filling a template, while building. -/
def fromTemplate {α : Type} (x : Except TemplateError α) : Emit BuildError α :=
  .ofExcept (x.mapError .template)

namespace Conventions

variable (s : Conventions)

/-! ### Annotations -/

/-- The annotation of a named type. -/
def typeHint (name : String) : TypeExpr :=
  match s.scalars.hint? name with
  | some text => .named text
  | none => .named (if name = unknownTypeName then name else s.config.namespacedType name)

/-- What the annotation of a named type leaves behind. -/
def uses (name : String) : List (Effect BuildError) :=
  if (s.scalars.handler? name).isSome then [.scalar name] else []

/-- The annotation of a type reference. What may be null is optional. -/
def refHint (nullable : Bool) : GraphQL.TypeRef → TypeExpr
  | .nonNull inner => refHint false inner
  | .list item =>
    let list := TypeExpr.generic "list" [refHint true item]
    if nullable then .optional list else list
  | .named name => if nullable then .optional (s.typeHint name) else s.typeHint name

/-- The annotation of a variable's type. -/
def variableHint (t : GraphQL.TypeRef) : TypeExpr :=
  s.refHint true t

/-- The annotation of a type as it is handed in. A bare name stands for
itself. -/
def givenHint : GivenType → TypeExpr
  | .ref t => s.variableHint t
  | other => .optional (.named other.name)

/-- Annotates a named type. -/
def annotateName (name : String) : Emit BuildError TypeExpr :=
  ⟨s.uses name, .ok (s.typeHint name)⟩

/-- Annotates a type as it is handed in. -/
def annotate (t : GivenType) : Emit BuildError TypeExpr :=
  let effects :=
    match t with
    | .ref t => s.uses t.innermost
    | _ => []
  ⟨effects, .ok (s.givenHint t)⟩

/-- The annotation of an operation's result, of the types module. -/
def dataType (o : SdkOperation) : TypeExpr :=
  .named (s.config.namespacedType o.resultType)

/-- The annotation of the response to an operation. -/
def responseType (o : SdkOperation) : TypeExpr :=
  .generic s.config.responseType [s.dataType o]

/-! ### Declarations -/

/-- The field of a record for a variable. -/
def variableField (v : GraphQL.VariableDefinition) : Field :=
  { name := v.name, type := s.variableHint v.type, required := !v.isOptional }

/-- The record of an operation's variables without the id, under its name. -/
def omitRecord (o : SdkOperation) (name : String) : ClassDecl where
  name := name
  bases := [Code.recordBase]
  fields := (o.definition.otherVariables s.config.idName).map s.variableField
  methods := []
  doc? := some { summary :=
    [o.variablesType ++ " without the " ++ s.config.idName ++ " variable"] }

/-- Declares the record of an operation's variables without the id. -/
def declareOmit (o : SdkOperation) : Emit BuildError ClassDecl := do
  let name ← fromTemplate (s.config.omitTypeName o.variablesType s.config.idName)
  let record := s.omitRecord o name
  Emit.tell ((o.definition.otherVariables s.config.idName).flatMap fun v =>
    s.uses v.type.innermost)
  Emit.tell [.record record]
  return record

/-- The protocol of a parent's result, under its name: the API's type with the
fields of the response. -/
def resultProtocol (o : SdkOperation) (key name apiType : String) : ClassDecl where
  name := name
  bases := [apiType, "Protocol"]
  fields :=
    [{ name := "status", type := .named s.config.statusType },
      { name := "data", type := .optional (s.dataType o) },
      { name := "error", type := .optional (.named "Exception") }]
  methods := []
  doc? := some { summary :=
    ["The " ++ o.resultType ++ " response with the operations scoped to " ++ key] }

/-- Declares the protocol of a parent's result and gives its name. The API's
type is named only if the result is new. -/
def declareResult (o : SdkOperation) (key : String) : Emit BuildError String := do
  let name ← fromTemplate (s.config.chainResultName o.resultType)
  let apiType := (s.config.apiTypeName (some key)).mapError BuildError.template
  Emit.tell [.result name (apiType.map (s.resultProtocol o key name))]
  return name

/-! ### Arguments -/

/-- What the argument of the variables is said to be for. -/
def variablesDescription (o : SdkOperation) : String :=
  match present o.role.childKey? with
  | some key =>
    "variables without " ++ key ++ " " ++ s.config.idName ++ " to pass into the " ++ o.resultType
  | none => "variables without " ++ s.config.idName ++ " to pass into the " ++ o.resultType

/-- The argument of the id, whose type has the given name. -/
def idArg (o : SdkOperation) (typeName : String) : Arg where
  name := s.config.idName
  type := s.typeHint typeName
  description := s.config.idName ++ " to pass into the " ++ o.resultType

/-- The arguments for the variables of an operation. -/
def operationArgs (o : SdkOperation) : Emit BuildError (List Arg) := do
  let isChild := (present o.role.childKey?).isSome
  match o.definition.namedVariable? s.config.idName with
  | some v =>
    Emit.tell (s.uses v.type.innermost)
    let idArgs := if isChild then [] else [s.idArg o v.type.innermost]
    if o.definition.declaresOther s.config.idName then
      let record ← s.declareOmit o
      let variablesArg : Arg :=
        { name := s.config.variablesName
          type := .record record.recordType
          optional := o.definition.hasOptional
          description := s.variablesDescription o }
      return idArgs ++ [variablesArg]
    else return idArgs
  | none =>
    if o.definition.declared.isEmpty then return []
    else
      return [{
        name := s.config.variablesName
        type := .named (s.config.namespacedType o.variablesType)
        optional := o.definition.hasOptional
        description := "variables to pass into the " ++ o.resultType }]

/-- The variables as they are passed to the requester. -/
def requesterArgs (o : SdkOperation) : Expr :=
  if o.definition.declares s.config.idName then
    let id := Entry.property s.config.idName (.name s.config.idName)
    let others :=
      if o.definition.declaresOther s.config.idName then
        [Entry.spread (.name s.config.variablesName) o.definition.hasOptional]
      else []
    .object (id :: others) none
  else if o.definition.declared.isEmpty then .object [] none
  else .name s.config.variablesName

/-! ### Bodies -/

/-- The call of the requester in the wrapper. -/
def requesterCall (o : SdkOperation) : Expr :=
  .call (.name s.config.wrapperName)
    [.lambda (.call (.name s.config.requesterName)
      [.name (s.config.namespacedDocument o.documentName), s.requesterArgs o,
        .name s.config.optionsName])]

/-- The statements of an operation's method. -/
def body (o : SdkOperation) : Emit BuildError (List Statement) := do
  match present o.role.parentKey? with
  | none => return [.ret (s.requesterCall o)]
  | some key =>
    let apiFunction ← fromTemplate (s.config.apiFunctionName (some key))
    let result ← s.declareResult o key
    let chained : Expr := .call (.name apiFunction)
      [.name s.config.idName, .name s.config.requesterName, .name s.config.wrapperName]
    return [
      .assign s.config.responseName (.await (s.requesterCall o)),
      .ret (.call (.name "cast")
        [.name result,
          .object [.spread (.name s.config.responseName) false, .spread chained false]
            (some s.config.operationSetType)])]

/-- The annotation of what an operation's method returns. -/
def resultType (o : SdkOperation) : Emit BuildError TypeExpr := do
  match present o.role.parentKey? with
  | some key => return .named (← s.declareResult o key)
  | none => return .generic "Awaitable" [s.responseType o]

end Conventions

/-! ### Names -/

/-- The name without a start that it has when case does not count. -/
def stripStart (name start : String) : String :=
  if startsIgnoringCase name start then
    String.ofList (name.toList.drop start.toList.length)
  else name

/-- The name of an operation's method. A child's name loses the chain key it
starts with, unless what is left is no identifier. -/
def methodName (o : SdkOperation) : String :=
  let whole := Text.lowerFirst o.name
  let chosen :=
    match present o.role.childKey? with
    | some key =>
      let rest := Text.lowerFirst (stripStart o.name key)
      if Text.isIdentifier rest then rest else whole
    | none => whole
  Text.escapeName (Text.snakeCase chosen)

namespace Conventions

variable (s : Conventions)

/-- The argument of the options. -/
def optionsArg : Arg where
  name := s.config.optionsName
  type := .named s.config.optionsType
  optional := true
  description := "options to pass to the graphql client"

/-- The method of an operation, under a name that may differ from the name of
the method. -/
def method (o : SdkOperation) (name : String) : Emit BuildError FunctionDef := do
  let given := (← s.operationArgs o) ++ [s.optionsArg]
  let args := ArgList.ofArgs (given.map some)
  Emit.tell ((duplicateLog (given.map some)).map .log)
  Emit.tell [.log (.core .debug "synthesizer" ((present o.role.key?).getD "root" ++ ": " ++ o.name
    ++ "(" ++ Text.joinWith ", " args.names ++ ")"))]
  let returns ← s.resultType o
  let body ← s.body o
  return {
    signature := {
      name
      params := args.params
      returns? := some returns
      doc? := some (args.docBlock
        ["Call the " ++ s.config.sdkName ++ " api with the " ++ o.resultType]
        (some ("The wrapped result of the " ++ o.resultType)))
      async := o.role.level == .parent }
    body }

end Conventions
end ChainedSdk
