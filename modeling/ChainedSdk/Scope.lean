/-
# The APIs of an SDK

An SDK has a root API, with the root and parent operations, and an API for
each chain key, with its children. An API is a function that returns the
methods of its operations, and a protocol that names them. A method whose name
is also that of a parameter of the function is declared under another name
inside it. Two operations of one API cannot have methods of one name.

Key definitions: `Scope`, `Scope.accepts`, `Scope.build`, `chainKeys`,
`buildApis`.
-/
import ChainedSdk.Method

namespace ChainedSdk

open Code (TypeExpr Expr Entry Param Statement FunctionDef ClassDecl)

/-- The API of one scope. -/
structure ScopedApi where
  key? : Option String
  functionName : String
  typeName : String
  operations : List SdkOperation
  function : FunctionDef
  protocol : ClassDecl

/-- The declarations of an API: its protocol, then its function. -/
def ScopedApi.declarations (a : ScopedApi) : List Statement :=
  [.classDecl a.protocol, .function a.function]

/-- The operations collected for one scope, and the names of its API. -/
structure Scope where
  conventions : Conventions
  key? : Option String
  functionName : String
  typeName : String
  operations : List SdkOperation

/-- A log record about a scope. -/
def scopeLog (key? : Option String) (message : String) : Effect BuildError :=
  .log (.core .debug "visitor" ((present key?).getD "root" ++ ": " ++ message))

namespace Scope

/-- The scope of a chain key, or the root, without operations. -/
def empty (s : Conventions) (key? : Option String) : Emit BuildError Scope := do
  let functionName ← fromTemplate (s.config.apiFunctionName key?)
  let typeName ← fromTemplate (s.config.apiTypeName key?)
  Emit.tell [scopeLog key? ("apiName " ++ functionName), scopeLog key? ("apiType " ++ typeName)]
  return ⟨s, key?, functionName, typeName, []⟩

/-- The operation belongs to the scope of a chain key, or to the root. -/
def accepts (key? : Option String) (o : SdkOperation) : Bool :=
  match key? with
  | none => o.role.level == .root || o.role.level == .parent
  | some key => o.role == .child key

/-- The scope with one more operation, if the operation belongs to it. -/
def visit (s : Scope) (o : SdkOperation) : Scope :=
  if accepts s.key? o then { s with operations := s.operations ++ [o] } else s

/-- The scope with the operations that belong to it. -/
def visitAll (s : Scope) (os : List SdkOperation) : Scope :=
  os.foldl visit s

/-- What the API is for. -/
def description (s : Scope) : String :=
  let sdk := s.conventions.config.sdkName
  match present s.key? with
  | some key =>
    "Initialise a set of operations, scoped to " ++ key ++ ", to run against the " ++ sdk ++ " api"
  | none => "Initialise a set of operations to run against the " ++ sdk ++ " api"

/-- The arguments of the API's function. -/
def givenArgs (s : Scope) : List (Option Arg) :=
  let c := s.conventions.config
  let idArg : Arg :=
    { name := c.idName
      type := s.conventions.typeHint c.idType
      description := c.idName ++ " to scope the returned operations by" }
  [ (present s.key?).map fun _ => idArg,
    some {
      name := c.requesterName
      type := .named c.requesterType
      description := "function to call the graphql client" },
    some {
      name := c.wrapperName
      type := .named c.wrapperType
      default? := some (.name c.wrapperDefault)
      description := "wrapper function to process before or after the operation is called" } ]

/-- The argument list of the API's function. -/
def args (s : Scope) : Emit BuildError ArgList := do
  if (present s.key?).isSome then
    Emit.tell (s.conventions.uses s.conventions.config.idType)
  Emit.tell ((duplicateLog s.givenArgs).map .log)
  return ArgList.ofArgs s.givenArgs

/-- A method of an API: its name, the operation it is for, and its function,
which may have another name. -/
structure Member where
  name : String
  operation : SdkOperation
  function : FunctionDef

namespace Member

/-- The method in the protocol: without a body, and called on an object. -/
def stub (m : Member) : FunctionDef :=
  { signature :=
      { m.function.signature with
        name := m.name
        params := { name := "self" } :: m.function.params }
    body := [] }

/-- The attribute of the returned object. -/
def entry (m : Member) : Entry :=
  .property m.name (.name m.function.name)

end Member

/-- The name of the function of a method: not that of a parameter around it. -/
def innerName (scopeNames : List String) (name : String) : String :=
  if scopeNames.contains name then "_" ++ name else name

/-- The methods of operations, given the names that are taken and the
operations that took them. -/
def members (s : Scope) (scopeNames : List String) (taken : List (String × SdkOperation)) :
    List SdkOperation → Emit BuildError (List Member)
  | [] => return []
  | o :: rest => do
    let name := methodName o
    match Assoc.get? name taken with
    | some other => Emit.fail (.clash other.name o.name name s.functionName)
    | none =>
      let function ← s.conventions.method o (innerName scopeNames name)
      let more ← members s scopeNames (taken ++ [(name, o)]) rest
      return ⟨name, o, function⟩ :: more

/-- What the API's function is said to return. -/
def returnsText (s : Scope) : String :=
  match present s.key? with
  | some key => "The set of available operations scoped to a single " ++ key
  | none => "The set of available operations"

/-- The API's function, from its arguments and methods. -/
def apiFunction (s : Scope) (args : ArgList) (ms : List Member) : FunctionDef where
  signature := {
    name := s.functionName
    params := args.params
    returns? := some (.named s.typeName)
    doc? := some (args.docBlock [s.description] (some s.returnsText)) }
  body := ms.map (fun m => Statement.function m.function) ++
    [.ret (.call (.name "cast")
      [.name s.typeName,
        .object (ms.map Member.entry) (some s.conventions.config.operationSetType)])]

/-- The API's protocol, from its methods. -/
def apiProtocol (s : Scope) (ms : List Member) : ClassDecl where
  name := s.typeName
  bases := ["Protocol"]
  fields := []
  methods := ms.map Member.stub
  doc? := some { summary :=
    ["The returned type from calling " ++ s.functionName, s.description] }

/-- Builds the API of a scope. -/
def build (s : Scope) : Emit BuildError ScopedApi := do
  Emit.tell [scopeLog s.key? ("operations " ++ toString s.operations.length)]
  let args ← s.args
  let ms ← s.members args.names [] s.operations
  return {
    key? := s.key?
    functionName := s.functionName
    typeName := s.typeName
    operations := s.operations
    function := s.apiFunction args ms
    protocol := s.apiProtocol ms }

end Scope

/-- The chain keys of operations, each once, in the order in which they come
first. -/
def chainKeys (os : List SdkOperation) : List String :=
  os.foldl
    (fun keys o =>
      match present o.role.key? with
      | some key => if keys.contains key then keys else keys ++ [key]
      | none => keys)
    []

/-- Builds the API of one chain key, or of the root. -/
def buildApi (s : Conventions) (os : List SdkOperation) (key? : Option String) :
    Emit BuildError ScopedApi := do
  let scope ← Scope.empty s key?
  (scope.visitAll os).build

/-- Builds the root API and the API of each chain key. -/
def buildApis (s : Conventions) (os : List SdkOperation) : Emit BuildError (List ScopedApi) :=
  (none :: (chainKeys os).map some).mapM (buildApi s os)

end ChainedSdk
