/-
# The roles of operations

An operation that takes an id and is named like the first field it selects,
such as `team`, returns the team itself: it is the parent of the API of teams.
One whose name only starts with the field's name, such as `teamIssues`, is a
child in that API, where it is called `issues`. All other operations belong
to the root. Case does not count when names are compared for their start.

The roles depend on names and variables alone. The names of GraphQL are in
ASCII, and so is the lower case that is compared.

Key definitions: `Role`, `Role.ofParts`, `classify`, `classifyAll`,
`SdkOperation`, `describe`.
-/
import ChainedSdk.Text.Quoted
import ChainedSdk.Variables

namespace ChainedSdk

/-- The level of an SDK an operation is added to. -/
inductive Level where
  | root
  | parent
  | child
deriving DecidableEq, Repr

namespace Level

/-- The word for a level. -/
def word : Level → String
  | root => "root"
  | parent => "parent"
  | child => "child"

/-- The levels, in order. -/
def all : List Level := [root, parent, child]

/-- The level a word stands for. -/
def ofWord? (word : String) : Option Level :=
  all.find? (·.word = word)

end Level

/-- The role of an operation: parents and children have the chain key of
their API. -/
inductive Role where
  | root
  | parent (key : String)
  | child (key : String)
deriving DecidableEq, Repr

/-- Why a level and a chain key make no role. -/
structure RoleError where
  operation? : Option String
  level : Level
  key? : Option String
deriving DecidableEq, Repr

/-- The quoted form of a text that may be missing. -/
def quoteOption : Option String → String
  | some s => Text.quote s
  | none => "None"

/-- The error in words. -/
def RoleError.message (e : RoleError) : String :=
  "Operation " ++ quoteOption e.operation? ++ " with role " ++ e.level.word
    ++ " cannot have chain key " ++ quoteOption e.key?

namespace Role

/-- The level of a role. -/
def level : Role → Level
  | root => .root
  | parent _ => .parent
  | child _ => .child

/-- The chain key, for parents and children. -/
def key? : Role → Option String
  | root => none
  | parent key => some key
  | child key => some key

/-- The chain key of the API that a parent makes. -/
def parentKey? : Role → Option String
  | parent key => some key
  | _ => none

/-- The chain key of the API that a child is in. -/
def childKey? : Role → Option String
  | child key => some key
  | _ => none

/-- The role of a level and a chain key; exactly the root has no key. -/
def ofParts (operation? : Option String) (level : Level) (key? : Option String) :
    Except RoleError Role :=
  match level, key? with
  | .root, none => .ok root
  | .parent, some key => .ok (parent key)
  | .child, some key => .ok (child key)
  | _, _ => .error ⟨operation?, level, key?⟩

end Role

/-- `s` starts with `start` when case does not count. -/
def startsIgnoringCase (s start : String) : Bool :=
  (start.toList.map Char.toLower).isPrefixOf (s.toList.map Char.toLower)

namespace GraphQL.Operation

/-- The operation takes an id and is named like its first field. -/
def isParent (o : Operation) (c : Config) : Bool :=
  match o.firstField? with
  | some field => o.hasId c && o.name? = some field
  | none => false

/-- The operation takes an id and its name starts with that of its first
field. -/
def isChild (o : Operation) (c : Config) : Bool :=
  match o.firstField?, o.name? with
  | some field, some name => o.hasId c && startsIgnoringCase name field
  | _, _ => false

end GraphQL.Operation

/-- The role of an operation. A parent is no child. -/
def classify (c : Config) (o : GraphQL.Operation) : Role :=
  match o.firstField? with
  | some field =>
    if o.isParent c then .parent field
    else if o.isChild c then .child field
    else .root
  | none => .root

/-- An operation and its role. -/
structure Classified where
  definition : GraphQL.Operation
  role : Role
deriving BEq, Repr

/-- What is reported about an operation and its role. -/
def Classified.log (o : Classified) : LogRecord :=
  .core .debug "operation" (o.definition.name?.getD "None" ++ ": " ++ o.role.level.word ++ " "
    ++ o.role.key?.getD "")

/-- The operations of a document and their roles, in order. -/
def classifyAll (c : Config) (d : GraphQL.Document) : List Classified :=
  d.operations.map fun o => ⟨o, classify c o⟩

/-- An operation with a name, a role, and the names of what is generated for
it. -/
structure SdkOperation where
  definition : GraphQL.Operation
  role : Role
  name : String
  names : OperationNames
deriving BEq, Repr

namespace SdkOperation

/-- The name of the operation's document. -/
def documentName (o : SdkOperation) : String := o.names.document

/-- The name of the type of the operation's result. -/
def resultType (o : SdkOperation) : String := o.names.resultType

/-- The name of the type of the operation's variables. -/
def variablesType (o : SdkOperation) : String := o.names.variablesType

end SdkOperation

/-- Why an operation cannot be described. -/
inductive DescribeError where
  | anonymous
  | template (e : TemplateError)
deriving DecidableEq, Repr

/-- The error in words. -/
def DescribeError.message : DescribeError → String
  | anonymous => "Anonymous operations cannot be added to the sdk"
  | template e => e.message

/-- Finds the names of what is generated for an operation. -/
def describe (c : Config) (o : Classified) : Except DescribeError SdkOperation :=
  match present o.definition.name? with
  | none => .error .anonymous
  | some name =>
    match c.operationNames name o.definition.kind.word with
    | .ok names => .ok ⟨o.definition, o.role, name, names⟩
    | .error e => .error (.template e)

end ChainedSdk
