/-
# Argument lists

A list of arguments, some of them missing, becomes the arguments of a
function: of several with one name the last one counts, in the place of the
first one, and required arguments come before optional ones. An optional
argument without a default of its own also takes nothing, which is its
default.

Key definitions: `Arg`, `ArgList`, `ArgList.ofArgs`, `duplicateLog`.
-/
import ChainedSdk.Assoc
import ChainedSdk.Code.Render
import ChainedSdk.Log

namespace ChainedSdk

open Code (TypeExpr Expr Param DocBlock)

/-- An argument of a generated function. -/
structure Arg where
  name : String
  type : TypeExpr
  optional : Bool := false
  description : String := ""
  default? : Option Expr := none
deriving BEq, Repr

namespace Arg

/-- The argument may be left out. -/
def isOptional (a : Arg) : Bool :=
  a.optional || a.default?.isSome

/-- The parameter of an argument. -/
def param (a : Arg) : Param :=
  match a.default? with
  | some value => { name := a.name, type? := some a.type, default? := some value }
  | none =>
    if a.optional then
      { name := a.name, type? := some (.optional a.type), default? := some (.literal .null) }
    else { name := a.name, type? := some a.type }

/-- The line of documentation of an argument. -/
def doc (a : Arg) : String :=
  if a.description = "" then a.name else a.name ++ ": " ++ a.description

end Arg

/-- The arguments of a function, with its parameters and their documentation. -/
structure ArgList where
  args : List Arg
  params : List Param
  docs : List String
deriving BEq, Repr

/-- One argument for each name: the last one of that name, in the place of the
first. -/
def uniqueArgs (xs : List (Option Arg)) : List Arg :=
  (Assoc.ofList ((xs.filterMap id).map fun a => (a.name, a))).map (·.2)

namespace ArgList

/-- The argument list of arguments in the order in which they are to stand. -/
def ofOrdered (args : List Arg) : ArgList :=
  ⟨args, args.map Arg.param, args.map Arg.doc⟩

/-- The argument list of arguments that may be missing or repeated. -/
def ofArgs (xs : List (Option Arg)) : ArgList :=
  let unique := uniqueArgs xs
  ofOrdered (unique.filter (fun a => !a.isOptional) ++ unique.filter Arg.isOptional)

/-- The names of the arguments. -/
def names (l : ArgList) : List String :=
  l.args.map (·.name)

/-- The parameters in one line. -/
def print (l : ArgList) : String :=
  Code.paramsText l.params

/-- A documentation with the lines of the arguments. -/
def docBlock (l : ArgList) (summary : List String) (returns? : Option String) : DocBlock :=
  { summary, args := l.docs, returns? }

end ArgList

/-- What is reported about arguments, given the names of those before them: a
name that comes again. -/
def duplicateLogAfter (seen : List String) : List (Option Arg) → List LogRecord
  | [] => []
  | none :: rest => duplicateLogAfter seen rest
  | some a :: rest =>
    (if seen.contains a.name then
      [.core .debug "args"
        ("Duplicate argument " ++ Text.quote a.name ++ ", keeping the later definition")]
    else []) ++ duplicateLogAfter (a.name :: seen) rest

/-- What is reported about arguments. -/
def duplicateLog (xs : List (Option Arg)) : List LogRecord :=
  duplicateLogAfter [] xs

end ChainedSdk
