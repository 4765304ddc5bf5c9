/-
# Generating a module

A generator holds a document, the conventions, the filters and headers, and
what has been declared so far. Generating builds the APIs of the operations
that the filters keep, collects the documents, puts the module together, and
looks whether it is well formed. A generator goes on from what it declared
before.

Key definitions: `Generator`, `Generator.classify`, `Generator.build`,
`operationDocuments`, `Generator.generate`.
-/
import ChainedSdk.Code.Grammar
import ChainedSdk.Code.Render
import ChainedSdk.GraphQL.Fragments
import ChainedSdk.GraphQL.Printer
import ChainedSdk.Header
import ChainedSdk.NameFilter
import ChainedSdk.Scope
import ChainedSdk.SdkModule

namespace ChainedSdk

open Code (Statement)

/-- Why a module cannot be generated. -/
inductive GenerationError where
  | describe (e : DescribeError)
  | build (e : BuildError)
  | unknownFragment (fragment operation : String)
  | invalidModule (filename : String)
deriving DecidableEq, Repr

/-- The error in words. -/
def GenerationError.message : GenerationError → String
  | describe e => e.message
  | build e => e.message
  | unknownFragment fragment operation =>
    "Unknown fragment " ++ Text.quote fragment ++ " in operation " ++ Text.quote operation
  | invalidModule filename => "Generated invalid Python for " ++ filename

/-- A generator, and what it has declared, generated and reported so far. A
template is a text that takes the place of the module's own. -/
structure Generator where
  document : GraphQL.Document
  config : Config := {}
  filters : List NameFilter := []
  headers : List String := []
  filename : String := "sdk.py"
  template? : Option String := none
  declared : Declared
  operations : List SdkOperation := []
  apis : List ScopedApi := []
  log : List LogRecord := []

/-! ### Documents -/

/-- An operation with the fragments it needs, as a constant. -/
def operationDocument (table : GraphQL.FragmentTable) (o : SdkOperation) :
    Except GenerationError Statement :=
  match GraphQL.spreads table o.definition.selections with
  | .error fragment => .error (.unknownFragment fragment o.name)
  | .ok names =>
    let fragments := names.filterMap fun name => Assoc.get? name table
    let parts := o.definition.print :: fragments.map GraphQL.Fragment.print
    .ok (.text o.documentName (Text.joinWith "\n\n" parts))

/-- The constants of operations of a document. -/
def operationDocuments (d : GraphQL.Document) (os : List SdkOperation) :
    Except GenerationError (List Statement) :=
  os.mapM (operationDocument d.fragmentTable)

namespace Generator

/-- The generator of a document, before anything was generated. -/
def create (document : GraphQL.Document) (config : Config) : Generator :=
  { document, config, declared := { scalars := config.conventions.scalars } }

/-- The generator after it has reported something. -/
def report (g : Generator) (rs : List LogRecord) : Generator :=
  { g with log := g.log ++ rs }

/-! ### Steps -/

/-- The operations of the document, described. -/
def described (g : Generator) : Except GenerationError (List SdkOperation) :=
  ((classifyAll g.config g.document).mapM (describe g.config)).mapError .describe

/-- The operations that the filters keep. -/
def classify (g : Generator) : Except GenerationError (List SdkOperation) × Generator :=
  let g := g.report ((classifyAll g.config g.document).map Classified.log)
  match g.described with
  | .error e => (.error e, g)
  | .ok os => (.ok (NameFilter.runAll g.filters os), g.report (NameFilter.logAll g.filters os))

/-- The conventions that code is built with. -/
def conventions (g : Generator) : Conventions :=
  ⟨g.config, g.declared.scalars⟩

/-- Builds the APIs of operations. What this declares stays declared when it
fails. -/
def build (g : Generator) (os : List SdkOperation) :
    Except GenerationError (List ScopedApi) × Generator :=
  let built := (buildApis g.conventions os).settle g.declared
  let g := { g with declared := built.declared }
  (built.outcome.mapError .build, g.report built.log)

/-- The constants of the operations, unless a module provides them. -/
def documents (g : Generator) : Except GenerationError (List Statement) :=
  match present g.config.documentsModule? with
  | some _ => .ok []
  | none => operationDocuments g.document g.operations

/-- The module of the APIs that were built last, with all that has been
declared. -/
def sdkModule (g : Generator) (documents : List Statement) : SdkModule where
  config := g.config
  scalarImports := g.declared.scalars.usedImports
  documents := documents.map fun d => Code.render [d]
  records := g.declared.records.map fun r => Code.render [.classDecl r.2]
  apis := g.apis.map fun a => Code.render a.declarations
  results := g.declared.results.map fun r => Code.render [.classDecl r.2]

/-- The text of the module, or of the template in its place, in which lines
end with line feeds. -/
def moduleText (g : Generator) (documents : List Statement) : String :=
  match g.template? with
  | some text => String.ofList (Text.unifyNewlines text.toList)
  | none => (g.sdkModule documents).text

/-- What is reported about the scopes of APIs. -/
def scopesLog (apis : List ScopedApi) : LogRecord :=
  .core .debug "generator"
    ("Scopes: " ++ Text.joinWith ", " (apis.map fun a => (present a.key?).getD "root"))

/-- The text of the module of the APIs that were built last, if all fragments
are known and the text is well formed. -/
def checkedText (g : Generator) : Except GenerationError String :=
  match g.documents with
  | .error e => .error e
  | .ok documents =>
    let text := g.moduleText documents
    if Code.isModule text then .ok text else .error (.invalidModule g.filename)

/-- Generates the module of operations. The generator keeps the operations and
their APIs when these could be built. -/
def generateFor (g : Generator) (os : List SdkOperation) :
    Except GenerationError String × Generator :=
  match g.build os with
  | (.error e, g) => (.error e, g)
  | (.ok apis, g) =>
    let g := { g with operations := os, apis }.report [scopesLog apis]
    match g.checkedText with
    | .error e => (.error e, g)
    | .ok text =>
      (.ok (Header.putAll g.headers text), g.report (Header.logAll g.headers g.filename))

/-- Generates the module of the operations that the filters keep. -/
def generate (g : Generator) : Except GenerationError String × Generator :=
  match g.classify with
  | (.error e, g) => (.error e, g)
  | (.ok os, g) => g.generateFor os

end Generator
end ChainedSdk
