/-
# Loading documents

The documents of an SDK are in the files of a directory, at any depth, whose
names have one of two endings, or in one such file. They are read in the order
of their paths and put together into one document; the first one that does
not parse ends this.

Key definitions: `SourceFile`, `FileTree.sources`, `Loading`, `loadDocuments`.
-/
import ChainedSdk.FileTree
import ChainedSdk.GraphQL.Parser
import ChainedSdk.Log

namespace ChainedSdk

/-- A file with a document. -/
structure SourceFile where
  path : String
  text : String
deriving DecidableEq, Repr

/-- The endings of the names of files with documents. -/
def documentEndings : List String :=
  [".graphql", ".gql"]

/-- A file of this name holds a document. -/
def isDocumentName (name : String) : Bool :=
  documentEndings.any (Text.endsWith name)

/-! ### Finding files -/

/-- The files with documents among the entries of a directory. -/
def ownSources (path : String) (entries : List (String × FileTree)) : List SourceFile :=
  entries.filterMap fun e =>
    match e.2 with
    | .file text => if isDocumentName e.1 then some ⟨Path.entryText path e.1, text⟩ else none
    | .directory _ => none

mutual

/-- The files with documents in a directory, at any depth; those of the
directory itself come first. -/
def FileTree.walkSources (path : String) : FileTree → List SourceFile
  | .file _ => []
  | .directory entries => ownSources path entries ++ walkEntries path entries

/-- The files with documents in the directories among entries. -/
def walkEntries (path : String) : List (String × FileTree) → List SourceFile
  | [] => []
  | (name, t) :: rest => t.walkSources (Path.entryText path name) ++ walkEntries path rest

end

/-- Files in the order of their paths. -/
def sortSources (files : List SourceFile) : List SourceFile :=
  files.mergeSort fun a b => !decide (b.path < a.path)

/-- The files with documents at a written path, in the order of their paths;
none if nothing is there. -/
def FileTree.sources (t : FileTree) (current : Path) (path : String) : List SourceFile :=
  match (t.locate? current path).bind t.find? with
  | some (.file text) => if isDocumentName path then [⟨path, text⟩] else []
  | some tree => sortSources (tree.walkSources path)
  | none => []

/-! ### Reading files -/

/-- The text of a file with line feeds at the ends of all lines. -/
def SourceFile.content (f : SourceFile) : String :=
  String.ofList (Text.unifyNewlines f.text.toList)

/-- What loading documents comes to: the document, the name of the file that
was read last, and what was reported. -/
structure Loading where
  outcome : Except GraphQL.SyntaxError GraphQL.Document
  current : String
  log : List LogRecord

/-- What is reported about a file that does not parse. -/
def syntaxLog (current : String) (e : GraphQL.SyntaxError) : LogRecord :=
  .core .error "loader" ("Error parsing " ++ current ++ ": " ++ e.message)

/-- Reads further files. -/
def readSources (done : Loading) : List SourceFile → Loading
  | [] => done
  | f :: rest =>
    match done.outcome with
    | .error _ => done
    | .ok document =>
      let current := Path.lastName f.path
      match GraphQL.Document.parse f.content with
      | .ok more =>
        readSources
          ⟨.ok (.concat [document, more]), current,
            done.log ++ [.core .debug "loader" ("Parsed " ++ f.path)]⟩ rest
      | .error e =>
        ⟨.error e, current, done.log ++ [syntaxLog current e]⟩

/-- Reads files and puts their documents together. -/
def loadDocuments (files : List SourceFile) : Loading :=
  readSources ⟨.ok ⟨[]⟩, "", []⟩ files

end ChainedSdk
