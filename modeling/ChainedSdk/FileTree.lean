/-
# Trees of files

A tree of files is a file or a directory with named entries, in the order in
which they are listed. A path is the list of the names from the root. Writing
a file makes the directories that it is in.

Key definitions: `FileTree`, `Path.resolve`, `FileTree.locate?`,
`FileTree.write`, `FileTree.files`.
-/
import ChainedSdk.Assoc
import ChainedSdk.Text.Basic

namespace ChainedSdk

/-- The names from the root to a file or directory. -/
abbrev Path := List String

namespace Path

/-- One step along a path that is written down. -/
def step (p : Path) (name : String) : Path :=
  if name = "" || name = "." then p
  else if name = ".." then p.dropLast
  else p ++ [name]

/-- Where a path that is written down starts: at the root, or in the current
directory. -/
def start (current : Path) (s : String) : Path :=
  if Text.startsWith s "/" then [] else current

/-- The path that is written down. -/
def resolve (current : Path) (s : String) : Path :=
  (Text.split '/' s).foldl step (start current s)

/-- The path in writing. -/
def text (p : Path) : String :=
  "/" ++ Text.joinWith "/" p

/-- The written path of an entry of a directory with a written path. -/
def entryText (s name : String) : String :=
  if Text.endsWith s "/" then s ++ name else s ++ "/" ++ name

/-- The last name of a written path. -/
def lastName (s : String) : String :=
  (Text.split '/' s).getLastD ""

end Path

/-- A file, or a directory and its entries. -/
inductive FileTree where
  | file (text : String)
  | directory (entries : List (String × FileTree))
deriving Repr, BEq, Inhabited

/-- Why a file cannot be written: there is a directory in its place, the
directory it would be in is a file, or a directory further up is. -/
inductive WriteError where
  | isDirectory
  | parentIsFile
  | ancestorIsFile
deriving DecidableEq, Repr

namespace FileTree

/-- The tree without files. -/
def empty : FileTree := directory []

/-- The tree is a directory. -/
def isDirectory : FileTree → Bool
  | directory _ => true
  | file _ => false

/-- The entry of a directory. -/
def entry? (name : String) : FileTree → Option FileTree
  | directory entries => Assoc.get? name entries
  | file _ => none

/-- What is at a path. -/
def find? (t : FileTree) : Path → Option FileTree
  | [] => some t
  | name :: rest =>
    match t.entry? name with
    | some inner => inner.find? rest
    | none => none

/-- One step along a path that is written down; every step starts in a
directory that is there. -/
def walkStep (t : FileTree) (at? : Option Path) (name : String) : Option Path := do
  let here ← at?
  let p := Path.step here name
  if ((t.find? here).map isDirectory).getD false && (t.find? p).isSome then some p else none

/-- The path that is written down, if there is something at it. -/
def locate? (t : FileTree) (current : Path) (s : String) : Option Path :=
  if s = "" then none
  else (Text.split '/' s).foldl t.walkStep (some (Path.start current s))

/-! ### Writing -/

/-- What is at a path once a text is written there, given what was there. -/
def writeAt (text : String) : Path → Option FileTree → Except WriteError FileTree
  | [], some (directory _) => .error .isDirectory
  | [], _ => .ok (file text)
  | name :: rest, there =>
    match there with
    | some (file _) => .error (if rest.isEmpty then .parentIsFile else .ancestorIsFile)
    | some (directory entries) =>
      (writeAt text rest (Assoc.get? name entries)).map fun inner =>
        directory (Assoc.put name inner entries)
    | none => (writeAt text rest none).map fun inner => directory [(name, inner)]

/-- The tree with a text written at a path. -/
def write (t : FileTree) (p : Path) (text : String) : Except WriteError FileTree :=
  writeAt text p (some t)

/-- The tree with a directory at a path. What is there stays. -/
def makeDirectory (t : FileTree) : Path → FileTree
  | [] => t
  | name :: rest =>
    match t with
    | file text => file text
    | directory entries =>
      let inner := (Assoc.get? name entries).getD empty
      directory (Assoc.put name (inner.makeDirectory rest) entries)

/-! ### All files -/

mutual

/-- The files of a tree at a path, and their texts. -/
def filesAt (at_ : Path) : FileTree → List (Path × String)
  | file text => [(at_, text)]
  | directory entries => entryFiles at_ entries

/-- The files of the entries of a directory at a path. -/
def entryFiles (at_ : Path) : List (String × FileTree) → List (Path × String)
  | [] => []
  | (name, t) :: rest => filesAt (at_ ++ [name]) t ++ entryFiles at_ rest

end

/-- The files of a tree and their texts. -/
def files (t : FileTree) : List (Path × String) :=
  t.filesAt []

end FileTree
end ChainedSdk
