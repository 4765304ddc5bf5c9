/-
# The program

Runs the command on the files of the machine: reads into a tree of files what
the arguments name, runs the command on that tree, prints its lines, and
writes the output.

Key definitions: `main`.
-/
import ChainedSdk.Command

namespace ChainedSdk

/-- The tree of the files at a path. -/
partial def readTree (path : String) : IO FileTree := do
  let place := (← IO.currentDir) / path
  if ← place.isDir then
    let entries ← place.readDir
    return .directory (← entries.toList.mapM fun e => do
      return (e.fileName, ← readTree e.path.toString))
  else return .file (← IO.FS.readFile path)

/-- Adds to a tree what is at a written path of the machine, and the
directories on the way to it; `whole` asks for what is in a directory at its
end, too. -/
def survey (whole : Bool) (current : Path) (t : FileTree) (written : String) : IO FileTree := do
  let mut tree := t
  let mut here := Path.start current written
  for name in Text.split '/' written do
    here := Path.step here name
    let place := (← IO.currentDir) / here.text
    if ← place.isDir then tree := tree.makeDirectory here
    else if ← place.pathExists then
      tree := (tree.write here (← IO.FS.readFile here.text)).toOption.getD tree
  if whole && (tree.find? here).any FileTree.isDirectory then
    tree := (← readTree here.text).files.foldl
      (fun tree f => (tree.write (here ++ f.1) f.2).toOption.getD tree) tree
  return tree

/-- The files that a request is about. -/
def requestTree (current : Path) (i : Invocation) : IO FileTree := do
  let tree ← survey true current .empty i.documents
  let tree ← survey false current tree i.output
  match i.config? with
  | some path => survey false current tree path
  | none => return tree

/-- Writes a text to a file of the machine and makes the directories that it
is in. -/
def writeOutput (p : Path) (text : String) : IO Unit := do
  IO.FS.createDirAll (Path.text p.dropLast)
  IO.FS.writeFile p.text text

/-- Runs a request and gives the exit code. -/
def runRequest (current : Path) (request : Request) (args : List String) : IO UInt32 := do
  let tree ←
    match request with
    | .generate i => requestTree current i
    | .help | .version => pure .empty
  let run := runCommand tree current args
  for line in run.lines do
    IO.println line
  match run.outcome, request with
  | .error e, _ => IO.eprintln ("Error: " ++ e.message)
  | .ok (), .generate i =>
    let output := i.outputPath current
    match run.files.find? output with
    | some (.file text) => writeOutput output text
    | _ => pure ()
  | .ok (), _ => pure ()
  return run.exitCode.toUInt32

end ChainedSdk

/-- Runs the command with the arguments of the program. -/
def main (args : List String) : IO UInt32 := do
  let current := ChainedSdk.Path.resolve [] (← IO.currentDir).toString
  match ChainedSdk.Request.parse args with
  | .ok request => ChainedSdk.runRequest current request args
  | .error e => do
    IO.eprintln ("Error: " ++ e.message)
    return 2
