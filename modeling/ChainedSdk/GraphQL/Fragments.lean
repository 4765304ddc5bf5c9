/-
# The fragments an operation needs

The fragments spread in a selection set, and those spread in the fragments, at
any depth and each once, in the order in which a walk comes upon them: a
fragment is walked through as soon as it is found. The definition that counts
for a name is the last one. The walk fails at a spread without a definition.

Fragments may spread each other in circles. A fragment that was found is not
entered again, so no walk is deeper than there are fragments.

Key definitions: `GraphQL.FragmentTable`, `GraphQL.walk`, `GraphQL.spreads`.
-/
import ChainedSdk.Assoc
import ChainedSdk.GraphQL.Document

namespace ChainedSdk
namespace GraphQL

/-- The fragments of a document by their names. -/
abbrev FragmentTable := List (String × Fragment)

/-- The fragments of a document by their names, the last of each name. -/
def Document.fragmentTable (d : Document) : FragmentTable :=
  Assoc.ofList (d.fragments.map fun f => (f.name, f))

/-- The names found so far, or the name of a fragment without a definition. -/
abbrev Found := Except String (List String)

mutual

/-- Walks through a selection; `enter` walks through a fragment that is not
among those found. -/
def walkSelection (enter : String → List String → Found) (found : List String) :
    Selection → Found
  | .field _ _ _ _ selections => walk enter found selections
  | .inline _ _ selections => walk enter found selections
  | .spread name _ => if found.contains name then .ok found else enter name found

/-- Walks through selections, in order. -/
def walk (enter : String → List String → Found) (found : List String) :
    List Selection → Found
  | [] => .ok found
  | s :: rest =>
    match walkSelection enter found s with
    | .ok found => walk enter found rest
    | .error name => .error name

end

/-- Finds a fragment and walks through it; `depth` bounds how deep fragments
are entered. -/
def enterFragment (table : FragmentTable) : Nat → String → List String → Found
  | 0, _, found => .ok found
  | depth + 1, name, found =>
    match Assoc.get? name table with
    | some f => walk (enterFragment table depth) (found ++ [name]) f.selections
    | none => .error name

/-- The names of the fragments that selections need, or the name of one that
has no definition. -/
def spreads (table : FragmentTable) (selections : List Selection) : Found :=
  walk (enterFragment table (table.length + 1)) [] selections

end GraphQL
end ChainedSdk
