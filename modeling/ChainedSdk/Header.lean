/-
# Headers

A header is a text put above a module, an empty line between them. Its lines
are commented out unless they are comments already. Headers are put on one
after the other, so the last one is on top.

Key definitions: `Header.lines`, `Header.put`, `Header.putAll`.
-/
import ChainedSdk.Log
import ChainedSdk.Text.Basic

namespace ChainedSdk
namespace Header

/-- A line of a header as a comment. -/
def comment (line : String) : String :=
  if Text.startsWith line "#" then line else Text.trimEnd Text.isBlank ("# " ++ line)

/-- The comment lines of a header. Line feeds at its end do not count. -/
def lines (header : String) : List String :=
  (Text.split '\n' (Text.trimEnd (· = '\n') header)).map comment

/-- The text with a header above it. -/
def put (header content : String) : String :=
  Text.joinWith "\n" (lines header) ++ "\n\n" ++ content

/-- The text with headers above it. -/
def putAll (headers : List String) (content : String) : String :=
  headers.foldl (fun content header => put header content) content

/-- What putting headers on a file reports. -/
def logAll (headers : List String) (filename : String) : List LogRecord :=
  headers.map fun _ => .core .debug "hooks" ("Running AddHeaderHook on " ++ filename)

end Header
end ChainedSdk
