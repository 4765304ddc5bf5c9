/-
# Responses

What a requester answers: whether the request succeeded, the data, and what
went wrong. A wrapper runs a request, perhaps with something before or after
it; the default wrapper adds nothing. Operations that are made for a response
are merged with it attribute by attribute.

Key definitions: `Status`, `Response`, `Response.same`, `defaultWrapper`,
`mergeAttributes`.
-/
import ChainedSdk.Json.Basic
import ChainedSdk.Text.Quoted

namespace ChainedSdk

/-- The outcome of a request. -/
inductive Status where
  | success
  | error
deriving DecidableEq, Repr

namespace Status

/-- All outcomes. -/
def all : List Status := [success, error]

/-- The word for an outcome. -/
def word : Status → String
  | success => "success"
  | error => "error"

/-- The name of the constant for an outcome. -/
def constantName : Status → String
  | success => "SUCCESS"
  | error => "ERROR"

/-- The outcome that a word stands for. -/
def ofWord? (s : String) : Option Status :=
  all.find? fun status => status.word = s

/-- The error of a word that stands for no outcome, in words. -/
def unknownMessage (s : String) : String :=
  Text.quote s ++ " is not a valid Status"

end Status

/-- A response: data, an error, or both. -/
structure Response where
  status : Status
  data : Json := .null
  error? : Option String := none
deriving Repr

namespace Response

/-- The request succeeded. -/
def ok (r : Response) : Bool :=
  r.status == .success

/-- Two responses are the same. -/
def same (r s : Response) : Bool :=
  r.status == s.status && r.data.sameValue s.data && r.error? == s.error?

end Response

/-- Runs a request and does nothing else. -/
def defaultWrapper {m : Type → Type} (action : m Response) : m Response :=
  action

/-- The attributes of sets of operations merged into one set. Of attributes
with one name the later one counts. -/
def mergeAttributes {α : Type} (sets : List (List (String × α))) : List (String × α) :=
  Assoc.ofList sets.flatten

end ChainedSdk
