/-
# Filters on operations

A filter keeps the operations whose names match, as they are written in the
document. An empty criterion is none. Filters run one after the other, each
on what the one before it kept.

Key definitions: `NameFilter`, `NameFilter.keeps`, `NameFilter.runAll`.
-/
import ChainedSdk.Role

namespace ChainedSdk

/-- How names have to start and end, and how not. -/
structure NameFilter where
  refuseStart? : Option String := none
  refuseEnd? : Option String := none
  needStart? : Option String := none
  needEnd? : Option String := none
deriving DecidableEq, Repr

namespace NameFilter

/-- The criterion is there and the test holds for it. -/
def holds (criterion? : Option String) (test : String → Bool) : Bool :=
  match present criterion? with
  | some criterion => test criterion
  | none => false

/-- The filter keeps an operation of this name. -/
def keeps (f : NameFilter) (name : String) : Bool :=
  !holds f.refuseStart? (Text.startsWith name) && !holds f.refuseEnd? (Text.endsWith name)
    && !holds f.needStart? (fun s => !Text.startsWith name s)
    && !holds f.needEnd? (fun s => !Text.endsWith name s)

/-- The operations that the filter keeps. -/
def run (f : NameFilter) (os : List SdkOperation) : List SdkOperation :=
  os.filter fun o => f.keeps o.name

/-- What a filter reports. -/
def log (f : NameFilter) (os : List SdkOperation) : LogRecord :=
  .core .debug "hooks" ("Filtered out " ++ toString (os.length - (f.run os).length) ++ " of "
    ++ toString os.length ++ " operations")

/-- The operations that all filters keep. -/
def runAll (fs : List NameFilter) (os : List SdkOperation) : List SdkOperation :=
  fs.foldl (fun os f => f.run os) os

/-- What filters report, one after the other. -/
def logAll : List NameFilter → List SdkOperation → List LogRecord
  | [], _ => []
  | f :: fs, os => f.log os :: logAll fs (f.run os)

end NameFilter
end ChainedSdk
