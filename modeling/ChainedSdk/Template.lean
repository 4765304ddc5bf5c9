/-
# Name templates

A template is a text with fields in braces, `create_{key}_sdk`. Braces written
twice stand for themselves. A field names a value, and may ask for its quoted
form (`{key!r}`) and for a width, an alignment and a cut (`{key:*^9}`,
`{key:.3}`). It may go on from the value to a character of it (`{key[0]}`), and
to the kind of value it is (`{key.__class__.__name__}`).

A template is cut into pieces from left to right. What is wrong with it shows
when the piece is reached, so a field without a value is reported before a
brace without a partner further to the right.

Key definitions: `TemplateError`, `Template.pieces`, `Template.follow`,
`Template.fill`.
-/
import ChainedSdk.Assoc
import ChainedSdk.Text.Digit
import ChainedSdk.Text.Quoted

namespace ChainedSdk

/-- What can be wrong with a template. -/
inductive TemplateError where
  | loneOpening
  | loneClosing
  | unclosedField
  | bracedName
  | missingConversion
  | afterConversion
  | unclosedSpec
  | nestedSpec
  | unknownConversion (c : Char)
  | unknownField (name : String)
  | positional (index : Nat)
  | hugeNumber
  | emptyPart
  | partAfterIndex
  | unknownPart (owner name : String)
  | outOfRange (owner : String)
  | notIndexed (owner : String)
  | noLayout (owner : String)
  | unknownCode (c : Char)
  | malformedSpec (spec : String)
  | missingPrecision
  | twoSeparators
  | separator (mark code : Char)
  | sign
  | spaceSign
  | negativeZero
  | alternateForm
  | signAlignment
deriving DecidableEq, Repr

namespace TemplateError

/-- A character as an error shows it: by its code point from `bound` on, and
below the space. -/
def shown (bound : Nat) (c : Char) : String :=
  if 32 < c.toNat && c.toNat < bound then String.ofList [c]
  else "\\x" ++ String.ofList (Nat.toDigits 16 c.toNat)

/-- The error in words. -/
def message : TemplateError → String
  | loneOpening => "Single '\x7b' encountered in format string"
  | loneClosing => "Single '\x7d' encountered in format string"
  | unclosedField => "expected '\x7d' before end of string"
  | bracedName => "unexpected '\x7b' in field name"
  | missingConversion => "end of string while looking for conversion specifier"
  | afterConversion => "expected ':' after conversion specifier"
  | unclosedSpec => "unmatched '\x7b' in format spec"
  | nestedSpec => "Max string recursion exceeded"
  | unknownConversion c => "Unknown conversion specifier " ++ shown 127 c
  | unknownField name => Text.quote name
  | positional index =>
    "Replacement index " ++ toString index ++ " out of range for positional args tuple"
  | hugeNumber => "Too many decimal digits in format string"
  | emptyPart => "Empty attribute in format string"
  | partAfterIndex => "Only '.' or '[' may follow ']' in format field specifier"
  | unknownPart owner name => owner ++ " has no attribute '" ++ name ++ "'"
  | outOfRange owner => owner ++ " index out of range"
  | notIndexed owner => owner ++ " has no such index"
  | noLayout owner => "unsupported format string passed to " ++ owner ++ ".__format__"
  | unknownCode c => "Unknown format code '" ++ shown 128 c ++ "' for object of type 'str'"
  | malformedSpec spec => "Invalid format specifier '" ++ spec ++ "' for object of type 'str'"
  | missingPrecision => "Format specifier missing precision"
  | twoSeparators => "Cannot specify both ',' and '_'."
  | separator mark code =>
    "Cannot specify '" ++ String.ofList [mark] ++ "' with '" ++ shown 128 code ++ "'."
  | sign => "Sign not allowed in string format specifier"
  | spaceSign => "Space not allowed in string format specifier"
  | negativeZero => "Negative zero coercion (z) not allowed in string format specifier"
  | alternateForm => "Alternate form (#) not allowed in string format specifier"
  | signAlignment => "'=' alignment not allowed in string format specifier"

end TemplateError

namespace Template

/-- A field: the name of its value, the conversion asked for, and how the
value is laid out. -/
structure Field where
  name : List Char
  conversion : Option Char
  spec : List Char
deriving DecidableEq, Repr

/-- A piece of a template; after a broken one there are no more. -/
inductive Piece where
  | text (cs : List Char)
  | field (f : Field)
  | broken (e : TemplateError)
deriving DecidableEq, Repr

/-! ### Cutting a template -/

/-- The name of a field, the character that ends it, and the rest. Inside
square brackets no character ends it. -/
def fieldName (bracketed : Bool) (seen : List Char) :
    List Char → Except TemplateError (List Char × Char × List Char)
  | [] => .error .unclosedField
  | c :: rest =>
    if bracketed then fieldName (c ≠ ']') (c :: seen) rest
    else if c = '\x7b' then .error .bracedName
    else if c = '\x7d' || c = ':' || c = '!' then .ok (seen.reverse, c, rest)
    else fieldName (c = '[') (c :: seen) rest

/-- The layout of a field up to the brace that closes the field, and the rest.
`nested` counts the braces open inside. -/
def fieldSpec (nested : Nat) (seen : List Char) :
    List Char → Except TemplateError (List Char × List Char)
  | [] => .error .unclosedSpec
  | c :: rest =>
    if c = '\x7b' then fieldSpec (nested + 1) (c :: seen) rest
    else if c = '\x7d' then
      match nested with
      | 0 => .ok (seen.reverse, rest)
      | n + 1 => fieldSpec n (c :: seen) rest
    else fieldSpec nested (c :: seen) rest

/-- A field after its opening brace, and the rest. -/
def field (cs : List Char) : Except TemplateError (Field × List Char) := do
  let (name, ending, rest) ← fieldName false [] cs
  if ending = '\x7d' then return (⟨name, none, []⟩, rest)
  else if ending = ':' then
    let (spec, rest) ← fieldSpec 0 [] rest
    return (⟨name, none, spec⟩, rest)
  else
    match rest with
    | [] => .error .missingConversion
    | [_] => .error .unclosedSpec
    | c :: d :: rest =>
      if d = '\x7d' then return (⟨name, some c, []⟩, rest)
      else if d = ':' then
        let (spec, rest) ← fieldSpec 0 [] rest
        return (⟨name, some c, spec⟩, rest)
      else .error .afterConversion

/-- A brace. -/
def isBrace (c : Char) : Bool :=
  c = '\x7b' || c = '\x7d'

/-- The pieces of a text; `fuel` bounds their number. -/
def cut : Nat → List Char → List Piece
  | 0, _ => []
  | fuel + 1, cs =>
    let text := cs.takeWhile fun c => !isBrace c
    match cs.dropWhile fun c => !isBrace c with
    | [] => [.text text]
    | [c] => [.broken (if c = '\x7b' then .loneOpening else .loneClosing)]
    | c :: d :: rest =>
      if c = d then .text (text ++ [c]) :: cut fuel rest
      else if c = '\x7d' then [.broken .loneClosing]
      else
        match field (d :: rest) with
        | .ok (f, rest) => .text text :: .field f :: cut fuel rest
        | .error e => [.broken e]

/-- The pieces of a template. -/
def pieces (template : String) : List Piece :=
  cut (template.toList.length + 1) template.toList

/-! ### Laying out a value -/

/-- How a value is laid out: padded to a width, cut to a number of characters. -/
structure Spec where
  fill : Char
  align : Option Char
  width : Nat
  precision : Option Nat
deriving DecidableEq, Repr

/-- One of the characters that tell an alignment. -/
def isAlign (c : Char) : Bool :=
  c = '<' || c = '>' || c = '=' || c = '^'

/-- The number a text starts with, if it starts with one, and the rest. -/
def leadingNumber (cs : List Char) : Except TemplateError (Option Nat × List Char) :=
  let n := ((cs.takeWhile Text.isDecimal).filterMap Text.digitValue?).foldl
    (fun n d => 10 * n + d) 0
  if (cs.takeWhile Text.isDecimal).isEmpty then .ok (none, cs)
  else if 9223372036854775807 < n then .error .hugeNumber
  else .ok (some n, cs.dropWhile Text.isDecimal)

/-- The text without its first character if that is `c`, and whether it was. -/
def takeFlag (c : Char) (cs : List Char) : Bool × List Char :=
  match cs with
  | d :: rest => if d = c then (true, rest) else (false, cs)
  | [] => (false, [])

/-- The codes for which a value may have marks between its digits. -/
def allowsSeparator (mark code : Char) : Bool :=
  ['d', 'e', 'f', 'g', 'E', 'G', '%', 'F'].contains code ||
    (mark = '_' && ['b', 'o', 'x', 'X'].contains code)

/-- Reads the layout of a text value. -/
def spec (cs : List Char) : Except TemplateError Spec := do
  let (filled, align, rest) : Option Char × Option Char × List Char :=
    match cs with
    | a :: b :: rest =>
      if isAlign b then (some a, some b, rest)
      else if isAlign a then (none, some a, b :: rest)
      else (none, none, cs)
    | [a] => if isAlign a then (none, some a, []) else (none, none, cs)
    | [] => (none, none, [])
  let (signed, rest) : Option Char × List Char :=
    match rest with
    | c :: more => if c = ' ' || c = '+' || c = '-' then (some c, more) else (none, rest)
    | [] => (none, [])
  let (coerced, rest) := takeFlag 'z' rest
  let (alternate, rest) := takeFlag '#' rest
  let (zeroed, rest) := if filled.isSome then (false, rest) else takeFlag '0' rest
  let (width?, rest) ← leadingNumber rest
  let (comma, rest) := takeFlag ',' rest
  let (low, rest) := takeFlag '_' rest
  if comma && low then throw .twoSeparators
  if low && (takeFlag ',' rest).1 then throw .twoSeparators
  let (pointed, rest) := takeFlag '.' rest
  let (precision, rest) ← if pointed then leadingNumber rest else pure (none, rest)
  if pointed && precision.isNone then throw .missingPrecision
  let code ←
    match rest with
    | [] => pure 's'
    | [c] => pure c
    | _ => throw (.malformedSpec (String.ofList cs))
  if comma && !allowsSeparator ',' code then throw (.separator ',' code)
  if low && !allowsSeparator '_' code then throw (.separator '_' code)
  if code ≠ 's' then throw (.unknownCode code)
  match signed with
  | some ' ' => throw .spaceSign
  | some _ => throw .sign
  | none => pure ()
  if coerced then throw .negativeZero
  if alternate then throw .alternateForm
  if align = some '=' then throw .signAlignment
  return ⟨filled.getD (if zeroed then '0' else ' '), align, width?.getD 0, precision⟩

/-- A text laid out: cut, then padded on the right, on the left or on both
sides, one more on the right if need be. -/
def Spec.layout (s : Spec) (cs : List Char) : List Char :=
  let kept :=
    match s.precision with
    | some n => cs.take n
    | none => cs
  let room := s.width - kept.length
  let left :=
    match s.align with
    | some '>' => room
    | some '^' => room / 2
    | _ => 0
  List.replicate left s.fill ++ kept ++ List.replicate (room - left) s.fill

/-! ### Values and their parts -/

/-- The kinds of values. -/
inductive Kind where
  | text
  | list
  | nothing
  | object
  | kind
deriving DecidableEq, Repr

/-- The name of a kind. -/
def Kind.name : Kind → String
  | text => "str"
  | list => "tuple"
  | nothing => "NoneType"
  | object => "object"
  | kind => "type"

/-- What a field stands for, on the way through its parts. -/
inductive Part where
  | text (cs : List Char)
  | kind (k : Kind)
  | kinds (ks : List Kind)
  | nothing
deriving DecidableEq, Repr

/-- The kind as it is shown. -/
def Kind.shown (k : Kind) : String :=
  "<class '" ++ k.name ++ "'>"

namespace Part

/-- The kind of a value. -/
def kindOf : Part → Kind
  | text _ => .text
  | kind _ => .kind
  | kinds _ => .list
  | nothing => .nothing

/-- The value as a text. -/
def shown : Part → List Char
  | text cs => cs
  | kind k => k.shown.toList
  | kinds ks =>
    match ks with
    | [k] => ("(" ++ k.shown ++ ",)").toList
    | _ => ("(" ++ Text.joinWith ", " (ks.map Kind.shown) ++ ")").toList
  | nothing => "None".toList

/-- A name as a value. -/
def name (s : String) : Part :=
  .text s.toList

/-- The part of a value with a name: its kind, or what a kind has to tell. -/
def named? (p : Part) (part : String) : Option Part :=
  if part = "__class__" then some (.kind p.kindOf)
  else
    match p with
    | .kind k =>
      match part with
      | "__name__" | "__qualname__" => some (name k.name)
      | "__module__" => some (name "builtins")
      | "__base__" => some (if k = .object then .nothing else .kind .object)
      | "__bases__" => some (.kinds (if k = .object then [] else [.object]))
      | "__mro__" => some (.kinds (if k = .object then [.object] else [k, .object]))
      | _ => none
    | _ => none

/-- A value that has no part of a certain name. -/
def owner : Part → String
  | kind k => "type object '" ++ k.name ++ "'"
  | p => "'" ++ p.kindOf.name ++ "' object"

/-- The part of a value at a place. -/
def item (p : Part) (index? : Option Nat) : Except TemplateError Part :=
  match p, index? with
  | text cs, some i =>
    match cs[i]? with
    | some c => .ok (.text [c])
    | none => .error (.outOfRange "string")
  | kinds ks, some i =>
    match ks[i]? with
    | some k => .ok (.kind k)
    | none => .error (.outOfRange "tuple")
  | p, _ => .error (.notIndexed p.owner)

end Part

/-- The number that all of a text stands for, if it stands for one. A number
that is too large is reported even if no digit follows it. -/
def index? (cs : List Char) : Except TemplateError (Option Nat) := do
  let (n?, rest) ← leadingNumber cs
  return if rest.isEmpty then n? else none

/-- What a field stands for, from a value on through the parts that follow its
name; `fuel` bounds their number. -/
def follow : Nat → Part → List Char → Except TemplateError Part
  | 0, p, _ => .ok p
  | _, p, [] => .ok p
  | fuel + 1, p, '.' :: rest =>
    let name := String.ofList (rest.takeWhile fun c => c ≠ '.' && c ≠ '[')
    if name = "" then .error .emptyPart
    else
      match p.named? name with
      | some q => follow fuel q (rest.dropWhile fun c => c ≠ '.' && c ≠ '[')
      | none => .error (.unknownPart p.owner name)
  | fuel + 1, p, '[' :: rest => do
    let key := rest.takeWhile (· ≠ ']')
    let i? ← index? key
    if key.isEmpty then .error .emptyPart
    else follow fuel (← p.item i?) ((rest.dropWhile (· ≠ ']')).drop 1)
  | _, _, _ => .error .partAfterIndex

/-! ### Filling a template -/

/-- What the name of a field stands for. -/
def lookup (values : List (String × String)) (name : List Char) : Except TemplateError Part := do
  let first := name.takeWhile fun c => c ≠ '.' && c ≠ '['
  match ← index? first with
  | some n => .error (.positional n)
  | none =>
    if first.isEmpty then .error (.positional 0)
    else
      match Assoc.get? (String.ofList first) values with
      | none => .error (.unknownField (String.ofList first))
      | some value => follow (name.length + 1) (.text value.toList) (name.drop first.length)

/-- A value in the form a field asks for. -/
def convert (conversion : Option Char) (value : Part) : Except TemplateError Part :=
  let quoted (quote : String → String) : Part :=
    match value with
    | .text cs => .text (quote (String.ofList cs)).toList
    | p => .text p.shown
  match conversion with
  | none => .ok value
  | some 's' => .ok (.text value.shown)
  | some 'r' => .ok (quoted Text.quote)
  | some 'a' => .ok (quoted Text.quoteAscii)
  | some c => .error (.unknownConversion c)

/-- A value laid out. Only texts can be. -/
def lay (value : Part) (layout : List Char) : Except TemplateError String := do
  if layout.isEmpty then return String.ofList value.shown
  match value with
  | .text cs => return String.ofList ((← spec layout).layout cs)
  | p => throw (.noLayout p.kindOf.name)

/-- The text of a field; `expand` fills the fields in its layout. -/
def fillField (expand : List Char → Except TemplateError (List Char))
    (values : List (String × String)) (f : Field) : Except TemplateError String := do
  let value ← convert f.conversion (← lookup values f.name)
  lay value (← if f.spec.contains '\x7b' then expand f.spec else pure f.spec)

/-- The text of pieces. -/
def fillPieces (expand : List Char → Except TemplateError (List Char))
    (values : List (String × String)) : List Piece → Except TemplateError String
  | [] => .ok ""
  | .text cs :: rest => do return String.ofList cs ++ (← fillPieces expand values rest)
  | .field f :: rest => do
    let s ← fillField expand values f
    return s ++ (← fillPieces expand values rest)
  | .broken e :: _ => .error e

/-- Fills the fields in the layout of a field, whose own layouts have none. -/
def expandSpec (values : List (String × String)) (cs : List Char) :
    Except TemplateError (List Char) :=
  (fillPieces (fun _ => .error .nestedSpec) values (cut (cs.length + 1) cs)).map String.toList

/-- The template with its fields filled in. -/
def fill (template : String) (values : List (String × String)) : Except TemplateError String :=
  fillPieces (expandSpec values) values (pieces template)

end Template
end ChainedSdk
