/-
# Reading documents

The grammar of GraphQL documents over tokens. What is read is decided by the
token at hand; only a description makes the reader look at the token after
it. Every list in brackets, other than the values `[]` and `{}`, has an item.

A token after which the text is broken can be read, but not taken: taking it
reports the break. Braces and square brackets may be nested in one another up
to a fixed depth.

Key definitions: `Parser.depthLimit`, `Document.parse`, `TypeRef.parse`.
-/
import ChainedSdk.GraphQL.Document
import ChainedSdk.GraphQL.Lexer

namespace ChainedSdk
namespace GraphQL

/-- A reader of tokens. -/
abbrev Parser := StateT (List Token) (Except SyntaxError)

namespace Parser

/-- The token at hand. -/
def current : Parser Token := do
  match ← get with
  | t :: _ => return t
  | [] => return ⟨.endOfText, Cursor.start⟩

/-- Reports a fault at a token. -/
def failAt {α : Type} (t : Token) (fault : SyntaxFault) : Parser α :=
  throw (fault.at t.place)

/-- Reports a break of the text at hand. -/
def checkBroken : Parser Unit := do
  match (← current).lexeme with
  | .broken e => throw e
  | _ => return

/-- Takes the token at hand. -/
def advance : Parser Unit := do
  match ← get with
  | [] => return
  | [_] => return
  | _ :: rest =>
    set rest
    checkBroken

/-- Reports that a token cannot stand where it stands. -/
def unexpected {α : Type} (t : Token) : Parser α :=
  failAt t (.unexpected t.lexeme.shown)

/-- The token at hand is the mark `m`. -/
def peek (m : Mark) : Parser Bool := do
  return (← current).lexeme == .mark m

/-- Takes the mark `m` and nothing else. -/
def expect (m : Mark) : Parser Unit := do
  let t ← current
  if t.lexeme == .mark m then advance
  else failAt t (.expected (Lexeme.mark m).shown t.lexeme.shown)

/-- Takes the mark `m` if it is at hand. -/
def optional (m : Mark) : Parser Bool := do
  if ← peek m then
    advance
    return true
  else return false

/-- Takes a name. -/
def name : Parser String := do
  let t ← current
  match t.lexeme with
  | .name text =>
    advance
    return text
  | other => failAt t (.expected "Name" other.shown)

/-- Takes the word `w` if it is at hand. -/
def optionalWord (w : String) : Parser Bool := do
  if (← current).lexeme == .name w then
    advance
    return true
  else return false

/-- Takes the word `w` and nothing else. -/
def expectWord (w : String) : Parser Unit := do
  let t ← current
  if t.lexeme == .name w then advance
  else failAt t (.expected ("'" ++ w ++ "'") t.lexeme.shown)

/-- Takes the end of the text. -/
def expectEnd : Parser Unit := do
  let t ← current
  if t.lexeme == .endOfText then return
  else failAt t (.expected "<EOF>" t.lexeme.shown)

/-- Items up to and including the mark `close`; `fuel` bounds their number. -/
def itemsUntil {α : Type} (close : Mark) (item : Parser α) : Nat → Parser (List α)
  | 0 => return []
  | fuel + 1 => do
    if ← optional close then return []
    else
      let x ← item
      let xs ← itemsUntil close item fuel
      return x :: xs

/-- Items up to and including the mark `close`. -/
def items {α : Type} (close : Mark) (item : Parser α) : Parser (List α) := do
  itemsUntil close item ((← get).length + 1)

/-- One item or more between two marks. -/
def many {α : Type} (opening : Mark) (item : Parser α) (close : Mark) : Parser (List α) := do
  expect opening
  let x ← item
  let xs ← items close item
  return x :: xs

/-- One item or more between two marks, or nothing at all. -/
def optionalMany {α : Type} (opening : Mark) (item : Parser α) (close : Mark) :
    Parser (List α) := do
  if ← optional opening then
    let x ← item
    let xs ← items close item
    return x :: xs
  else return []

/-- No item or more between two marks. -/
def any {α : Type} (opening : Mark) (item : Parser α) (close : Mark) : Parser (List α) := do
  expect opening
  items close item

/-- The items that follow, each after the mark `delimiter`. -/
def furtherItems {α : Type} (delimiter : Mark) (item : Parser α) : Nat → Parser (List α)
  | 0 => return []
  | fuel + 1 => do
    if ← optional delimiter then
      let x ← item
      let xs ← furtherItems delimiter item fuel
      return x :: xs
    else return []

/-- One item or more with `delimiter` between them and perhaps in front. -/
def delimited {α : Type} (delimiter : Mark) (item : Parser α) : Parser (List α) := do
  let _ ← optional delimiter
  let x ← item
  let xs ← furtherItems delimiter item (← get).length
  return x :: xs

/-- A number of items that the tokens left do not exceed. -/
def itemBound : Parser Nat := do
  return (← get).length + 1

/-! ### Types and values -/

/-- How deep braces and square brackets may be nested. -/
def depthLimit : Nat := 200

/-- Reports that the bracket at hand is one too deep. -/
def tooDeep {α : Type} : Parser α := do
  failAt (← current) .nestedTooDeeply

/-- A type; `room` is the number of brackets that may still be opened. -/
def typeRef (room : Nat) : Parser TypeRef := do
  let inner ← (do
    if ← peek .bracketL then
      match room with
      | 0 => tooDeep
      | room + 1 =>
        advance
        let item ← typeRef room
        expect .bracketR
        return TypeRef.list item
    else return TypeRef.named (← name))
  if ← optional .bang then return .nonNull inner else return inner

/-- A value; `room` is the number of brackets that may still be opened. A
constant holds no variables. -/
def value (constant : Bool) (room : Nat) : Parser Value := do
  let t ← current
  match t.lexeme with
  | .mark .bracketL =>
    match room with
    | 0 => tooDeep
    | room + 1 => return .list (← any .bracketL (value constant room) .bracketR)
  | .mark .braceL =>
    match room with
    | 0 => tooDeep
    | room + 1 =>
      return .object (← any .braceL (do
        let key ← name
        expect .colon
        return (key, ← value constant room)) .braceR)
  | .mark .dollar =>
    advance
    if constant then
      match (← current).lexeme with
      | .name text => failAt t (.variableInConstant text)
      | _ => unexpected t
    else return .variable (← name)
  | .int text =>
    advance
    return .int text
  | .float text =>
    advance
    return .float text
  | .string text =>
    advance
    return .string text false
  | .blockString text =>
    advance
    return .string text true
  | .name text =>
    advance
    return match text with
      | "true" => .boolean true
      | "false" => .boolean false
      | "null" => .null
      | _ => .enum text
  | _ => unexpected t

/-- A type outside of all brackets. -/
def type : Parser TypeRef :=
  typeRef depthLimit

/-- The value after an equals sign, if there is one, outside of all brackets. -/
def default? : Parser (Option Value) := do
  if ← optional .equals then return some (← value true depthLimit) else return none

/-- An argument. -/
def argument (constant : Bool) (room : Nat) : Parser Argument := do
  let key ← name
  expect .colon
  return ⟨key, ← value constant room⟩

/-- The arguments of a field or directive. -/
def arguments (constant : Bool) (room : Nat) : Parser (List Argument) :=
  optionalMany .parenL (argument constant room) .parenR

/-- Directives up to the first token that starts none; `fuel` bounds their
number. -/
def directivesUpTo (constant : Bool) (room : Nat) : Nat → Parser (List Directive)
  | 0 => return []
  | fuel + 1 => do
    if ← optional .at then
      let directive : Directive := ⟨← name, ← arguments constant room⟩
      let more ← directivesUpTo constant room fuel
      return directive :: more
    else return []

/-- The directives at hand. -/
def directivesIn (constant : Bool) (room : Nat) : Parser (List Directive) := do
  directivesUpTo constant room (← itemBound)

/-- The directives at hand, outside of all brackets. -/
def directives (constant : Bool) : Parser (List Directive) :=
  directivesIn constant depthLimit

/-! ### Operations and fragments -/

/-- The name of a fragment, which is not the word `on`. -/
def fragmentName : Parser String := do
  let t ← current
  if t.lexeme.text? = some "on" then unexpected t else name

/-- A selection, the selections in it being read by `nested`; `room` is the number
of brackets that may still be opened. -/
def selectionOf (nested : Parser (List Selection)) (room : Nat) : Parser Selection := do
  if ← optional .spread then
    if ← optionalWord "on" then
      let condition ← name
      let ds ← directivesIn false room
      return .inline (some condition) ds (← nested)
    else
      match (← current).lexeme with
      | .name _ =>
        let target ← fragmentName
        return .spread target (← directivesIn false room)
      | _ =>
        let ds ← directivesIn false room
        return .inline none ds (← nested)
  else
    let first ← name
    let renamed ← optional .colon
    let field ← if renamed then name else pure first
    let args ← arguments false room
    let ds ← directivesIn false room
    let selections ← if ← peek .braceL then nested else pure []
    return .field (if renamed then some first else none) field args ds selections

/-- Selections where no bracket may be opened any more. -/
def noSelections : Parser (List Selection) := do
  if ← peek .braceL then tooDeep
  else
    expect .braceL
    return []

/-- A selection; `room` is the number of brackets that may still be opened. -/
def selection : Nat → Parser Selection
  | 0 => selectionOf noSelections 0
  | room + 1 => selectionOf (many .braceL (selection room) .braceR) (room + 1)

/-- A selection set outside of all brackets. -/
def selectionSet : Parser (List Selection) :=
  many .braceL (selection (depthLimit - 1)) .braceR

/-- The declaration of a variable. -/
def variableDefinition : Parser VariableDefinition := do
  expect .dollar
  let key ← name
  expect .colon
  let t ← type
  let default? ← default?
  return ⟨key, t, default?, ← directives true⟩

/-- The kind of operation a word names. -/
def operationKind? : String → Option OperationKind
  | "query" => some .query
  | "mutation" => some .mutation
  | "subscription" => some .subscription
  | _ => none

/-- An operation after the word that tells its kind. -/
def operationRest (kind : OperationKind) : Parser Operation := do
  let name? ← (do
    match (← current).lexeme with
    | .name text =>
      advance
      return some text
    | _ => return none)
  let declared ← optionalMany .parenL variableDefinition .parenR
  let ds ← directives false
  return ⟨kind, name?, declared, ds, ← selectionSet⟩

/-- A fragment after its first word. -/
def fragmentRest : Parser Fragment := do
  let key ← fragmentName
  expectWord "on"
  let condition ← name
  let ds ← directives false
  return ⟨key, condition, ds, ← selectionSet⟩

/-! ### Type systems -/

/-- A description, if one is at hand. -/
def description? : Parser (Option Description) := do
  match (← current).lexeme with
  | .string text =>
    advance
    return some ⟨text, false⟩
  | .blockString text =>
    advance
    return some ⟨text, true⟩
  | _ => return none

/-- The definition of an argument or input field. -/
def inputValue : Parser InputValue := do
  let description ← description?
  let key ← name
  expect .colon
  let t ← type
  let default? ← default?
  return ⟨description, key, t, default?, ← directives true⟩

/-- The definition of a field. -/
def fieldDefinition : Parser FieldDefinition := do
  let description ← description?
  let key ← name
  let args ← optionalMany .parenL inputValue .parenR
  expect .colon
  let t ← type
  return ⟨description, key, args, t, ← directives true⟩

/-- A value of an enum type. -/
def enumValue : Parser EnumValue := do
  let description ← description?
  let t ← current
  match t.lexeme.text? with
  | some "true" | some "false" | some "null" =>
    failAt t (.reservedEnumValue t.lexeme.shown)
  | _ =>
    let key ← name
    return ⟨description, key, ← directives true⟩

/-- The root operation type of a schema. -/
def operationType : Parser (OperationKind × String) := do
  let t ← current
  let word ← name
  match operationKind? word with
  | none => unexpected t
  | some kind =>
    expect .colon
    return (kind, ← name)

/-- The interfaces a type implements. -/
def interfaces : Parser (List String) := do
  if ← optionalWord "implements" then delimited .amp name else return []

/-- The places where a directive may stand. -/
def directiveLocations : List String :=
  ["QUERY", "MUTATION", "SUBSCRIPTION", "FIELD", "FRAGMENT_DEFINITION", "FRAGMENT_SPREAD",
    "INLINE_FRAGMENT", "VARIABLE_DEFINITION", "SCHEMA", "SCALAR", "OBJECT", "FIELD_DEFINITION",
    "ARGUMENT_DEFINITION", "INTERFACE", "UNION", "ENUM", "ENUM_VALUE", "INPUT_OBJECT",
    "INPUT_FIELD_DEFINITION"]

/-- A place where a directive may stand. -/
def directiveLocation : Parser String := do
  let t ← current
  let word ← name
  if directiveLocations.contains word then return word else unexpected t

/-- The words that start a definition of a type system. -/
def systemWords : List String :=
  ["schema", "scalar", "type", "interface", "union", "enum", "input", "directive"]

/-- A definition of a type system after its first word. -/
def systemRest (description : Option Description) (word : String) : Parser SystemDefinition := do
  match word with
  | "schema" =>
    let ds ← directives true
    let types ← many .braceL operationType .braceR
    return ⟨description, false, none, ds, .schema types⟩
  | "directive" =>
    expect .at
    let key ← name
    let args ← optionalMany .parenL inputValue .parenR
    let repeatable ← optionalWord "repeatable"
    expectWord "on"
    let places ← delimited .pipe directiveLocation
    return ⟨description, false, some key, [], .directive args repeatable places⟩
  | _ =>
    let key ← name
    let implemented ←
      if word = "type" || word = "interface" then interfaces else pure []
    let ds ← directives true
    let form : SystemForm ← (do
      match word with
      | "scalar" => return .scalar
      | "type" => return .object implemented (← optionalMany .braceL fieldDefinition .braceR)
      | "interface" =>
        return .interface implemented (← optionalMany .braceL fieldDefinition .braceR)
      | "union" =>
        if ← optional .equals then return .union (← delimited .pipe name) else return .union []
      | "enum" => return .enum (← optionalMany .braceL enumValue .braceR)
      | _ => return .input (← optionalMany .braceL inputValue .braceR))
    return ⟨description, false, some key, ds, form⟩

/-- An extension says something. -/
def saysSomething (d : SystemDefinition) : Bool :=
  !d.directives.isEmpty ||
    match d.form with
    | .schema types => !types.isEmpty
    | .scalar => false
    | .object implemented fields => !implemented.isEmpty || !fields.isEmpty
    | .interface implemented fields => !implemented.isEmpty || !fields.isEmpty
    | .union members => !members.isEmpty
    | .enum values => !values.isEmpty
    | .input fields => !fields.isEmpty
    | .directive .. => true

/-- An extension of a type system after its first word. -/
def extensionRest : Parser SystemDefinition := do
  let t ← current
  match t.lexeme with
  | .name word =>
    if systemWords.contains word && word ≠ "directive" then
      advance
      let d ←
        if word = "schema" then do
          let ds ← directives true
          let types ← optionalMany .braceL operationType .braceR
          pure (⟨none, false, none, ds, .schema types⟩ : SystemDefinition)
        else systemRest none word
      if saysSomething d then return { d with isExtension := true }
      else unexpected (← current)
    else unexpected t
  | _ => unexpected t

/-! ### Documents -/

/-- The token after the one at hand. -/
def lookahead : Parser Token := do
  match ← get with
  | _ :: t :: _ =>
    match t.lexeme with
    | .broken e => throw e
    | _ => return t
  | _ => current

/-- A definition. -/
def definition : Parser Definition := do
  let t ← current
  match t.lexeme with
  | .mark .braceL => return .operation ⟨.query, none, [], [], ← selectionSet⟩
  | .string _ | .blockString _ =>
    let next ← lookahead
    match next.lexeme with
    | .name word =>
      if systemWords.contains word then
        let description ← description?
        advance
        return .system (← systemRest description word)
      else failAt t .strayDescription
    | _ => unexpected next
  | .name word =>
    if systemWords.contains word then
      advance
      return .system (← systemRest none word)
    else
      match operationKind? word with
      | some kind =>
        advance
        return .operation (← operationRest kind)
      | none =>
        if word = "fragment" then
          advance
          return .fragment (← fragmentRest)
        else if word = "extend" then
          let next ← lookahead
          match next.lexeme with
          | .name _ =>
            advance
            return .system (← extensionRest)
          | _ => unexpected next
        else unexpected t
  | _ => unexpected t

/-- Definitions up to the end of the text; `fuel` bounds their number. -/
def definitionsUpTo : Nat → Parser (List Definition)
  | 0 => return []
  | fuel + 1 => do
    if (← current).lexeme == .endOfText then return []
    else
      let d ← definition
      let ds ← definitionsUpTo fuel
      return d :: ds

/-- A whole document: one definition or more. -/
def document : Parser Document := do
  checkBroken
  let d ← definition
  let ds ← definitionsUpTo (← itemBound)
  return ⟨d :: ds⟩

/-- A type and nothing else. -/
def onlyType : Parser TypeRef := do
  checkBroken
  let t ← type
  expectEnd
  return t

end Parser

/-- The document a text holds. -/
def Document.parse (s : String) : Except SyntaxError Document :=
  (Parser.document.run (tokens s)).map (·.1)

/-- The type a text holds. -/
def TypeRef.parse (s : String) : Except SyntaxError TypeRef :=
  (Parser.onlyType.run (tokens s)).map (·.1)

end GraphQL
end ChainedSdk
