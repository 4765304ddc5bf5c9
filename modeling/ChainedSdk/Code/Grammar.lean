/-
# The grammar of modules

What statements and expressions a module may hold. A module is well formed if
it can be cut into lexemes that the rule of files fits to the end.

The grammar goes from files to atoms. Operators of one operand and of two are
not told apart by how strongly they bind, as that does not change which texts
are expressions. The expressions in formatted texts follow the grammar too.

Key definitions: `Code.Rule`, `Code.Rule.pattern`, `Code.grammar`,
`Code.isModule`.
-/
import ChainedSdk.Code.Pattern

namespace ChainedSdk
namespace Code

/-- The rules of the grammar. Parameters are those of functions, or of lambdas
(`lambda`), which have no annotations. -/
inductive Rule where
  | statement | block | simpleLine | simple | assignment | importFrom | importTargets
  | dottedName | decorators | classDecl | functionDef | branch | whileLoop | forLoop
  | withBlock | withItem | tryBlock | finallyBlock | elseBlock
  | params (lambda : Bool) | param (lambda : Bool) | plainParam (lambda : Bool)
  | defaultParam (lambda : Bool) | anyParam (lambda : Bool) | starParams (lambda : Bool)
  | keywordParams (lambda : Bool)
  | expressions | starExpression | starNamed | starNameds | binding | named | expression
  | yieldExpr | disjunction | conjunction | inversion | comparison | operation | operand
  | primary | trailer | subscripts | subscript | atom | texts | group | list | braces
  | pairEntry | clauses | lambda | arguments | keywordArguments | argument
  | targets | target | plainTarget | memberTarget | atomTarget | singleTarget | deleted
  | matchBlock | caseBlock | casePatterns | casePattern | closedPattern | casePath | caseLiteral
  | caseItems | caseItem

namespace Rule

open Pattern

/-- What a rule stands for where it is used. -/
def use (r : Rule) : Pattern Rule :=
  .rule r

/-- Any of the operators. -/
def anyOp (names : List String) : Pattern Rule :=
  any (names.map op)

/-- What may follow the part of a target that is not its last step. -/
def stepAhead : Pattern Rule :=
  ahead (anyOp ["(", "[", "."])

/-- The end of a list of parameters, which is not part of it. -/
def paramsEnd (isLambda : Bool) : Pattern Rule :=
  ahead (op (if isLambda then ":" else ")"))

/-- A value on the right side of an assignment. -/
def assigned : Pattern Rule :=
  either yieldExpr.use expressions.use

/-! ### Statements -/

/-- The statements of one line that start with a keyword. -/
def keywordStatements : List (Pattern Rule) :=
  [ pair (word "return") (optional expressions.use),
    all [word "import",
      listed (pair dottedName.use (optional (pair (word "as") identifier)))],
    importFrom.use,
    pair (word "raise")
      (optional (pair expression.use (optional (pair (word "from") expression.use)))),
    word "pass",
    all [word "del", trailed deleted.use, ahead (either (op ";") (lexeme .newline))],
    yieldExpr.use,
    all [word "assert", expression.use, optional (pair (op ",") expression.use)],
    word "break",
    word "continue",
    pair (word "global") (listed identifier),
    pair (word "nonlocal") (listed identifier) ]

/-- The operators of assignments that change a value. -/
def updateOperators : List String :=
  ["+=", "-=", "*=", "@=", "/=", "%=", "&=", "|=", "^=", "<<=", ">>=", "**=", "//="]

/-- The kinds of assignment: with an annotation, of one value to targets, and
one that changes a value. -/
def assignments : List (Pattern Rule) :=
  let annotated := all [op ":", expression.use, optional (pair (op "=") assigned)]
  [ pair identifier annotated,
    pair (either (all [op "(", singleTarget.use, op ")"]) memberTarget.use) annotated,
    all [oneOrMore (pair targets.use (op "=")), assigned, notAhead (op "=")],
    all [singleTarget.use, anyOp updateOperators, assigned] ]

/-- The handlers of a `try` block, all of one kind. -/
def handlers (start : Pattern Rule) (bare : Bool) : Pattern Rule :=
  let caught := pair expression.use (optional (pair (word "as") identifier))
  oneOrMore (all [start, if bare then optional caught else caught, op ":", block.use])

/-- The statement of a compound of lines. -/
def compounds : List (Pattern Rule) :=
  [ functionDef.use, classDecl.use,
    all [decorators.use, either functionDef.use classDecl.use],
    pair (word "if") branch.use, whileLoop.use, forLoop.use, withBlock.use, tryBlock.use,
    matchBlock.use ]

/-! ### Parameters -/

/-- The parameters before the first star. -/
def leadingParams (l : Bool) : List (Pattern Rule) :=
  let slash := pair (op "/") (either (op ",") (paramsEnd l))
  let rest := pair (many (defaultParam l).use) (optional (starParams l).use)
  [ all [oneOrMore (plainParam l).use, slash, many (plainParam l).use, rest],
    all [many (plainParam l).use, oneOrMore (defaultParam l).use, slash, rest],
    pair (oneOrMore (plainParam l).use) rest,
    pair (oneOrMore (defaultParam l).use) (optional (starParams l).use),
    (starParams l).use ]

/-- The parameters from the first star on. -/
def starredParams (l : Bool) : List (Pattern Rule) :=
  let after := pair (many (anyParam l).use) (optional (keywordParams l).use)
  let annotated :=
    if l then []
    else
      [all [op "*", identifier, op ":", starExpression.use,
        either (op ",") (paramsEnd l), after]]
  all [op "*", (plainParam l).use, after] :: annotated ++
    [ all [op "*", op ",", oneOrMore (anyParam l).use, optional (keywordParams l).use],
      (keywordParams l).use ]

/-! ### Expressions -/

/-- The operators between operands. -/
def operators : List String :=
  ["|", "^", "&", "<<", ">>", "+", "-", "*", "/", "//", "%", "@", "**"]

/-- The operators that compare. -/
def comparisons : List (Pattern Rule) :=
  [ anyOp ["==", "!=", "<=", "<", ">=", ">"],
    pair (word "not") (word "in"), word "in",
    pair (word "is") (optional (word "not")) ]

/-- The items of a display after the first one. -/
def itemsRest : Pattern Rule :=
  pair (many (pair (op ",") starNamed.use)) (optional (op ","))

/-- The rest of a display whose first item has been read, and was not starred:
clauses that run through values, or more items. -/
def displayRest : Pattern Rule :=
  either clauses.use itemsRest

/-- The entries of a dictionary after the first one. -/
def entriesRest : Pattern Rule :=
  pair (many (pair (op ",") pairEntry.use)) (optional (op ","))

/-- A starred operand. -/
def starred : Pattern Rule :=
  pair (op "*") operation.use

/-- What stands between braces: nothing, entries, or items. -/
def inBraces : List (Pattern Rule) :=
  [ ahead (op "\x7d"),
    all [op "**", operation.use, entriesRest],
    pair starred itemsRest,
    pair binding.use displayRest,
    all [expression.use, notAhead (op ":="),
      either
        (all [op ":", expression.use, either clauses.use entriesRest])
        displayRest] ]

/-- What stands between parentheses: nothing, items, or one expression. -/
def inParentheses : List (Pattern Rule) :=
  let more := pair (op ",") (optional starNameds.use)
  [ ahead (op ")"),
    yieldExpr.use,
    pair starred more,
    pair named.use (any [clauses.use, more, empty]) ]

/-! ### Targets -/

/-- The target in brackets. -/
def bracketTargets : List (Pattern Rule) :=
  [ all [op "(", plainTarget.use, op ")"],
    all [op "(", op ")"],
    all [op "(", target.use, op ",", optional (trailed target.use), op ")"],
    all [op "[", optional (trailed target.use), op "]"] ]

/-! ### Cases -/

/-- A number, imaginary or not. -/
def number : Pattern Rule :=
  either (lexeme (.number false)) (lexeme (.number true))

/-- A name that a case gives to a value. -/
def captured : Pattern Rule :=
  pair (notAhead (word "_")) identifier

/-- What makes of a name at its end the name of a part, a class or a field. -/
def goesOn : Pattern Rule :=
  anyOp [".", "(", "="]

/-- The literals that a case may compare with. -/
def caseLiterals : List (Pattern Rule) :=
  let minus := optional (op "-")
  [ all [minus, number, notAhead (anyOp ["+", "-"])],
    all [minus, lexeme (.number false), anyOp ["+", "-"], lexeme (.number true)],
    texts.use, word "None", word "True", word "False" ]

/-- The entries of a dictionary that a case asks for. -/
def caseEntries : Pattern Rule :=
  let key := either caseLiteral.use (pair identifier (oneOrMore (pair (op ".") identifier)))
  let entry := all [key, op ":", casePattern.use]
  let others := pair (op "**") captured
  any [
    ahead (op "\x7d"),
    pair others (optional (op ",")),
    all [listed entry, optional (pair (op ",") (optional (pair others (optional (op ",")))))]]

/-- The arguments of a class that a case asks for: those without a name come
first. -/
def caseArguments : Pattern Rule :=
  let given := all [identifier, op "=", casePattern.use]
  any [
    ahead (op ")"),
    all [listed casePattern.use, optional (pair (op ",") (listed given)), optional (op ","),
      ahead (op ")")],
    trailed given]

/-- The patterns that need no brackets around them. -/
def closedPatterns : List (Pattern Rule) :=
  [ caseLiteral.use,
    pair captured (notAhead goesOn),
    word "_",
    all [identifier, oneOrMore (pair (op ".") identifier), notAhead goesOn],
    all [op "(", casePattern.use, op ")"],
    all [op "[", optional caseItems.use, op "]"],
    all [op "(", optional (pair caseItem.use (pair (op ",") (optional caseItems.use))), op ")"],
    all [op "\x7b", caseEntries, op "\x7d"],
    all [casePath.use, op "(", caseArguments, op ")"] ]

/-! ### All rules -/

/-- The pattern of each rule. -/
def pattern : Rule → Pattern Rule
  | statement => either (any compounds) simpleLine.use
  | block =>
    either (all [lexeme .newline, lexeme .indent, oneOrMore statement.use, lexeme .dedent])
      simpleLine.use
  | simpleLine =>
    all [simple.use, many (pair (op ";") simple.use), optional (op ";"), lexeme .newline]
  | simple => any ([assignment.use, expressions.use] ++ keywordStatements)
  | assignment => any assignments
  | importFrom =>
    let dots := either (op ".") (op "...")
    all [word "from", either (pair (many dots) dottedName.use) (oneOrMore dots), word "import",
      importTargets.use]
  | importTargets =>
    let named := listed (pair identifier (optional (pair (word "as") identifier)))
    any [
      all [op "(", named, optional (op ","), op ")"],
      pair named (notAhead (op ",")),
      op "*"]
  | dottedName => pair identifier (many (pair (op ".") identifier))
  | decorators => oneOrMore (all [op "@", named.use, lexeme .newline])
  | classDecl =>
    all [word "class", identifier,
      optional (all [op "(", optional arguments.use, op ")"]), op ":", block.use]
  | functionDef =>
    all [optional (word "async"), word "def", identifier, op "(", optional (params false).use,
      op ")", optional (pair (op "->") expression.use), op ":", block.use]
  | branch =>
    all [named.use, op ":", block.use,
      optional (either (pair (word "elif") branch.use) elseBlock.use)]
  | elseBlock => all [word "else", op ":", block.use]
  | whileLoop => all [word "while", named.use, op ":", block.use, optional elseBlock.use]
  | forLoop =>
    all [optional (word "async"), word "for", targets.use, word "in", expressions.use, op ":",
      block.use, optional elseBlock.use]
  | withBlock =>
    all [optional (word "async"), word "with",
      either
        (all [op "(", trailed withItem.use, op ")", op ":"])
        (pair (listed withItem.use) (op ":")),
      block.use]
  | withItem =>
    either
      (all [expression.use, word "as", target.use, ahead (anyOp [",", ")", ":"])])
      expression.use
  | tryBlock =>
    all [word "try", op ":", block.use,
      either finallyBlock.use
        (all [
          either (handlers (pair (word "except") (op "*")) false) (handlers (word "except") true),
          optional elseBlock.use, optional finallyBlock.use])]
  | finallyBlock => all [word "finally", op ":", block.use]
  | params l => any (leadingParams l)
  | param l => if l then identifier else pair identifier (optional (pair (op ":") expression.use))
  | plainParam l => pair (param l).use (either (op ",") (paramsEnd l))
  | defaultParam l =>
    all [(param l).use, op "=", expression.use, either (op ",") (paramsEnd l)]
  | anyParam l => either (defaultParam l).use (plainParam l).use
  | starParams l => any (starredParams l)
  | keywordParams l => pair (op "**") (plainParam l).use
  | expressions => trailed starExpression.use
  | starExpression => either starred expression.use
  | starNamed => either starred named.use
  | starNameds => trailed starNamed.use
  | binding => all [identifier, op ":=", expression.use]
  | named => either binding.use (pair expression.use (notAhead (op ":=")))
  | expression =>
    either lambda.use
      (pair disjunction.use
        (optional (all [word "if", disjunction.use, word "else", expression.use])))
  | yieldExpr =>
    pair (word "yield")
      (either (pair (word "from") expression.use) (optional expressions.use))
  | disjunction => pair conjunction.use (many (pair (word "or") conjunction.use))
  | conjunction => pair inversion.use (many (pair (word "and") inversion.use))
  | inversion => either (pair (word "not") inversion.use) comparison.use
  | comparison => pair operation.use (many (pair (any comparisons) operation.use))
  | operation => pair operand.use (many (pair (anyOp operators) operand.use))
  | operand => pair (many (anyOp ["+", "-", "~"])) (pair (optional (word "await")) primary.use)
  | primary => pair atom.use (many trailer.use)
  | trailer =>
    any [
      pair (op ".") identifier,
      all [op "(", optional arguments.use, op ")"],
      all [op "(", named.use, clauses.use, op ")"],
      all [op "[", subscripts.use, op "]"]]
  | subscripts =>
    trailed (either (pair (op "*") expression.use) subscript.use)
  | subscript =>
    either
      (all [optional expression.use, op ":", optional expression.use,
        optional (pair (op ":") (optional expression.use))])
      named.use
  | atom =>
    any [identifier, word "True", word "False", word "None", texts.use, number, group.use,
      list.use, braces.use, op "..."]
  | texts =>
    either
      (pair (oneOrMore (text false)) (notAhead (text true)))
      (pair (oneOrMore (text true)) (notAhead (text false)))
  | group => all [op "(", any inParentheses, op ")"]
  | list =>
    all [op "[",
      any [ahead (op "]"), pair starred itemsRest, pair named.use displayRest], op "]"]
  | braces => all [op "\x7b", any inBraces, op "\x7d"]
  | pairEntry =>
    either (pair (op "**") operation.use) (all [expression.use, op ":", expression.use])
  | clauses =>
    oneOrMore (all [optional (word "async"), word "for", targets.use, word "in", disjunction.use,
      many (pair (word "if") disjunction.use)])
  | lambda => all [word "lambda", optional (params true).use, op ":", expression.use]
  | arguments =>
    all [
      either
        (pair (listed argument.use) (optional (pair (op ",") keywordArguments.use)))
        keywordArguments.use,
      optional (op ","), ahead (op ")")]
  | argument =>
    either (pair (op "*") expression.use) (pair named.use (notAhead (op "=")))
  | keywordArguments =>
    let given := all [identifier, op "=", expression.use]
    let first := either given (pair (op "*") expression.use)
    let last := either given (pair (op "**") expression.use)
    either
      (pair (listed first) (optional (pair (op ",") (listed last))))
      (listed last)
  | targets => trailed target.use
  | target => either (all [op "*", notAhead (op "*"), target.use]) plainTarget.use
  | plainTarget => either memberTarget.use atomTarget.use
  | memberTarget =>
    all [atom.use, stepAhead, many (pair trailer.use stepAhead),
      either (pair (op ".") identifier) (all [op "[", subscripts.use, op "]"]),
      notAhead (anyOp ["(", "[", "."])]
  | atomTarget => any (identifier :: bracketTargets)
  | singleTarget => any [memberTarget.use, identifier, all [op "(", singleTarget.use, op ")"]]
  | deleted =>
    any [memberTarget.use, identifier,
      all [op "(", deleted.use, op ")"],
      all [op "(", optional (trailed deleted.use), op ")"],
      all [op "[", optional (trailed deleted.use), op "]"]]
  | matchBlock =>
    all [word "match",
      either
        (all [starNamed.use, op ",", optional starNameds.use])
        named.use,
      op ":", lexeme .newline, lexeme .indent, oneOrMore caseBlock.use, lexeme .dedent]
  | caseBlock =>
    all [word "case", casePatterns.use, optional (pair (word "if") named.use), op ":", block.use]
  | casePatterns =>
    either (all [caseItem.use, op ",", optional caseItems.use]) casePattern.use
  | casePattern =>
    all [closedPattern.use, many (pair (op "|") closedPattern.use),
      optional (pair (word "as") (pair captured (notAhead goesOn)))]
  | closedPattern => any closedPatterns
  | casePath => pair identifier (many (pair (op ".") identifier))
  | caseLiteral => any caseLiterals
  | caseItems => trailed caseItem.use
  | caseItem =>
    either (pair (op "*") (either captured (word "_"))) casePattern.use

/-- The slots of the rules that others may ask for at one place more than once,
and whose outcome may take long to find. -/
def slot? : Rule → Option Nat
  | expression => some 0
  | operation => some 1
  | primary => some 2
  | target => some 3
  | plainTarget => some 4
  | singleTarget => some 5
  | deleted => some 6
  | casePattern => some 7
  | closedPattern => some 8
  | _ => none

end Rule

/-- The grammar of modules. -/
def grammar : Grammar Rule :=
  ⟨Rule.pattern, Rule.slot?⟩

/-- How deep the search in a list of lexemes may go. -/
def searchDepth (ls : List Lexeme) : Nat :=
  400 * (ls.length + 1)

/-- The texts of the expressions in formatted texts. -/
def embedded (ls : List Lexeme) : List (List Char) :=
  ls.flatMap fun
    | .text _ sources => sources
    | _ => []

/-- The text is an expression that may stand in a formatted text; `fuel` bounds
how deep formatted texts are nested. -/
def isEmbeddable : Nat → List Char → Bool
  | 0, _ => false
  | fuel + 1, source =>
    match lexemes? (String.ofList ('(' :: source ++ [')'])) with
    | some ls =>
      (Pattern.rest? grammar (searchDepth ls) Rule.expressions.use ls).isSome
        && (embedded ls).all (isEmbeddable fuel)
    | none => false

/-- The text is a module: lexemes that make statements, and nothing else. -/
def isModule (s : String) : Bool :=
  match lexemes? s with
  | some ls =>
    Pattern.rest? grammar (searchDepth ls) (.many Rule.statement.use) ls == some []
      && (embedded ls).all (isEmbeddable (s.length + 1))
  | none => false

end Code
end ChainedSdk
