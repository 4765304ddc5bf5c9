/-
# Patterns over lexemes

A pattern says which lexemes may stand at a place. Alternatives are ordered:
the first that fits is taken, and a repetition takes as much as fits, so that
a pattern fits a place in one way at most. Patterns may refer to named
patterns, the rules of a grammar.

A rule may be asked for at one place many times over. What became of it there
is kept for the rules that have a slot, so that the work grows with the number
of lexemes, however deep they are nested.

Key definitions: `Code.Pattern`, `Code.Grammar`, `Code.Pattern.fit`.
-/
import ChainedSdk.Code.Lexeme
import Std.Data.HashMap

namespace ChainedSdk
namespace Code

/-- A pattern; `R` are the names of rules. -/
inductive Pattern (R : Type) where
  /-- Nothing. -/
  | empty
  /-- One lexeme. -/
  | lexeme (l : Lexeme)
  /-- A name that is no keyword. -/
  | identifier
  /-- A text, of bytes or not. -/
  | text (bytes : Bool)
  /-- What the rule of this name stands for. -/
  | rule (r : R)
  /-- One pattern after the other. -/
  | pair (p q : Pattern R)
  /-- The first pattern, or else the second one. -/
  | either (p q : Pattern R)
  /-- The pattern as often as it fits; it has to be one that takes a lexeme. -/
  | many (p : Pattern R)
  /-- Nothing, where the pattern fits. -/
  | ahead (p : Pattern R)
  /-- Nothing, where the pattern does not fit. -/
  | notAhead (p : Pattern R)

/-- A grammar: its rules, and the slots of those whose outcome is kept. -/
structure Grammar (R : Type) where
  rules : R → Pattern R
  slot? : R → Option Nat

/-- The lexemes from a place on, and the number of lexemes before it. -/
structure Place where
  index : Nat
  lexemes : List Lexeme

/-- The place after the next lexeme, if the lexeme is fit. -/
def Place.next? (here : Place) (ok : Lexeme → Bool) : Option Place :=
  match here.lexemes with
  | l :: more => if ok l then some ⟨here.index + 1, more⟩ else none
  | [] => none

/-- What became of rules: by slot and place, the place after what fits. -/
abbrev Outcomes := Std.HashMap (Nat × Nat) (Option Place)

namespace Pattern

variable {R : Type}

/-- The place after the lexemes that a pattern fits from a place on, and what
is kept by then. The `fuel` bounds the depth of the search. -/
def fit (g : Grammar R) : Nat → Pattern R → Place → Outcomes → Option Place × Outcomes
  | 0, _, _, kept => (none, kept)
  | fuel + 1, p, here, kept =>
    match p with
    | empty => (some here, kept)
    | lexeme l => (here.next? (· = l), kept)
    | identifier =>
      (here.next? fun
        | .name s => !Text.isKeyword s
        | _ => false, kept)
    | text bytes =>
      (here.next? fun
        | .text b _ => b = bytes
        | _ => false, kept)
    | rule r =>
      match g.slot? r with
      | none => fit g fuel (g.rules r) here kept
      | some slot =>
        match kept.get? (slot, here.index) with
        | some outcome => (outcome, kept)
        | none =>
          match fit g fuel (g.rules r) here kept with
          | (outcome, kept) => (outcome, kept.insert (slot, here.index) outcome)
    | pair p q =>
      match fit g fuel p here kept with
      | (some there, kept) => fit g fuel q there kept
      | (none, kept) => (none, kept)
    | either p q =>
      match fit g fuel p here kept with
      | (some there, kept) => (some there, kept)
      | (none, kept) => fit g fuel q here kept
    | many p =>
      match fit g fuel p here kept with
      | (some there, kept) => fit g fuel (many p) there kept
      | (none, kept) => (some here, kept)
    | ahead p =>
      match fit g fuel p here kept with
      | (some _, kept) => (some here, kept)
      | (none, kept) => (none, kept)
    | notAhead p =>
      match fit g fuel p here kept with
      | (some _, kept) => (none, kept)
      | (none, kept) => (some here, kept)

/-- The lexemes after those that a pattern fits, at the start of a list. -/
def rest? (g : Grammar R) (fuel : Nat) (p : Pattern R) (ls : List Lexeme) :
    Option (List Lexeme) :=
  (fit g fuel p ⟨0, ls⟩ {}).1.map (·.lexemes)

/-! ### Patterns made of patterns -/

/-- All patterns, one after the other. -/
def all (ps : List (Pattern R)) : Pattern R :=
  match ps with
  | [] => empty
  | [p] => p
  | p :: more => pair p (all more)

/-- The first of the patterns that fits. -/
def any (ps : List (Pattern R)) : Pattern R :=
  match ps with
  | [] => notAhead empty
  | [p] => p
  | p :: more => either p (any more)

/-- The pattern, or nothing. -/
def optional (p : Pattern R) : Pattern R :=
  either p empty

/-- The pattern once or more. -/
def oneOrMore (p : Pattern R) : Pattern R :=
  pair p (many p)

/-- An operator. -/
def op (s : String) : Pattern R :=
  lexeme (.op s)

/-- A keyword. -/
def word (s : String) : Pattern R :=
  lexeme (.name s)

/-- The pattern once or more, with commas between. -/
def listed (p : Pattern R) : Pattern R :=
  pair p (many (pair (op ",") p))

/-- The pattern once or more, with commas between, and perhaps one at the
end. -/
def trailed (p : Pattern R) : Pattern R :=
  pair (listed p) (optional (op ","))

end Pattern
end Code
end ChainedSdk
