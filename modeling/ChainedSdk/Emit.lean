/-
# Computations that leave something behind

Building an SDK gives code, and leaves behind what the whole module needs once:
records and results to declare, scalars whose imports are used, and log
records. None of it is looked at while code is built, so it is collected
beside the outcome, in order, and kept when the building fails.

The declaration of a result is worked out only when its name is new, and may
fail then. So what a computation comes to is known once its effects have been
settled against what is declared.

Key definitions: `Effect`, `Emit`, `Declared`, `Declared.absorb`,
`Emit.settle`.
-/
import ChainedSdk.Code.Tree
import ChainedSdk.Log
import ChainedSdk.ScalarRegistry

namespace ChainedSdk

open Code (ClassDecl)

/-- Something that building code leaves behind; `ε` are the reasons why the
declaration of a result may fail. -/
inductive Effect (ε : Type) where
  | log (r : LogRecord)
  | scalar (name : String)
  | record (d : ClassDecl)
  | result (name : String) (declaration : Except ε ClassDecl)

/-- An outcome and what was left behind on the way to it. -/
structure Emit (ε α : Type) where
  effects : List (Effect ε)
  outcome : Except ε α

namespace Emit

variable {ε α β : Type}

/-- Leaves things behind. -/
def tell (es : List (Effect ε)) : Emit ε Unit :=
  ⟨es, .ok ()⟩

/-- Fails. -/
def fail (e : ε) : Emit ε α :=
  ⟨[], .error e⟩

/-- An outcome that leaves nothing behind. -/
def ofExcept (x : Except ε α) : Emit ε α :=
  ⟨[], x⟩

/-- The second computation goes on from the first one's value. -/
def andThen (x : Emit ε α) (f : α → Emit ε β) : Emit ε β :=
  match x.outcome with
  | .ok a => ⟨x.effects ++ (f a).effects, (f a).outcome⟩
  | .error e => ⟨x.effects, .error e⟩

instance : Monad (Emit ε) where
  pure a := ⟨[], .ok a⟩
  bind := andThen

end Emit

/-- What a module has to declare and import: classes by their names, in the
order in which they were first asked for, and the scalars used. -/
structure Declared where
  records : List (String × ClassDecl) := []
  results : List (String × ClassDecl) := []
  scalars : ScalarRegistry

namespace Declared

/-- What is declared after one more effect. A name that is declared stays as
it is. -/
def absorb {ε : Type} (d : Declared) : Effect ε → Except ε Declared
  | .log _ => .ok d
  | .scalar name => .ok { d with scalars := d.scalars.markUsed name }
  | .record c => .ok { d with records := Assoc.add c.name c d.records }
  | .result name declaration =>
    if Assoc.has name d.results then .ok d
    else declaration.map fun c => { d with results := Assoc.add name c d.results }

end Declared

/-- What a computation comes to: its outcome, what is declared after it, and
what was reported. -/
structure Settlement (ε α : Type) where
  outcome : Except ε α
  declared : Declared
  log : List LogRecord

namespace Emit

variable {ε α : Type}

/-- Settles an outcome whose effects are yet to be absorbed. A declaration
that fails is the outcome, and ends what is left behind. -/
def settleFrom (outcome : Except ε α) (d : Declared) (log : List LogRecord) :
    List (Effect ε) → Settlement ε α
  | [] => ⟨outcome, d, log⟩
  | e :: rest =>
    match d.absorb e with
    | .error fault => ⟨.error fault, d, log⟩
    | .ok d =>
      match e with
      | .log r => settleFrom outcome d (log ++ [r]) rest
      | _ => settleFrom outcome d log rest

/-- What the computation comes to where something is declared already. -/
def settle (d : Declared) (x : Emit ε α) : Settlement ε α :=
  settleFrom x.outcome d [] x.effects

end Emit
end ChainedSdk
