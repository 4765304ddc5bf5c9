/-
# JSON values

A number written with a point or an exponent is kept apart from a whole
number, and an object keeps the order of its keys. `nan` stands for the
number word that is no number, which some writers use.

Key definitions: `Json`, `Json.field?`, `Json.sameValue`.
-/
import ChainedSdk.Assoc
import ChainedSdk.Number.Double

namespace ChainedSdk

/-- A JSON value. -/
inductive Json where
  | null
  | bool (b : Bool)
  | int (n : Int)
  | decimal (d : Decimal)
  | nan
  | string (s : String)
  | array (items : List Json)
  | object (fields : List (String × Json))
deriving Repr, BEq, Inhabited

namespace Json

/-- The value of an object's field. -/
def field? (key : String) : Json → Option Json
  | .object fields => Assoc.get? key fields
  | _ => none

mutual

/-- The number of values a value is made of. -/
def size : Json → Nat
  | .array items => sizeItems items + 1
  | .object fields => sizeFields fields + 1
  | _ => 1

/-- The number of values in the items of an array. -/
def sizeItems : List Json → Nat
  | [] => 0
  | x :: xs => size x + sizeItems xs

/-- The number of values in the fields of an object. -/
def sizeFields : List (String × Json) → Nat
  | [] => 0
  | (_, x) :: xs => size x + sizeFields xs

end

/-- A text field of an object; the empty text if there is none. -/
def textField (key : String) (j : Json) : String :=
  match j.field? key with
  | some (.string s) => s
  | _ => ""

/-- A text field of an object that may be missing. -/
def textField? (key : String) (j : Json) : Option String :=
  match j.field? key with
  | some (.string s) => some s
  | _ => none

/-- A truth value of an object, with a value to assume if there is none. -/
def boolField (key : String) (assumed : Bool) (j : Json) : Bool :=
  match j.field? key with
  | some (.bool b) => b
  | _ => assumed

/-- The items of an array field of an object; none if there is no such field. -/
def arrayField (key : String) (j : Json) : List Json :=
  match j.field? key with
  | some (.array items) => items
  | _ => []

/-- The texts of an array field of an object. -/
def textsField (key : String) (j : Json) : List String :=
  (j.arrayField key).filterMap fun
    | .string s => some s
    | _ => none

/-- A number or truth value as a double or a whole number. -/
def number? : Json → Option (Int ⊕ Double)
  | .bool b => some (.inl (if b then 1 else 0))
  | .int n => some (.inl n)
  | .decimal d => some (.inr d.toDouble)
  | _ => none

/-- Two scalars are the same value: numbers by what they amount to, whatever
they are written like, a truth value being zero or one. -/
def sameScalar (a b : Json) : Bool :=
  match a.number?, b.number? with
  | some (.inl m), some (.inl n) => m == n
  | some (.inl m), some (.inr d) => d.compareInt m == .eq
  | some (.inr d), some (.inl m) => d.compareInt m == .eq
  | some (.inr d), some (.inr e) => d.sameNumber e
  | some _, none => false
  | none, some _ => false
  | none, none =>
    match a, b with
    | .null, .null => true
    | .string s, .string t => s == t
    | _, _ => false

mutual

/-- Two values are the same: arrays item by item, objects whatever the order
of their keys. -/
def sameValue : Json → Json → Bool
  | .array xs, .array ys => sameItems xs ys
  | .object xs, .object ys => xs.length == ys.length && sameFields xs ys
  | .array _, _ => false
  | .object _, _ => false
  | a, b => sameScalar a b

/-- The items of two arrays are the same, in order. -/
def sameItems : List Json → List Json → Bool
  | [], [] => true
  | x :: xs, y :: ys => sameValue x y && sameItems xs ys
  | _, _ => false

/-- Every field has the same value in the other object. -/
def sameFields : List (String × Json) → List (String × Json) → Bool
  | [], _ => true
  | (k, x) :: xs, ys =>
    (match Assoc.get? k ys with
      | some y => sameValue x y
      | none => false) && sameFields xs ys

end

end Json
end ChainedSdk
