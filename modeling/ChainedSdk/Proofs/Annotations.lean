/-
# Annotations keep the structure of types

A reference to a type has levels: its lists from the outside in, and last the innermost
name; and of each one it says whether null is a value (`TypeRef.levels`). The annotation
of a reference encloses that of its innermost name in `Optional[..]` for each level of
which null is a value, and in `list[..]` for each list, in the order of the levels
(`refHint_text`).

What encloses a text can be told from the text that comes out, whatever stands inside,
brackets too (`Code.enclose_inj`): the two openings differ in their first character, and
a text is not enclosed in anything if it stays as it is. The levels can be told from
what encloses, and the reference from its levels and its innermost name
(`TypeRef.ofEnclosures_enclosures`). So different references to types of one name have
different annotations (`annotations_keep_structure`).

Key definitions: `TypeRef.levels`, `TypeRef.enclosures`, `TypeRef.WellFormed`,
`Code.enclose`.
Key theorems: `refHint_text`, `Code.enclose_inj`, `TypeRef.ofEnclosures_enclosures`,
`annotations_keep_structure`.
-/
import ChainedSdk.Method
import ChainedSdk.Proofs.Emission

namespace ChainedSdk

/-! ### What encloses an annotation -/

namespace Code

/-- What may enclose an annotation. -/
inductive Enclosure where
  | list
  | optional
deriving DecidableEq, Repr

/-- The text before what is enclosed. -/
def Enclosure.opening : Enclosure → String
  | list => "list["
  | optional => "Optional["

/-- A text in what encloses it, from the outside in. -/
def enclose : List Enclosure → String → String
  | [], text => text
  | e :: es, text => e.opening ++ enclose es text ++ "]"

theorem enclose_ne {text : String} (h : text ≠ "") : ∀ es : List Enclosure, enclose es text ≠ ""
  | [] => h
  | e :: es => by simp [enclose]

theorem length_le_enclose (text : String) : ∀ es : List Enclosure,
    text.length + es.length ≤ (enclose es text).length
  | [] => Nat.le_refl _
  | e :: es => by
    have ih := length_le_enclose text es
    have hone : "]".length = 1 := rfl
    rw [enclose, String.length_append, String.length_append, List.length_cons, hone]
    omega

/-- The openings are told apart by their first characters. -/
theorem opening_inj {x y : Enclosure} {s t : String}
    (h : x.opening ++ s ++ "]" = y.opening ++ t ++ "]") : x = y ∧ s = t := by
  have hl := congrArg String.toList h
  simp only [String.toList_append] at hl
  have hinner := (List.append_inj' hl rfl).1
  have hsame : x = y := by
    cases x with
    | list =>
      cases y with
      | list => rfl
      | optional => simp [Enclosure.opening] at hinner
    | optional =>
      cases y with
      | list => simp [Enclosure.opening] at hinner
      | optional => rfl
  subst hsame
  exact ⟨rfl, String.toList_injective (List.append_cancel_left hinner)⟩

/-- **What encloses a text can be told** from what comes out, whatever the text is. -/
theorem enclose_inj {text : String} : ∀ {xs ys : List Enclosure},
    enclose xs text = enclose ys text → xs = ys
  | [], [], _ => rfl
  | [], y :: ys, h => by
    have hlength := length_le_enclose text (y :: ys)
    rw [← h, enclose, List.length_cons] at hlength
    omega
  | x :: xs, [], h => by
    have hlength := length_le_enclose text (x :: xs)
    rw [h, enclose, List.length_cons] at hlength
    omega
  | x :: xs, y :: ys, h => by
    have hfirst := opening_inj h
    have hrest : xs = ys := enclose_inj hfirst.2
    rw [hfirst.1, hrest]

end Code

open Code (Enclosure enclose)

/-! ### The levels of a reference -/

namespace GraphQL
namespace TypeRef

/-- A level of a reference: a list, or what is named innermost; and null is a value of
it or not. -/
structure Level where
  isList : Bool
  nullable : Bool
deriving DecidableEq, Repr

/-- What encloses the annotation of what is inside of a level. -/
def Level.enclosures (l : Level) : List Enclosure :=
  (if l.nullable then [.optional] else []) ++ (if l.isList then [.list] else [])

/-- The levels of a reference, from the outside in. -/
def levels : TypeRef → List Level
  | named _ => [⟨false, true⟩]
  | list item => ⟨true, true⟩ :: item.levels
  | nonNull inner => inner.levels.modifyHead fun l => { l with nullable := false }

/-- What encloses the annotation of the innermost name: `list` for each list and
`Optional` for each level of which null is a value, level by level. -/
def enclosures (t : TypeRef) : List Enclosure :=
  t.levels.flatMap Level.enclosures

/-- All names are there, and of no level it is said twice that null is no value. -/
def WellFormed : TypeRef → Prop
  | named name => name ≠ ""
  | list item => item.WellFormed
  | nonNull inner => inner.isNonNull = false ∧ inner.WellFormed

instance decidableWellFormed : ∀ t : TypeRef, Decidable t.WellFormed
  | named name => inferInstanceAs (Decidable (name ≠ ""))
  | list item => decidableWellFormed item
  | nonNull inner =>
    have := decidableWellFormed inner
    inferInstanceAs (Decidable (inner.isNonNull = false ∧ inner.WellFormed))

/-- The reference to a type with the given name that has the given enclosures. -/
def ofEnclosures (name : String) : List Enclosure → TypeRef
  | [] => .nonNull (.named name)
  | .list :: rest => .nonNull (.list (ofEnclosures name rest))
  | .optional :: .list :: rest => .list (ofEnclosures name rest)
  | .optional :: _ => .named name

theorem enclosures_list (item : TypeRef) :
    enclosures (.list item) = .optional :: .list :: item.enclosures := rfl

theorem enclosures_nonNull_list (item : TypeRef) :
    enclosures (.nonNull (.list item)) = .list :: item.enclosures := rfl

theorem enclosures_nonNull_nonNull (inner : TypeRef) :
    enclosures (.nonNull (.nonNull inner)) = enclosures (.nonNull inner) := by
  unfold enclosures
  rw [levels, levels, List.modifyHead_modifyHead]
  rfl

/-- **A reference can be told** from its innermost name and what encloses that. -/
theorem ofEnclosures_enclosures : ∀ {t : TypeRef}, t.WellFormed →
    ofEnclosures t.innermost t.enclosures = t
  | .named _, _ => rfl
  | .list item, h => by
    have ih : ofEnclosures item.innermost item.enclosures = item := ofEnclosures_enclosures h
    rw [enclosures_list, innermost, ofEnclosures, ih]
  | .nonNull (.named _), _ => rfl
  | .nonNull (.list item), h => by
    have ih : ofEnclosures item.innermost item.enclosures = item := ofEnclosures_enclosures h.2
    rw [enclosures_nonNull_list, innermost, innermost, ofEnclosures, ih]
  | .nonNull (.nonNull inner), h => by
    simp [WellFormed, isNonNull] at h

end TypeRef
end GraphQL

/-! ### The text of an annotation -/

namespace Conventions

theorem text_list {x : Code.TypeExpr} (h : x.text ≠ "") :
    (Code.TypeExpr.generic "list" [x]).text = "list[" ++ x.text ++ "]" := by
  simp [Code.TypeExpr.text, Code.typeTexts, Text.joinWith, h]

/-- **What encloses the annotation of the innermost name.** Inside of a reference to what
is not null, the annotation is that of the reference around. -/
theorem refHint_text (s : Conventions) : ∀ (t : GraphQL.TypeRef),
    (s.typeHint t.innermost).text ≠ "" → ∀ nullable : Bool, (s.refHint nullable t).text =
      enclose (if nullable then t else .nonNull t).enclosures (s.typeHint t.innermost).text
  | .named name, _, nullable => by cases nullable <;> rfl
  | .list item, h, nullable => by
    have ih : (s.refHint true item).text =
        enclose item.enclosures (s.typeHint item.innermost).text := refHint_text s item h true
    have hne : (s.refHint true item).text ≠ "" := ih ▸ Code.enclose_ne h _
    have hlist : (Code.TypeExpr.generic "list" [s.refHint true item]).text =
        enclose (.list :: item.enclosures) (s.typeHint item.innermost).text := by
      rw [text_list hne, ih]
      rfl
    rw [refHint]
    cases nullable with
    | false => exact hlist
    | true =>
      show "Optional[" ++ (Code.TypeExpr.generic "list" [s.refHint true item]).text ++ "]" = _
      rw [hlist]
      rfl
  | .nonNull inner, h, nullable => by
    have ih : (s.refHint false inner).text =
        enclose (GraphQL.TypeRef.nonNull inner).enclosures (s.typeHint inner.innermost).text :=
      refHint_text s inner h false
    rw [refHint, ih]
    cases nullable with
    | false => rw [if_neg Bool.false_ne_true, GraphQL.TypeRef.enclosures_nonNull_nonNull]; rfl
    | true => rfl

end Conventions

/-- No annotation of a name is empty, if none is configured to be. -/
theorem typeHint_text_ne {c : Config} (hc : ∀ e ∈ c.scalars, e.2 ≠ "") {name : String}
    (hname : name ≠ "") : (c.conventions.typeHint name).text ≠ "" := by
  have hbuiltin : ∀ e ∈ builtinScalars, e.2 ≠ "" := by decide
  have hhandlers : ∀ e ∈ defaultHandlers, e.2.hint ≠ "" := by decide
  have hhint : ∀ text, c.conventions.scalars.hint? name = some text → text ≠ "" := by
    intro text h
    unfold ScalarRegistry.hint? at h
    split at h
    case h_1 _ hint hget =>
      cases h
      exact hbuiltin _ (Assoc.mem_of_get? hget)
    case h_2 =>
      split at h
      case h_1 _ hint hget =>
        cases h
        exact hc _ (Assoc.mem_of_get? hget)
      case h_2 =>
        obtain ⟨handler, hget, rfl⟩ := Option.map_eq_some_iff.mp h
        exact hhandlers _ (Assoc.mem_of_get? hget)
  unfold Conventions.typeHint
  split
  case h_1 text h => exact hhint text h
  case h_2 =>
    show (if name = unknownTypeName then name else _) ≠ ""
    split
    · exact hname
    · unfold Config.namespacedType
      split
      · simp
      · exact hname

theorem innermost_ne {t : GraphQL.TypeRef} : t.WellFormed → t.innermost ≠ "" := by
  intro h
  induction t with
  | named name => exact h
  | list item ih => exact ih h
  | nonNull inner ih => exact ih h.2

/-- **Annotations keep the structure of types.** Two references to types of one name have
the same annotation only if they are the same, whatever text a scalar is annotated with;
and the annotation is that of the innermost name, enclosed in `list` for each list and
in `Optional` for each level of which null is a value, in their order. -/
theorem annotations_keep_structure {c : Config} (hc : ∀ e ∈ c.scalars, e.2 ≠ "")
    {t u : GraphQL.TypeRef} (ht : t.WellFormed) (hu : u.WellFormed)
    (hname : t.innermost = u.innermost) :
    ((c.conventions.variableHint t).text = (c.conventions.variableHint u).text ↔ t = u) ∧
    (c.conventions.variableHint t).text =
      enclose t.enclosures (c.conventions.typeHint t.innermost).text := by
  have htext : ∀ {r : GraphQL.TypeRef}, r.WellFormed → (c.conventions.variableHint r).text =
      enclose r.enclosures (c.conventions.typeHint r.innermost).text := fun {r} hr =>
    c.conventions.refHint_text r (typeHint_text_ne hc (innermost_ne hr)) true
  refine ⟨⟨fun h => ?_, fun h => by rw [h]⟩, htext ht⟩
  rw [htext ht, htext hu, hname] at h
  rw [← GraphQL.TypeRef.ofEnclosures_enclosures ht, ← GraphQL.TypeRef.ofEnclosures_enclosures hu,
    hname, Code.enclose_inj h]

/-- A list that may be null of what may not, and the other way round, where the scalar
inside has brackets of its own. -/
theorem sample_annotations :
    let c : Config := { scalars := [("Money", "list[Optional[int]]")] }
    let t : GraphQL.TypeRef := .list (.nonNull (.named "Money"))
    let u : GraphQL.TypeRef := .nonNull (.list (.named "Money"))
    (∀ e ∈ c.scalars, e.2 ≠ "") ∧ t.WellFormed ∧ u.WellFormed ∧ t.innermost = u.innermost ∧
      (c.conventions.variableHint t).text = "Optional[list[list[Optional[int]]]]" ∧
      (c.conventions.variableHint t).text ≠ (c.conventions.variableHint u).text := by
  intro c t u
  have hc : ∀ e ∈ c.scalars, e.2 ≠ "" := by decide
  have ht : t.WellFormed := by decide
  have hu : u.WellFormed := by decide
  obtain ⟨hiff, htext⟩ := annotations_keep_structure hc ht hu rfl
  exact ⟨hc, ht, hu, rfl, htext.trans (by decide +kernel), fun h => absurd (hiff.mp h) (by decide)⟩

end ChainedSdk
