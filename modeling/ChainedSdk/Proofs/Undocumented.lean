/-
# Code and its documentation

Code is rendered in pieces: lines, and documentations under an indentation
(`Statement.lines_eq`). If nothing is said in any documentation, the pieces are the
same but for what the documentations say (`Statement.pieces_bare`). The declarations of
a module are the pieces of all of them, with empty lines between them
(`blocks_render`), so modules whose declarations are the same without documentation
have the same pieces, but for what the documentations say (`declarationPieces_bare`).

Key definitions: `Code.Statement.bare`, `Code.Piece`, `Code.Statement.pieces`,
`Code.declarationPieces`, `Code.Piece.textOf`.
Key theorems: `Code.Statement.lines_eq`, `Code.Statement.pieces_bare`,
`Code.declarationPieces_bare`, `Code.blocks_render`.
-/
import ChainedSdk.Proofs.Layout
import ChainedSdk.Proofs.Nesting
import ChainedSdk.Proofs.TripleQuotes

namespace ChainedSdk

namespace Code

/-! ### Code that says nothing -/

/-- A function without its body, and without what its documentation says. -/
def Signature.bare (s : Signature) : Signature :=
  { s with doc? := s.doc?.map fun _ => {} }

mutual

/-- A statement without what its documentations say. -/
def Statement.bare : Statement → Statement
  | .ret value => .ret value
  | .assign target value => .assign target value
  | .function f => .function f.bare
  | .classDecl c => .classDecl c.bare
  | .text name value => .text name value

/-- A function without what its documentations say. -/
def FunctionDef.bare : FunctionDef → FunctionDef
  | ⟨signature, body⟩ => ⟨signature.bare, bareBody body⟩

/-- A body without what its documentations say. -/
def bareBody : List Statement → List Statement
  | [] => []
  | s :: rest => s.bare :: bareBody rest

/-- A class without what its documentations say. -/
def ClassDecl.bare : ClassDecl → ClassDecl
  | ⟨name, bases, fields, methods, doc?⟩ =>
    ⟨name, bases, fields, bareMethods methods, doc?.map fun _ => {}⟩

/-- Methods without what their documentations say. -/
def bareMethods : List FunctionDef → List FunctionDef
  | [] => []
  | f :: rest => f.bare :: bareMethods rest

end

/-! ### Pieces of code -/

/-- A line of code, or a documentation under an indentation. -/
inductive Piece where
  | line (text : String)
  | doc (d : DocBlock) (indent : String)

namespace Piece

/-- The lines of a piece. -/
def lines : Piece → List String
  | .line text => [text]
  | .doc d indent => d.render indent

/-- The text of a piece. -/
def text (p : Piece) : String :=
  Text.joinWith "\n" p.lines

/-- The piece without what a documentation says. -/
def bare : Piece → Piece
  | .line text => .line text
  | .doc _ indent => .doc {} indent

end Piece

/-- Lines are pieces. -/
def linePieces (ls : List String) : List Piece :=
  ls.map .line

/-- The sections of a class with empty lines between them. -/
def joinPieces : List (List Piece) → List Piece
  | [] => []
  | [s] => s
  | s :: rest => s ++ .line "" :: joinPieces rest

/-- The sections of a class: its documentation, its fields, and its methods. -/
def classSections (indent : String) (doc? : Option DocBlock) (fields : List Field)
    (methods : List (List Piece)) : List (List Piece) :=
  (match doc? with
    | some d => [[.doc d indent]]
    | none => [])
  ++ (if fields.isEmpty then []
    else [linePieces (fields.map fun f => indent ++ f.name ++ ": " ++ f.typeText)])
  ++ methods

/-- What is below the header of a class: its sections, or the empty statement. -/
def classBody (indent : String) (sections : List (List Piece)) : List Piece :=
  if sections.isEmpty then [.line (indent ++ "pass")] else joinPieces sections

mutual

/-- The pieces of a statement. -/
def Statement.pieces (indent : String) : Statement → List Piece
  | .ret value => linePieces (returnLines value indent)
  | .assign target value => [.line (indent ++ target ++ " = " ++ value.text)]
  | .function f => f.pieces indent
  | .classDecl c => c.pieces indent
  | .text name value => linePieces (constantLines indent name value)

/-- The pieces of a function. -/
def FunctionDef.pieces (indent : String) : FunctionDef → List Piece
  | ⟨signature, body⟩ =>
    let inner := indent ++ indentStep
    let doc :=
      match signature.doc? with
      | some d => [Piece.doc d inner]
      | none => []
    let rest :=
      if signature.doc?.isNone && body.isEmpty then [.line (inner ++ "pass")]
      else bodyPieces inner false body
    linePieces (signature.headerLines indent) ++ doc ++ rest

/-- The pieces of a body. -/
def bodyPieces (indent : String) (afterFunction : Bool) : List Statement → List Piece
  | [] => []
  | s :: rest =>
    (if s.isFunction || afterFunction then [.line ""] else []) ++ s.pieces indent
      ++ bodyPieces indent s.isFunction rest

/-- The pieces of a class. -/
def ClassDecl.pieces (indent : String) : ClassDecl → List Piece
  | ⟨name, bases, fields, methods, doc?⟩ =>
    if ClassDecl.needsCall bases fields then
      [.line (indent ++ ClassDecl.callText name fields)]
    else
      let header :=
        if bases.isEmpty then "class " ++ name ++ ":"
        else "class " ++ name ++ "(" ++ Text.joinWith ", " bases ++ "):"
      .line (indent ++ header) :: classBody (indent ++ indentStep)
        (classSections (indent ++ indentStep) doc? fields
          (methodPieces (indent ++ indentStep) methods))

/-- The pieces of the methods of a class. -/
def methodPieces (indent : String) : List FunctionDef → List (List Piece)
  | [] => []
  | f :: rest => f.pieces indent :: methodPieces indent rest

end

theorem flatMap_linePieces (ls : List String) : (linePieces ls).flatMap Piece.lines = ls := by
  unfold linePieces
  rw [List.flatMap_map]
  exact List.flatMap_singleton' ls

theorem flatMap_joinPieces : ∀ ss : List (List Piece),
    (joinPieces ss).flatMap Piece.lines = joinSections (ss.map (·.flatMap Piece.lines))
  | [] => rfl
  | [s] => rfl
  | s :: t :: ss => by
    have ih := flatMap_joinPieces (t :: ss)
    rw [joinPieces, List.flatMap_append, List.flatMap_cons, ih]
    · rfl
    · simp

theorem map_bare_linePieces (ls : List String) :
    (linePieces ls).map Piece.bare = linePieces ls := by
  unfold linePieces
  rw [List.map_map]
  rfl

theorem map_bare_joinPieces : ∀ ss : List (List Piece),
    (joinPieces ss).map Piece.bare = joinPieces (ss.map (·.map Piece.bare))
  | [] => rfl
  | [s] => rfl
  | s :: t :: ss => by
    have ih := map_bare_joinPieces (t :: ss)
    rw [joinPieces, List.map_append, List.map_cons, ih]
    · rfl
    · simp

theorem flatMap_classBody (indent : String) (sections : List (List Piece)) :
    (classBody indent sections).flatMap Piece.lines =
      if (sections.map (·.flatMap Piece.lines)).isEmpty then [indent ++ "pass"]
      else joinSections (sections.map (·.flatMap Piece.lines)) := by
  unfold classBody
  cases sections with
  | nil => rfl
  | cons s ss => exact flatMap_joinPieces (s :: ss)

theorem map_lines_classSections (indent : String) (doc? : Option DocBlock) (fields : List Field)
    (methods : List (List Piece)) :
    (classSections indent doc? fields methods).map (·.flatMap Piece.lines) =
      (match doc? with
        | some d => [d.render indent]
        | none => [])
      ++ (if fields.isEmpty then []
        else [fields.map fun f => indent ++ f.name ++ ": " ++ f.typeText])
      ++ methods.map (·.flatMap Piece.lines) := by
  unfold classSections
  rw [List.map_append, List.map_append]
  congr 2
  · cases doc? with
    | none => rfl
    | some d => simp [Piece.lines]
  · split
    · rfl
    · rw [List.map_singleton, flatMap_linePieces]

theorem map_bare_classBody (indent : String) (sections : List (List Piece)) :
    (classBody indent sections).map Piece.bare =
      classBody indent (sections.map (·.map Piece.bare)) := by
  unfold classBody
  cases sections with
  | nil => rfl
  | cons s ss => exact map_bare_joinPieces (s :: ss)

theorem map_bare_classSections (indent : String) (doc? : Option DocBlock) (fields : List Field)
    (methods : List (List Piece)) :
    (classSections indent doc? fields methods).map (·.map Piece.bare) =
      classSections indent (doc?.map fun _ => {}) fields (methods.map (·.map Piece.bare)) := by
  unfold classSections
  rw [List.map_append, List.map_append]
  congr 2
  · cases doc? <;> rfl
  · split
    · rfl
    · rw [List.map_singleton, map_bare_linePieces]

mutual

/-- **Code is rendered in pieces.** -/
theorem Statement.lines_eq (indent : String) : ∀ s : Statement,
    s.lines indent = (s.pieces indent).flatMap Piece.lines
  | .ret value => by rw [Statement.lines, Statement.pieces, flatMap_linePieces]
  | .assign target value => rfl
  | .function f => by rw [Statement.lines, Statement.pieces, FunctionDef.lines_eq indent f]
  | .classDecl c => by rw [Statement.lines, Statement.pieces, ClassDecl.lines_eq_pieces indent c]
  | .text name value => by rw [Statement.lines, Statement.pieces, flatMap_linePieces]

theorem FunctionDef.lines_eq (indent : String) : ∀ f : FunctionDef,
    f.lines indent = (f.pieces indent).flatMap Piece.lines
  | ⟨signature, body⟩ => by
    rw [FunctionDef.lines, FunctionDef.pieces]
    simp only [List.flatMap_append, flatMap_linePieces]
    congr 1
    · congr 1
      cases signature.doc? with
      | none => rfl
      | some d => simp [Piece.lines]
    · split
      · rfl
      · exact bodyLines_eq _ false body

theorem bodyLines_eq (indent : String) : ∀ (afterFunction : Bool) (body : List Statement),
    bodyLines indent afterFunction body
      = (bodyPieces indent afterFunction body).flatMap Piece.lines
  | _, [] => rfl
  | afterFunction, s :: rest => by
    rw [bodyLines, bodyPieces, List.flatMap_append, List.flatMap_append, Statement.lines_eq indent s,
      bodyLines_eq indent s.isFunction rest]
    congr 2
    split <;> rfl

theorem ClassDecl.lines_eq_pieces (indent : String) : ∀ c : ClassDecl,
    c.lines indent = (c.pieces indent).flatMap Piece.lines
  | ⟨name, bases, fields, methods, doc?⟩ => by
    rw [ClassDecl.lines, ClassDecl.pieces]
    split
    · rfl
    · rw [List.flatMap_cons, flatMap_classBody, map_lines_classSections, ← methodSections_eq]
      rfl

theorem methodSections_eq (indent : String) : ∀ methods : List FunctionDef,
    methodSections indent methods
      = (methodPieces indent methods).map (·.flatMap Piece.lines)
  | [] => rfl
  | f :: rest => by
    rw [methodSections, methodPieces, List.map_cons, FunctionDef.lines_eq indent f,
      methodSections_eq indent rest]

end

/-! ### Pieces of code that says nothing -/

theorem bareBody_eq_map : ∀ body : List Statement, bareBody body = body.map Statement.bare
  | [] => rfl
  | s :: rest => by rw [bareBody, bareBody_eq_map rest, List.map_cons]

theorem bareMethods_eq_map : ∀ methods : List FunctionDef,
    bareMethods methods = methods.map FunctionDef.bare
  | [] => rfl
  | f :: rest => by rw [bareMethods, bareMethods_eq_map rest, List.map_cons]

theorem isFunction_bare (s : Statement) : s.bare.isFunction = s.isFunction := by
  cases s <;> rfl

theorem isEmpty_bareBody (body : List Statement) : (bareBody body).isEmpty = body.isEmpty := by
  cases body <;> rfl

mutual

/-- **Code that says nothing has the same pieces**, but for what documentations say. -/
theorem Statement.pieces_bare (indent : String) : ∀ s : Statement,
    s.bare.pieces indent = (s.pieces indent).map Piece.bare
  | .ret value => by rw [Statement.bare, Statement.pieces, map_bare_linePieces]
  | .assign target value => rfl
  | .function f => by
    rw [Statement.bare, Statement.pieces, Statement.pieces, FunctionDef.pieces_bare indent f]
  | .classDecl c => by
    rw [Statement.bare, Statement.pieces, Statement.pieces, ClassDecl.pieces_bare indent c]
  | .text name value => by rw [Statement.bare, Statement.pieces, map_bare_linePieces]

theorem FunctionDef.pieces_bare (indent : String) : ∀ f : FunctionDef,
    f.bare.pieces indent = (f.pieces indent).map Piece.bare
  | ⟨signature, body⟩ => by
    have hbody := bodyPieces_bare (indent ++ indentStep) false body
    have hheader : signature.bare.headerLines indent = signature.headerLines indent := rfl
    rw [FunctionDef.bare, FunctionDef.pieces, FunctionDef.pieces, isEmpty_bareBody, hbody, hheader]
    simp only [List.map_append, map_bare_linePieces]
    unfold Signature.bare
    cases signature.doc? with
    | none =>
      congr 1
      simp only [Option.map_none, Option.isNone_none, Bool.true_and]
      split <;> rfl
    | some d => rfl

theorem bodyPieces_bare (indent : String) : ∀ (afterFunction : Bool) (body : List Statement),
    bodyPieces indent afterFunction (bareBody body)
      = (bodyPieces indent afterFunction body).map Piece.bare
  | _, [] => rfl
  | afterFunction, s :: rest => by
    rw [bareBody, bodyPieces, bodyPieces, isFunction_bare, Statement.pieces_bare indent s,
      bodyPieces_bare indent s.isFunction rest, List.map_append, List.map_append]
    congr 2
    split <;> rfl

theorem ClassDecl.pieces_bare (indent : String) : ∀ c : ClassDecl,
    c.bare.pieces indent = (c.pieces indent).map Piece.bare
  | ⟨name, bases, fields, methods, doc?⟩ => by
    rw [ClassDecl.bare, ClassDecl.pieces, ClassDecl.pieces]
    split
    · rfl
    · rw [List.map_cons, map_bare_classBody, map_bare_classSections, methodPieces_bare]
      rfl

theorem methodPieces_bare (indent : String) : ∀ methods : List FunctionDef,
    methodPieces indent (bareMethods methods)
      = (methodPieces indent methods).map (·.map Piece.bare)
  | [] => rfl
  | f :: rest => by
    rw [bareMethods, methodPieces, methodPieces, List.map_cons, FunctionDef.pieces_bare indent f,
      methodPieces_bare indent rest]

end

/-! ### Declarations in a module -/

/-- The text of pieces, each of their lines with its line break. -/
def Piece.textOf (ps : List Piece) : String :=
  Text.joinWith "" ((ps.flatMap Piece.lines).map SdkModule.line)

/-- The pieces of declarations, with two empty lines above each of them. -/
def declarationPieces (ss : List Statement) : List Piece :=
  ss.flatMap fun s => .line "" :: .line "" :: s.pieces ""

theorem Piece.textOf_append (ps qs : List Piece) : textOf (ps ++ qs) = textOf ps ++ textOf qs := by
  unfold textOf
  rw [List.flatMap_append, List.map_append, Text.joinWith_append]

theorem declarationPieces_append (ss ts : List Statement) :
    declarationPieces (ss ++ ts) = declarationPieces ss ++ declarationPieces ts :=
  List.flatMap_append

theorem declarationPieces_cons (s : Statement) (ss : List Statement) :
    declarationPieces (s :: ss) = declarationPieces [s] ++ declarationPieces ss :=
  declarationPieces_append [s] ss

/-- **Declarations that say nothing have the same pieces**, but for what documentations
say. -/
theorem declarationPieces_bare (ss : List Statement) :
    declarationPieces (ss.map Statement.bare) = (declarationPieces ss).map Piece.bare := by
  unfold declarationPieces
  rw [List.flatMap_map, List.map_flatMap]
  refine List.flatMap_congr fun s _ => ?_
  rw [Statement.pieces_bare, List.map_cons, List.map_cons]
  rfl

/-- A declaration in a module is its pieces below two empty lines. -/
theorem block_render_singleton (s : Statement) :
    SdkModule.block (render [s]) = Piece.textOf (declarationPieces [s]) := by
  obtain ⟨l, hl, -⟩ := s.exists_line_ne ""
  obtain ⟨ls, last, hlines⟩ :=
    (List.eq_nil_or_concat' (s.lines "")).resolve_left (List.ne_nil_of_mem hl)
  have htext : render [s] = Text.joinWith "" (ls.map SdkModule.line) ++ last := by
    show Text.joinWith "\n" (s.lines "") = _
    rw [hlines]
    exact Text.joinWith_concat "\n" last ls
  have hpieces : (declarationPieces [s]).flatMap Piece.lines = "" :: "" :: (ls ++ [last]) := by
    rw [← hlines, Statement.lines_eq]
    simp [declarationPieces, Piece.lines]
  unfold Piece.textOf SdkModule.block
  rw [hpieces, htext, List.map_cons, List.map_cons, List.map_append, Text.joinWith_cons,
    Text.joinWith_cons, Text.joinWith_append]
  simp only [SdkModule.line, List.map_singleton, Text.joinWith, String.append_assoc,
    String.empty_append]
  rfl

/-- Declarations that are rendered together stand in a module one after the other. -/
theorem block_render : ∀ {ss : List Statement}, ss ≠ [] →
    SdkModule.block (render ss) = Piece.textOf (declarationPieces ss)
  | [s], _ => block_render_singleton s
  | s :: t :: ss, _ => by
    have ih := block_render (List.cons_ne_nil t ss)
    have hrender : SdkModule.block (render (s :: t :: ss)) =
        SdkModule.block (render [s]) ++ SdkModule.block (render (t :: ss)) := by
      have hsep : "\n\n\n" = "\n" ++ "\n\n" := rfl
      unfold SdkModule.block SdkModule.line render
      rw [List.map_cons, List.map_cons, Text.joinWith_cons_cons, hsep]
      simp only [String.append_assoc]
      rfl
    rw [hrender, ih, block_render_singleton, declarationPieces_cons s (t :: ss),
      Piece.textOf_append]

/-- **The declarations of a module are their pieces.** -/
theorem blocks_render {α : Type} {f : α → List Statement} (hf : ∀ a, f a ≠ []) (xs : List α) :
    SdkModule.blocks (xs.map fun a => render (f a)) =
      Piece.textOf (declarationPieces (xs.flatMap f)) := by
  induction xs with
  | nil => rfl
  | cons a xs ih =>
    have hcons := SdkModule.blocks_append [render (f a)] (xs.map fun a => render (f a))
    rw [List.map_cons, List.flatMap_cons, declarationPieces_append, Piece.textOf_append, ← ih,
      ← block_render (hf a)]
    exact hcons

end Code
end ChainedSdk
