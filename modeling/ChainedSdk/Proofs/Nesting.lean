/-
# Indentation mirrors nesting

A function has the statements of its body inside, and a class its methods. Their lines
are its own, one step deeper, in order, with nothing but empty lines between them;
before them stand its documentation, its fields or the empty statement, which are a
step deeper too. So all that a block has is to be seen from the indentation: the lines
of the header start at the indentation of the block, and what is below, if it is not
empty, starts deeper, and there is such a line in every block
(`Code.indentation_mirrors_nesting`).

There is one statement that has methods and no lines for them: a record with a field
whose name cannot stand in a class body is a call on one line, and has its fields
alone (`Code.ClassDecl.methods_left_out`).

Key definitions: `Code.Statement.children`, `Code.Statement.Nested`,
`Code.Statement.headLines`, `Code.Stacked`, `Code.Statement.LaidOut`.
Key theorems: `Code.Statement.exists_below`, `Code.Statement.OneLined.under`,
`Code.indentation_mirrors_nesting`.
-/
import ChainedSdk.Proofs.Indentation

namespace ChainedSdk
namespace Code

open Text (OneLine oneLine_append)

/-! ### What is nested in a statement -/

/-- The statements inside a statement: those of the body of a function, and the methods
of a class that is not written as a call. -/
def Statement.children : Statement → List Statement
  | .function f => f.body
  | .classDecl c => if ClassDecl.needsCall c.bases c.fields then [] else c.methods.map .function
  | .ret _ | .assign .. | .text .. => []

/-- The statement has a header with a block below it. -/
def Statement.opensBlock : Statement → Bool
  | .function _ => true
  | .classDecl c => !ClassDecl.needsCall c.bases c.fields
  | .ret _ | .assign .. | .text .. => false

/-- `s.Nested n t`: the statement `t` is `n` levels inside the statement `s`. -/
inductive Statement.Nested : Statement → Nat → Statement → Prop
  | self (s : Statement) : s.Nested 0 s
  | inside {s t u : Statement} {n : Nat} (ht : t ∈ s.children) (hu : t.Nested n u) :
      s.Nested (n + 1) u

/-- An indentation some steps deeper. -/
def deeper : Nat → String → String
  | 0, indent => indent
  | n + 1, indent => deeper n (indent ++ indentStep)

/-- The lines of the header of a function or a class, and all lines of any other
statement. -/
def Statement.headLines (indent : String) : Statement → List String
  | .function f => f.signature.headerLines indent
  | .classDecl c => [indent ++ c.headText]
  | .ret value => returnLines value indent
  | .assign target value => [indent ++ target ++ " = " ++ value.text]
  | .text name value => constantLines indent name value

/-- The texts of a statement have one line each, those of the statements in it apart. A
text constant keeps the lines of its text, which are not indented, and is none of these. -/
def Statement.TextsOneLined : Statement → Prop
  | .ret value => OneLine value.text
  | .assign target value => OneLine target ∧ OneLine value.text
  | .function f => f.signature.OneLined
  | .classDecl c => c.OneLined
  | .text .. => False

instance : DecidablePred Statement.TextsOneLined
  | .ret value => inferInstanceAs (Decidable (OneLine value.text))
  | .assign target value => inferInstanceAs (Decidable (OneLine target ∧ OneLine value.text))
  | .function f => inferInstanceAs (Decidable f.signature.OneLined)
  | .classDecl c => inferInstanceAs (Decidable c.OneLined)
  | .text .. => inferInstanceAs (Decidable False)

/-- The texts of a statement have one line each, and so have those of all statements
nested in it. -/
inductive Statement.OneLined : Statement → Prop
  | intro {s : Statement} (texts : s.TextsOneLined) (children : ∀ t ∈ s.children, t.OneLined) :
      s.OneLined

/-! ### Groups of lines -/

/-- The lines are the groups, one after the other, with nothing but empty lines before,
between and behind them. -/
inductive Stacked : List (List String) → List String → Prop
  | nil : Stacked [] []
  | blank {groups : List (List String)} {lines : List String} (h : Stacked groups lines) :
      Stacked groups ("" :: lines)
  | group {groups : List (List String)} {lines : List String} (group : List String)
      (h : Stacked groups lines) : Stacked (group :: groups) (group ++ lines)

namespace Stacked

variable {groups : List (List String)} {lines : List String}

theorem mem (h : Stacked groups lines) {l : String} (hl : l ∈ lines) :
    l = "" ∨ ∃ group ∈ groups, l ∈ group := by
  induction h with
  | nil => cases hl
  | blank h ih =>
    rcases List.mem_cons.mp hl with hl | hl
    · exact .inl hl
    · exact ih hl
  | group group h ih =>
    rcases List.mem_append.mp hl with hl | hl
    · exact .inr ⟨group, List.mem_cons_self, hl⟩
    · exact (ih hl).imp_right fun ⟨g, hg, hl⟩ => ⟨g, List.mem_cons_of_mem _ hg, hl⟩

/-- Each group is contiguous. -/
theorem infix_of_mem (h : Stacked groups lines) {group : List String} (hg : group ∈ groups) :
    group <:+: lines := by
  induction h with
  | nil => cases hg
  | blank h ih => exact List.infix_cons (ih hg)
  | group first h ih =>
    rcases List.mem_cons.mp hg with rfl | hg
    · exact (List.prefix_append _ _).isInfix
    · exact List.infix_append_of_infix_right (ih hg)

/-- The sections of a class are stacked. -/
theorem joinSections : ∀ sections : List (List String), Stacked sections (Code.joinSections sections)
  | [] => .nil
  | [s] => by simpa [Code.joinSections] using Stacked.nil.group s
  | s :: t :: rest => (Stacked.blank (joinSections (t :: rest))).group s

/-- The statements of a body are stacked. -/
theorem bodyLines (indent : String) : ∀ (afterFunction : Bool) (body : List Statement),
    Stacked (body.map (·.lines indent)) (Code.bodyLines indent afterFunction body)
  | _, [] => by simpa [Code.bodyLines] using Stacked.nil
  | afterFunction, s :: rest => by
    have ih := (bodyLines indent s.isFunction rest).group (s.lines indent)
    rw [Code.bodyLines, List.append_assoc]
    split_ifs
    · exact ih.blank
    · exact ih

/-- Where groups are stacked, the last ones are stacked behind the first ones. -/
theorem exists_append {last : List (List String)} : ∀ {first : List (List String)}
    {lines : List String}, Stacked (first ++ last) lines →
    ∃ before behind, lines = before ++ behind ∧ Stacked first before ∧ Stacked last behind
  | [], lines, h => ⟨[], lines, rfl, .nil, h⟩
  | g :: first, lines, h => by
    -- empty lines before the first group stay before it
    generalize hgroups : g :: first ++ last = groups at h
    induction h with
    | nil => cases hgroups
    | blank h ih =>
      obtain ⟨before, behind, rfl, hbefore, hbehind⟩ := ih hgroups
      exact ⟨"" :: before, behind, rfl, hbefore.blank, hbehind⟩
    | group group h =>
      obtain ⟨rfl, rfl⟩ := List.cons.inj hgroups
      obtain ⟨before, behind, rfl, hbefore, hbehind⟩ := exists_append h
      exact ⟨g ++ before, behind, (List.append_assoc ..).symm, hbefore.group g, hbehind⟩

end Stacked

/-- Groups under an indentation are under it when they are stacked. -/
theorem Under.of_stacked {indent : String} {groups : List (List String)} {lines : List String}
    (h : Stacked groups lines) (hgroups : ∀ group ∈ groups, ∀ l ∈ group, Under indent l) :
    ∀ l ∈ lines, Under indent l := by
  intro l hl
  rcases h.mem hl with rfl | ⟨group, hgroup, hl⟩
  · exact .inl rfl
  · exact hgroups group hgroup l hl

/-! ### What is below a header -/

/-- A class that is a call has one line. -/
theorem ClassDecl.lines_of_needsCall {c : ClassDecl} (h : needsCall c.bases c.fields = true)
    (indent : String) : c.lines indent = [indent ++ c.headText] := by
  obtain ⟨name, bases, fields, methods, doc?⟩ := c
  unfold lines headText
  rw [if_pos h, if_pos h]

/-- The sections of a class before its methods: its documentation and its fields. -/
def ClassDecl.ownSections (c : ClassDecl) (inner : String) : List (List String) :=
  (match c.doc? with
    | some d => [d.render inner]
    | none => [])
  ++ (if c.fields.isEmpty then []
    else [c.fields.map fun f => inner ++ f.name ++ ": " ++ f.typeText])

theorem methodSections_eq_map (inner : String) : ∀ methods : List FunctionDef,
    methodSections inner methods = (methods.map Statement.function).map (·.lines inner)
  | [] => rfl
  | f :: rest => by
    rw [methodSections, methodSections_eq_map inner rest, List.map_cons, List.map_cons, Statement.lines]

/-- Any other class has its sections below its first line, or the empty statement. -/
theorem ClassDecl.lines_of_not_needsCall {c : ClassDecl} (h : ¬needsCall c.bases c.fields = true)
    (indent : String) :
    let inner := indent ++ indentStep
    let sections := c.ownSections inner ++ (c.methods.map Statement.function).map (·.lines inner)
    c.lines indent = [indent ++ c.headText] ++
      (if sections.isEmpty then [inner ++ "pass"] else joinSections sections) := by
  obtain ⟨name, bases, fields, methods, doc?⟩ := c
  unfold lines headText
  rw [if_neg h, if_neg h]
  simp only [methodSections_eq_map]
  rfl

/-- The lines of a function before its body: its documentation, or the empty statement if
there is nothing else. -/
def FunctionDef.ownLines (f : FunctionDef) (inner : String) : List String :=
  match f.signature.doc? with
  | some d => d.render inner
  | none => if f.body.isEmpty then [inner ++ "pass"] else []

/-- A function has its own lines and those of its body below its header. -/
theorem FunctionDef.lines_eq_own (f : FunctionDef) (indent : String) :
    let inner := indent ++ indentStep
    f.lines indent =
      f.signature.headerLines indent ++ (f.ownLines inner ++ bodyLines inner false f.body) := by
  obtain ⟨signature, body⟩ := f
  unfold lines ownLines
  cases signature.doc? with
  | some d => simp
  | none =>
    cases body with
    | nil => simp [bodyLines]
    | cons s body => simp

/-- Every statement has a line that is not empty. -/
theorem Statement.exists_line_ne (s : Statement) (indent : String) : ∃ l ∈ s.lines indent, l ≠ "" := by
  cases s with
  | ret value => exact exists_returnLine_ne value indent
  | assign target value => exact ⟨_, List.mem_cons_self, by simp⟩
  | text name value => exact exists_constantLine_ne indent name value
  | function f =>
    obtain ⟨l, hl, hne⟩ := f.signature.exists_headerLine_ne indent
    rw [lines, f.lines_eq_own]
    exact ⟨l, List.mem_append_left _ hl, hne⟩
  | classDecl c =>
    have hne : indent ++ c.headText ≠ "" := by simp [c.headText_ne]
    rw [lines]
    by_cases hcall : ClassDecl.needsCall c.bases c.fields = true
    · rw [ClassDecl.lines_of_needsCall hcall]
      exact ⟨_, List.mem_cons_self, hne⟩
    · rw [ClassDecl.lines_of_not_needsCall hcall]
      exact ⟨_, List.mem_cons_self, hne⟩

/-- What is below the header of a statement: lines of its own, and the lines of the
statements in it. -/
structure Statement.Block (s : Statement) (inner : String) (own rest : List String) : Prop where
  stacked : Stacked (s.children.map (·.lines inner)) rest
  under : s.TextsOneLined → ∀ l ∈ own, Under inner l
  filled : s.opensBlock = true → ∃ l ∈ own ++ rest, l ≠ ""
  closed : s.opensBlock = false → own ++ rest = []

theorem pass_under (inner : String) : ∀ l ∈ [inner ++ "pass"], Under inner l := by
  intro l hl
  rw [List.mem_singleton.mp hl]
  exact .of_text (by decide)

theorem FunctionDef.block (f : FunctionDef) (inner : String) :
    (Statement.function f).Block inner (f.ownLines inner) (bodyLines inner false f.body) where
  stacked := .bodyLines inner false f.body
  under h := by
    have hdoc := Signature.OneLined.doc h
    unfold ownLines
    split
    · rename_i d hd
      exact DocBlock.OneLined.under (hdoc d hd) inner
    · split_ifs
      · exact pass_under inner
      · exact fun _ hl => nomatch hl
  filled _ := by
    unfold ownLines
    cases f.signature.doc? with
    | some d =>
      obtain ⟨l, hl, hne⟩ := d.exists_render_ne inner
      exact ⟨l, List.mem_append_left _ hl, hne⟩
    | none =>
      cases hbody : f.body with
      | nil => exact ⟨inner ++ "pass", List.mem_cons_self, by simp⟩
      | cons s body =>
        obtain ⟨l, hl, hne⟩ := s.exists_line_ne inner
        have hs := (Stacked.bodyLines inner false (s :: body)).infix_of_mem List.mem_cons_self
        exact ⟨l, List.mem_append_right _ (hs.subset hl), hne⟩
  closed h := nomatch h

theorem ClassDecl.ownSections_under {c : ClassDecl} (h : c.OneLined) (inner : String) :
    ∀ group ∈ c.ownSections inner, ∀ l ∈ group, Under inner l := by
  unfold ownSections
  intro group hgroup
  rcases List.mem_append.mp hgroup with hgroup | hgroup
  · cases hdoc : c.doc? with
    | none =>
      rw [hdoc] at hgroup
      cases hgroup
    | some d =>
      rw [hdoc] at hgroup
      rw [List.mem_singleton.mp hgroup]
      exact DocBlock.OneLined.under (h.doc d hdoc) inner
  · split_ifs at hgroup
    · cases hgroup
    · rw [List.mem_singleton.mp hgroup]
      intro l hl
      obtain ⟨f, hf, rfl⟩ := List.mem_map.mp hl
      obtain ⟨hname, htype⟩ := h.fields f hf
      have hcolon : OneLine ": " := by decide
      rw [String.append_assoc, String.append_assoc]
      exact .of_text (oneLine_append.mpr
        ⟨hname, oneLine_append.mpr ⟨hcolon, Field.oneLine_typeText htype⟩⟩)

theorem ClassDecl.exists_ownSection_ne {c : ClassDecl} {inner : String} :
    ∀ group ∈ c.ownSections inner, ∃ l ∈ group, l ≠ "" := by
  unfold ownSections
  intro group hgroup
  rcases List.mem_append.mp hgroup with hgroup | hgroup
  · split at hgroup
    · rw [List.mem_singleton.mp hgroup]
      exact DocBlock.exists_render_ne _ inner
    · cases hgroup
  · split_ifs at hgroup with hfields
    · cases hgroup
    · obtain ⟨f, fields, hf⟩ := List.exists_cons_of_ne_nil (mt List.isEmpty_iff.mpr hfields)
      rw [List.mem_singleton.mp hgroup, hf]
      exact ⟨_, List.mem_cons_self, by simp⟩

/-- What is below the header of a class that is not a call. -/
theorem ClassDecl.exists_block {c : ClassDecl} (h : ¬needsCall c.bases c.fields = true)
    (indent : String) : ∃ own rest, c.lines indent = [indent ++ c.headText] ++ (own ++ rest) ∧
      (Statement.classDecl c).Block (indent ++ indentStep) own rest := by
  rw [lines_of_not_needsCall h]
  set inner := indent ++ indentStep
  set methods := (c.methods.map Statement.function).map (·.lines inner)
  have hchildren : (Statement.classDecl c).children.map (·.lines inner) = methods := by
    have hmap : (Statement.classDecl c).children = c.methods.map .function := if_neg h
    rw [hmap]
  have hopens : (Statement.classDecl c).opensBlock = true := by simp [Statement.opensBlock, h]
  by_cases hsections : (c.ownSections inner ++ methods).isEmpty = true
  · rw [if_pos hsections]
    have hempty := List.append_eq_nil_iff.mp (List.isEmpty_iff.mp hsections)
    refine ⟨[inner ++ "pass"], [], rfl, ?_, fun _ => pass_under inner, fun _ => ?_, fun hblock => ?_⟩
    · rw [hchildren, hempty.2]
      exact .nil
    · exact ⟨_, List.mem_cons_self, by simp⟩
    · exact absurd hopens (Bool.eq_false_iff.mp hblock)
  · rw [if_neg hsections]
    -- the methods are the last sections, so their lines are behind all others
    have hstacked := Stacked.joinSections (c.ownSections inner ++ methods)
    obtain ⟨own, rest, hlines, hown, hrest⟩ := hstacked.exists_append
    rw [hlines] at hstacked ⊢
    refine ⟨own, rest, rfl, hchildren ▸ hrest, fun hc => ?_, fun _ => ?_, fun hblock => ?_⟩
    · exact Under.of_stacked hown (ownSections_under hc inner)
    · obtain ⟨group, groups, hgroups⟩ :=
        List.exists_cons_of_ne_nil (mt List.isEmpty_iff.mpr hsections)
      have hgroup : group ∈ c.ownSections inner ++ methods := hgroups ▸ List.mem_cons_self
      have hline : ∃ l ∈ group, l ≠ "" := by
        rcases List.mem_append.mp hgroup with hgroup | hgroup
        · exact exists_ownSection_ne group hgroup
        · obtain ⟨s, -, rfl⟩ := List.mem_map.mp hgroup
          exact s.exists_line_ne inner
      obtain ⟨l, hl, hne⟩ := hline
      exact ⟨l, (hstacked.infix_of_mem hgroup).subset hl, hne⟩
    · exact absurd hopens (Bool.eq_false_iff.mp hblock)

/-- **Below a header.** The lines of a statement are those of its header, lines of its
own, and the lines of the statements in it. -/
theorem Statement.exists_below (s : Statement) (indent : String) : ∃ own rest,
    s.lines indent = s.headLines indent ++ (own ++ rest) ∧
      s.Block (indent ++ indentStep) own rest := by
  have hleaf : ∀ {s : Statement}, s.children = [] → s.opensBlock = false →
      s.Block (indent ++ indentStep) [] [] := by
    intro s hchildren hblock
    refine ⟨?_, fun _ _ hl => (nomatch hl), fun h => ?_, fun _ => rfl⟩
    · rw [hchildren]
      exact .nil
    · exact absurd h (Bool.eq_false_iff.mp hblock)
  cases s with
  | ret value => exact ⟨[], [], (List.append_nil _).symm, hleaf rfl rfl⟩
  | assign target value => exact ⟨[], [], (List.append_nil _).symm, hleaf rfl rfl⟩
  | text name value => exact ⟨[], [], (List.append_nil _).symm, hleaf rfl rfl⟩
  | function f => exact ⟨_, _, f.lines_eq_own indent, f.block _⟩
  | classDecl c =>
    by_cases hcall : ClassDecl.needsCall c.bases c.fields = true
    · have hlines := ClassDecl.lines_of_needsCall hcall indent
      exact ⟨[], [], hlines, hleaf (if_pos hcall) (by simp [opensBlock, hcall])⟩
    · exact ClassDecl.exists_block hcall indent

theorem Statement.TextsOneLined.under {s : Statement} (h : s.TextsOneLined) (indent : String) :
    ∀ l ∈ s.headLines indent, Under indent l := by
  cases s with
  | ret value => exact returnLines_under h indent
  | assign target value =>
    intro l hl
    have hequals : OneLine " = " := by decide
    rw [List.mem_singleton.mp hl, String.append_assoc, String.append_assoc]
    exact .of_text (oneLine_append.mpr ⟨h.1, oneLine_append.mpr ⟨hequals, h.2⟩⟩)
  | function f => exact Signature.OneLined.under h indent
  | classDecl c =>
    intro l hl
    rw [List.mem_singleton.mp hl]
    exact .of_text (ClassDecl.OneLined.headText h)
  | text name value => exact h.elim

/-- What is below a header is under its indentation if the statements inside are. -/
theorem Statement.Block.all_under {s : Statement} {inner : String} {own rest : List String}
    (h : s.Block inner own rest) (texts : s.TextsOneLined)
    (hchildren : ∀ t ∈ s.children, ∀ l ∈ t.lines inner, Under inner l) :
    ∀ l ∈ own ++ rest, Under inner l := by
  intro l hl
  rcases List.mem_append.mp hl with hl | hl
  · exact h.under texts l hl
  · exact Under.of_stacked h.stacked (List.forall_mem_map.mpr hchildren) l hl

/-- **Lines are under their indentation**: the lines of the header by what they are made
of, and those of the statements inside by induction on the tree. -/
theorem Statement.OneLined.under {s : Statement} (h : s.OneLined) : ∀ indent : String,
    ∀ l ∈ s.lines indent, Under indent l := by
  induction h with
  | @intro s texts children ih =>
    intro indent l hl
    obtain ⟨own, rest, hlines, hblock⟩ := s.exists_below indent
    rw [hlines] at hl
    rcases List.mem_append.mp hl with hl | hl
    · exact texts.under indent l hl
    · exact .of_step (hblock.all_under texts (fun t ht => ih t ht _) l hl)

/-! ### The whole tree -/

/-- The indentation of the lines of a statement shows what is in it: the lines start at
the indentation, those below its header, if they are not empty, a step deeper; these end
with the lines of the statements in it; if there is a block, it is not empty, and if
there is none, nothing is below. -/
structure Statement.LaidOut (s : Statement) (indent : String) (own rest : List String) : Prop where
  lines_eq : s.lines indent = s.headLines indent ++ (own ++ rest)
  starts : ∀ l ∈ s.lines indent, l ≠ "" → Text.startsWith l indent = true
  below_starts : ∀ l ∈ own ++ rest, l ≠ "" → Text.startsWith l (indent ++ indentStep) = true
  stacked : Stacked (s.children.map (·.lines (indent ++ indentStep))) rest
  filled : s.opensBlock = true → ∃ l ∈ own ++ rest, l ≠ ""
  closed : s.opensBlock = false → own ++ rest = []

theorem Statement.OneLined.exists_laidOut {s : Statement} (h : s.OneLined) (indent : String) :
    ∃ own rest, s.LaidOut indent own rest := by
  obtain ⟨own, rest, hlines, hblock⟩ := s.exists_below indent
  have hunder := h.under indent
  obtain ⟨texts, children⟩ := h
  have hbelow := hblock.all_under texts fun t ht => (children t ht).under _
  exact ⟨own, rest, hlines, fun l hl => (hunder l hl).startsWith,
    fun l hl => (hbelow l hl).startsWith, hblock.stacked, hblock.filled, hblock.closed⟩

theorem Statement.Nested.oneLined {s t : Statement} {n : Nat} (h : s.Nested n t) :
    s.OneLined → t.OneLined := by
  induction h with
  | self => exact id
  | inside ht hu ih => exact fun ⟨_, children⟩ => ih (children _ ht)

/-- **The lines of a nested statement** are contiguous, and those that it has by itself at
its own indentation. -/
theorem Statement.Nested.lines_infix {s t : Statement} {n : Nat} (h : s.Nested n t) :
    ∀ indent : String, t.lines (deeper n indent) <:+: s.lines indent := by
  induction h with
  | self => exact fun indent => List.infix_rfl
  | @inside s t u n ht hu ih =>
    intro indent
    obtain ⟨own, rest, hlines, hblock⟩ := s.exists_below indent
    have hinner : t.lines (indent ++ indentStep) <:+: rest :=
      hblock.stacked.infix_of_mem (List.mem_map_of_mem ht)
    have hrest : rest <:+: s.lines indent := by
      rw [hlines, ← List.append_assoc]
      exact (List.suffix_append _ _).isInfix
    exact ((ih (indent ++ indentStep)).trans hinner).trans hrest

/-- **Indentation mirrors nesting.** Where texts have one line each, the lines of a
statement are the lines of its text. Each statement nested in it, the statement itself
included, has its lines in one piece among them, at an indentation as many steps deeper
as it is levels inside: they are those of its header, and below it, a step deeper, lines
of its own and the lines of the statements in it, in order, with nothing but empty lines
between them. No block is empty. -/
theorem indentation_mirrors_nesting {s : Statement} (h : s.OneLined) {indent : String}
    (hindent : OneLine indent) :
    Text.split '\n' (Text.joinWith "\n" (s.lines indent)) = s.lines indent ∧
    ∀ n t, s.Nested n t → t.lines (deeper n indent) <:+: s.lines indent ∧
      ∃ own rest, t.LaidOut (deeper n indent) own rest := by
  refine ⟨?_, fun n t ht => ⟨ht.lines_infix indent, (ht.oneLined h).exists_laidOut _⟩⟩
  obtain ⟨l, hl, -⟩ := s.exists_line_ne indent
  exact Text.split_joinWith (List.ne_nil_of_mem hl) fun l hl => (h.under indent l hl).oneLine hindent

/-- An SDK with one operation, which is a function in the function that makes it. -/
def Statement.sampleSdk : Statement :=
  .function {
    signature := {
      name := "create_team_sdk", params := [{ name := "id", type? := some (.named "str") }]
      doc? := some { summary := ["Operations of a team.", "", "They share its id."] } }
    body := [
      .function {
        signature := { name := "rename", params := [{ name := "name" }], async := true }
        body := [
          .assign "response" (.await (.call (.name "requester") [.name "id", .name "name"])),
          .ret (.name "response")] },
      .ret (.object [.property "rename" (.name "rename")] (some "OperationSet"))] }

/-- What the operation of an SDK returns is two levels inside. -/
theorem sample_nesting : Statement.sampleSdk.OneLined ∧ OneLine "" ∧
    Statement.sampleSdk.lines "" =
      ["def create_team_sdk(id: str):",
        "    \"\"\"Operations of a team.",
        "",
        "    They share its id.",
        "    \"\"\"",
        "",
        "    async def rename(name):",
        "        response = await requester(id, name)",
        "        return response",
        "",
        "    return OperationSet(rename=rename)"] ∧
    Statement.sampleSdk.Nested 2 (.ret (.name "response")) ∧
    (Statement.ret (.name "response")).lines "        " <:+: Statement.sampleSdk.lines "" := by
  have hleaf : ∀ {s : Statement}, s.children = [] → s.TextsOneLined → s.OneLined :=
    fun hchildren texts => ⟨texts, by simp [hchildren]⟩
  have hbody : ∀ s ∈ Statement.sampleSdk.children, s.OneLined := by
    refine List.forall_mem_cons.mpr ⟨⟨by decide, ?_⟩, List.forall_mem_singleton.mpr ?_⟩
    · exact List.forall_mem_cons.mpr ⟨hleaf rfl (by decide +kernel),
        List.forall_mem_singleton.mpr (hleaf rfl (by decide +kernel))⟩
    · exact hleaf rfl (by decide +kernel)
  have htree : Statement.sampleSdk.OneLined := ⟨by decide +kernel, hbody⟩
  have hnested : Statement.sampleSdk.Nested 2 (.ret (.name "response")) :=
    .inside List.mem_cons_self (.inside (List.mem_cons_of_mem _ List.mem_cons_self) (.self _))
  obtain ⟨-, hall⟩ := indentation_mirrors_nesting htree (by decide : OneLine "")
  exact ⟨htree, by decide, by decide +kernel, hnested, (hall 2 _ hnested).1⟩

/-- A record with a key that is a keyword, and with a method. -/
def ClassDecl.sampleCalled : ClassDecl where
  name := "Vars"
  bases := ["TypedDict"]
  fields := [{ name := "from", type := .named "str" }]
  methods := [{ signature := { name := "check" }, body := [] }]
  doc? := none

/-- **A record that is a call has no lines for its methods**, though nothing in it has a
line break. -/
theorem ClassDecl.methods_left_out : sampleCalled.OneLined ∧
    (∀ f ∈ sampleCalled.methods, f.signature.OneLined ∧ f.body = []) ∧
    sampleCalled.lines "" = ["Vars = TypedDict(\"Vars\", \x7b\"from\": \"str\"\x7d)"] ∧
    ∃ f ∈ sampleCalled.methods, ¬f.lines ("" ++ indentStep) <:+: sampleCalled.lines "" := by
  decide +kernel

end Code
end ChainedSdk
