/-
# Lines under an indentation

A line that is rendered at an indentation is empty, or starts with it (`Code.Under`).
Where the texts that a statement is made of have one line each, so do the texts that
are made of them, and the lines of what is returned, of headers and of documentations
are under their indentation. Broken lines are too, since their parts are texts of one
line if the line is.

Key definitions: `Text.OneLine`, `Code.Under`, `Code.Signature.OneLined`,
`Code.ClassDecl.OneLined`.
Key theorems: `Code.parts?_oneLined`, `Code.returnLines_under`,
`Code.Signature.OneLined.under`, `Code.DocBlock.OneLined.under`.
-/
import ChainedSdk.Proofs.LineBreaks

namespace ChainedSdk

namespace Text

/-! ### Texts of one line -/

/-- There is no line break in the text. -/
def OneLine (s : String) : Prop :=
  '\n' ∉ s.toList

instance (s : String) : Decidable (OneLine s) := by
  unfold OneLine
  infer_instance

@[simp] theorem oneLine_append {s t : String} : OneLine (s ++ t) ↔ OneLine s ∧ OneLine t := by
  simp [OneLine]

theorem oneLine_joinWith {sep : String} (hsep : OneLine sep) : ∀ {xs : List String},
    OneLine (joinWith sep xs) ↔ ∀ x ∈ xs, OneLine x
  | [] => by simp [joinWith, OneLine]
  | [x] => by simp [joinWith]
  | x :: y :: xs => by
    have ih : OneLine (joinWith sep (y :: xs)) ↔ ∀ z ∈ y :: xs, OneLine z := oneLine_joinWith hsep
    rw [joinWith_cons_cons, oneLine_append, oneLine_append, ih, List.forall_mem_cons (l := y :: xs)]
    exact and_congr_left fun _ => and_iff_left hsep

end Text

namespace Code

open Text (OneLine oneLine_append oneLine_joinWith)

theorem oneLine_indentStep : OneLine indentStep := by decide

/-! ### Lines under an indentation -/

/-- The line is empty, or a text of one line behind the indentation. -/
def Under (indent line : String) : Prop :=
  line = "" ∨ ∃ text, OneLine text ∧ line = indent ++ text

namespace Under

variable {indent line text : String}

theorem of_text (h : OneLine text) : Under indent (indent ++ text) :=
  .inr ⟨text, h, rfl⟩

theorem oneLine (h : Under indent line) (hindent : OneLine indent) : OneLine line := by
  rcases h with rfl | ⟨text, htext, rfl⟩
  · decide
  · exact oneLine_append.mpr ⟨hindent, htext⟩

theorem startsWith (h : Under indent line) (hne : line ≠ "") :
    Text.startsWith line indent = true := by
  rcases h with hempty | ⟨text, -, rfl⟩
  · exact absurd hempty hne
  · exact Text.startsWith_append indent text

/-- What is a step deeper is under the indentation. -/
theorem of_step (h : Under (indent ++ indentStep) line) : Under indent line := by
  rcases h with rfl | ⟨text, htext, rfl⟩
  · exact .inl rfl
  · rw [String.append_assoc]
    exact of_text (oneLine_append.mpr ⟨oneLine_indentStep, htext⟩)

end Under

/-! ### What is made of texts of one line -/

/-- The texts that a line is made of have one line each. -/
structure Broken.OneLined (b : Broken) : Prop where
  opening : OneLine b.opening
  parts : ∀ part ∈ b.parts, OneLine part
  closing : OneLine b.closing

/-- The texts of an entry have one line each. -/
def Entry.OneLined : Entry → Prop
  | .property key value => OneLine key ∧ OneLine value.text
  | .spread value _ => OneLine value.text

/-- The texts of a documentation have one line each. -/
def DocBlock.OneLined (d : DocBlock) : Prop :=
  ∀ line ∈ d.lines, OneLine line

instance (d : DocBlock) : Decidable d.OneLined := by
  unfold DocBlock.OneLined
  infer_instance

/-- The names and types in the header of a function have one line each, and so have the
lines of its documentation. -/
structure Signature.OneLined (s : Signature) : Prop where
  name : OneLine s.name
  params : ∀ p ∈ s.params, OneLine p.text
  returns : ∀ t ∈ s.returns?, OneLine t.text
  doc : ∀ d ∈ s.doc?, d.OneLined

instance (s : Signature) : Decidable s.OneLined :=
  decidable_of_iff (OneLine s.name ∧ (∀ p ∈ s.params, OneLine p.text) ∧
      (∀ t ∈ s.returns?, OneLine t.text) ∧ ∀ d ∈ s.doc?, d.OneLined)
    ⟨fun ⟨name, params, returns, doc⟩ => ⟨name, params, returns, doc⟩,
      fun ⟨name, params, returns, doc⟩ => ⟨name, params, returns, doc⟩⟩

/-- The names and types in a class have one line each, those of its methods apart, and so
have the lines of its documentation. -/
structure ClassDecl.OneLined (c : ClassDecl) : Prop where
  name : OneLine c.name
  bases : ∀ base ∈ c.bases, OneLine base
  fields : ∀ f ∈ c.fields, OneLine f.name ∧ OneLine f.type.text
  doc : ∀ d ∈ c.doc?, d.OneLined

instance (c : ClassDecl) : Decidable c.OneLined :=
  decidable_of_iff (OneLine c.name ∧ (∀ base ∈ c.bases, OneLine base) ∧
      (∀ f ∈ c.fields, OneLine f.name ∧ OneLine f.type.text) ∧ ∀ d ∈ c.doc?, d.OneLined)
    ⟨fun ⟨name, bases, fields, doc⟩ => ⟨name, bases, fields, doc⟩,
      fun ⟨name, bases, fields, doc⟩ => ⟨name, bases, fields, doc⟩⟩

/-! ### The lines of a value that is returned -/

theorem Broken.oneLine_flat {b : Broken} : OneLine b.flat ↔ b.OneLined := by
  have hsep : OneLine ", " := by decide
  unfold flat
  rw [oneLine_append, oneLine_append, oneLine_joinWith hsep]
  exact ⟨fun ⟨⟨ho, hp⟩, hc⟩ => ⟨ho, hp, hc⟩, fun ⟨ho, hp, hc⟩ => ⟨⟨ho, hp⟩, hc⟩⟩

theorem Broken.OneLined.under {b : Broken} (h : b.OneLined) (indent : String) :
    ∀ l ∈ b.lines indent, Under indent l := by
  intro l hl
  unfold lines at hl
  rcases List.mem_append.mp hl with hl | hl
  · rcases List.mem_cons.mp hl with rfl | hl
    · exact .of_text h.opening
    · obtain ⟨part, hpart, rfl⟩ := List.mem_map.mp hl
      have hcomma : OneLine "," := by decide
      rw [String.append_assoc, String.append_assoc]
      exact .of_text (oneLine_append.mpr
        ⟨oneLine_indentStep, oneLine_append.mpr ⟨h.parts part hpart, hcomma⟩⟩)
  · rw [List.mem_singleton.mp hl]
    exact .of_text h.closing

theorem Entry.oneLine_text {e : Entry} {attributes : Bool} :
    OneLine (e.text attributes) ↔ e.OneLined := by
  cases e with
  | property key value => simp [Entry.text, Entry.OneLined, OneLine]
  | spread value optional =>
    cases attributes <;> cases optional <;> simp [Entry.text, Entry.OneLined, OneLine]

theorem Entry.oneLine_keywordText {e : Entry} : OneLine e.keywordText ↔ e.OneLined := by
  cases e <;> simp [Entry.keywordText, Entry.OneLined, OneLine]

theorem forall_oneLine_entryTexts (attributes : Bool) {entries : List Entry} :
    (∀ text ∈ entryTexts attributes entries, OneLine text) ↔ ∀ e ∈ entries, e.OneLined := by
  rw [entryTexts_eq_map, List.forall_mem_map]
  exact forall₂_congr fun _ _ => Entry.oneLine_text

theorem forall_oneLine_keywordTexts {entries : List Entry} :
    (∀ text ∈ keywordTexts entries, OneLine text) ↔ ∀ e ∈ entries, e.OneLined := by
  rw [keywordTexts_eq_map, List.forall_mem_map]
  exact forall₂_congr fun _ _ => Entry.oneLine_keywordText

/-- An object has one line if its constructor and its entries have. -/
theorem oneLine_object {entries : List Entry} {maker? : Option String} :
    OneLine (Expr.object entries maker?).text ↔
      (∀ maker ∈ maker?, OneLine maker) ∧ ∀ e ∈ entries, e.OneLined := by
  have hsep : OneLine ", " := by decide
  have hjoin : ∀ {texts : List String}, OneLine (Text.joinWith ", " texts) ↔ ∀ t ∈ texts, OneLine t :=
    oneLine_joinWith hsep
  unfold Expr.text
  cases maker? with
  | none =>
    rw [oneLine_append, oneLine_append, hjoin, forall_oneLine_entryTexts]
    simp [OneLine]
  | some maker =>
    simp only
    split_ifs
    · rw [oneLine_append, oneLine_append, oneLine_append, hjoin, forall_oneLine_keywordTexts]
      simp [OneLine]
    · rw [oneLine_append, oneLine_append, oneLine_append, hjoin, forall_oneLine_entryTexts]
      simp [OneLine]

/-- The parts of an object have one line each if it has, also where its constructor has
no name, which is none for the parts. -/
theorem objectParts_oneLined {entries : List Entry} {maker? : Option String}
    (h : OneLine (Expr.object entries maker?).text) : (objectParts entries maker?).OneLined := by
  obtain ⟨hmaker, hentries⟩ := oneLine_object.mp h
  have hquoted := (forall_oneLine_entryTexts false).mpr hentries
  have hattributes := (forall_oneLine_entryTexts true).mpr hentries
  have hbrackets : ∀ text ∈ ["\x7b", "\x7d", "(", ")", "(**\x7b", "\x7d)"], OneLine text := by decide
  unfold objectParts
  cases hfilter : maker?.filter (· ≠ "") with
  | none => exact ⟨hbrackets _ (by simp), hquoted, hbrackets _ (by simp)⟩
  | some maker =>
    have hline : OneLine maker := hmaker maker (Option.mem_filter_iff.mp hfilter).1
    simp only
    split_ifs
    · exact ⟨oneLine_append.mpr ⟨hline, hbrackets _ (by simp)⟩,
        forall_oneLine_keywordTexts.mpr hentries, hbrackets _ (by simp)⟩
    · exact ⟨oneLine_append.mpr ⟨hline, hbrackets _ (by simp)⟩, hattributes, hbrackets _ (by simp)⟩

/-- The parts of a value have one line each if it has. -/
theorem parts?_oneLined {value : Expr} (h : OneLine value.text) {b : Broken}
    (hb : value.parts? = some b) : b.OneLined := by
  cases value with
  | name | literal | lambda | await => cases hb
  | object entries maker? =>
    cases hb
    exact objectParts_oneLined h
  | call func args =>
    unfold Expr.parts? at hb
    cases hlast : args.getLast? with
    | none => simp [hlast] at hb
    | some last =>
      simp only [hlast, Option.map_eq_some_iff] at hb
      obtain ⟨inner, hinner, rfl⟩ := hb
      have hsep : OneLine ", " := by decide
      have htext : (OneLine func.text ∧ OneLine "(") ∧ (∀ e ∈ args, OneLine e.text) ∧ OneLine ")" := by
        rw [Expr.text, oneLine_append, oneLine_append, oneLine_append, oneLine_joinWith hsep,
          exprTexts_eq_map, List.forall_mem_map, and_assoc] at h
        exact h
      obtain ⟨hfunc, hargs, hclose⟩ := htext
      have hlastLine : OneLine last.text := hargs last (List.mem_of_getLast? hlast)
      have hinnerLine : inner.OneLined := by
        cases last with
        | name | literal | call | lambda | await => cases hinner
        | object entries maker? =>
          cases hinner
          exact objectParts_oneLined hlastLine
      have hleading : OneLine (Text.joinWith "" ((exprTexts args.dropLast).map (· ++ ", "))) := by
        rw [oneLine_joinWith (by decide), exprTexts_eq_map, List.map_map, List.forall_mem_map]
        exact fun e he => oneLine_append.mpr ⟨hargs e (List.dropLast_subset _ he), hsep⟩
      refine ⟨?_, hinnerLine.parts, oneLine_append.mpr ⟨hinnerLine.closing, hclose⟩⟩
      exact oneLine_append.mpr ⟨oneLine_append.mpr ⟨oneLine_append.mpr hfunc, hleading⟩,
        hinnerLine.opening⟩

theorem returnLines_under {value : Expr} (h : OneLine value.text) (indent : String) :
    ∀ l ∈ returnLines value indent, Under indent l := by
  have hreturn : OneLine "return " := by decide
  have hone : ∀ l ∈ [indent ++ "return " ++ value.text], Under indent l := by
    intro l hl
    rw [List.mem_singleton.mp hl, String.append_assoc]
    exact .of_text (oneLine_append.mpr ⟨hreturn, h⟩)
  unfold returnLines
  simp only
  split_ifs
  · exact hone
  · cases hparts : value.parts? with
    | none => exact hone
    | some b =>
      have hb := parts?_oneLined h hparts
      have hline : Broken.OneLined { b with opening := "return " ++ b.opening } :=
        ⟨oneLine_append.mpr ⟨hreturn, hb.opening⟩, hb.parts, hb.closing⟩
      exact hline.under indent

/-! ### The lines of headers and documentations -/

theorem Signature.OneLined.header {s : Signature} (h : s.OneLined) : s.header.OneLined where
  opening := by
    have hkeyword : OneLine s.keyword := by
      unfold keyword
      cases s.async <;> decide
    exact oneLine_append.mpr ⟨oneLine_append.mpr ⟨oneLine_append.mpr ⟨hkeyword, by decide⟩, h.name⟩,
      by decide⟩
  parts := List.forall_mem_map.mpr h.params
  closing := by
    have hnone : OneLine "):" := by decide
    unfold Signature.header
    cases hreturns : s.returns? with
    | none => exact hnone
    | some t =>
      have ht : OneLine t.text := h.returns t hreturns
      exact oneLine_append.mpr ⟨oneLine_append.mpr ⟨by decide, ht⟩, by decide⟩

theorem Signature.OneLined.under {s : Signature} (h : s.OneLined) (indent : String) :
    ∀ l ∈ s.headerLines indent, Under indent l := by
  unfold headerLines
  simp only
  split_ifs
  · exact h.header.under indent
  · intro l hl
    rw [List.mem_singleton.mp hl]
    exact .of_text (Broken.oneLine_flat.mpr h.header)

theorem Field.oneLine_typeText {f : Field} (h : OneLine f.type.text) : OneLine f.typeText := by
  unfold typeText
  split_ifs
  · exact h
  · exact oneLine_append.mpr ⟨oneLine_append.mpr ⟨by decide, h⟩, by decide⟩

/-- The first line of a class, or its only one if it is a call. -/
def ClassDecl.headText (c : ClassDecl) : String :=
  if needsCall c.bases c.fields then callText c.name c.fields
  else if c.bases.isEmpty then "class " ++ c.name ++ ":"
  else "class " ++ c.name ++ "(" ++ Text.joinWith ", " c.bases ++ "):"

theorem ClassDecl.OneLined.headText {c : ClassDecl} (h : c.OneLined) : OneLine c.headText := by
  have hsep : OneLine ", " := by decide
  have hbases : OneLine (Text.joinWith ", " c.bases) := (oneLine_joinWith hsep).mpr h.bases
  have hfields : ∀ f ∈ c.fields, OneLine ("\"" ++ f.name ++ "\": \"" ++ f.typeText ++ "\"") := by
    intro f hf
    have hname : OneLine f.name := (h.fields f hf).1
    have htype : OneLine f.typeText := Field.oneLine_typeText (h.fields f hf).2
    simp only [oneLine_append, hname, htype, and_true]
    decide
  have hitems := (oneLine_joinWith hsep).mpr (List.forall_mem_map.mpr hfields)
  unfold ClassDecl.headText callText recordBase
  split_ifs
  · simp only [oneLine_append, h.name, hitems, true_and, and_true]
    decide
  · simp only [oneLine_append, h.name, and_true]
    decide
  · simp only [oneLine_append, h.name, hbases, and_true]
    decide

theorem notMem_escapeDoc {cs : List Char} (h : '\n' ∉ cs) : '\n' ∉ escapeDoc cs := by
  fun_induction escapeDoc cs <;> simp_all

theorem oneLine_docLine {line : String} (h : OneLine line) : OneLine (docLine line) := by
  have hescaped : '\n' ∉ escapeDoc line.toList := notMem_escapeDoc h
  unfold docLine OneLine
  simp only [String.toList_ofList]
  split_ifs
  · simp [hescaped]
  · exact hescaped

theorem DocBlock.OneLined.under {d : DocBlock} (h : d.OneLined) (indent : String) :
    ∀ l ∈ d.render indent, Under indent l := by
  have hquotes : OneLine tripleQuote := by decide
  have hfirst : ∀ line, OneLine line → Under indent (indent ++ tripleQuote ++ docLine line) := by
    intro line hline
    rw [String.append_assoc]
    exact .of_text (oneLine_append.mpr ⟨hquotes, oneLine_docLine hline⟩)
  unfold OneLined at h
  unfold render
  split
  · intro l hl
    rw [List.mem_singleton.mp hl, String.append_assoc]
    exact .of_text (oneLine_append.mpr ⟨hquotes, hquotes⟩)
  · rename_i line hlines
    intro l hl
    have hline : OneLine line := h line (hlines ▸ List.mem_cons_self)
    rw [List.mem_singleton.mp hl, String.append_assoc, String.append_assoc]
    exact .of_text (oneLine_append.mpr ⟨hquotes, oneLine_append.mpr ⟨oneLine_docLine hline, hquotes⟩⟩)
  · rename_i first rest hrest hlines
    intro l hl
    rcases List.mem_append.mp hl with hl | hl
    · rcases List.mem_cons.mp hl with rfl | hl
      · exact hfirst first (h first (hlines ▸ List.mem_cons_self))
      · obtain ⟨line, hline, rfl⟩ := List.mem_map.mp hl
        have hone : OneLine line := h line (hlines ▸ List.mem_cons_of_mem _ hline)
        split_ifs
        · exact .inl rfl
        · exact .of_text (oneLine_docLine hone)
    · rw [List.mem_singleton.mp hl]
      exact .of_text hquotes

/-! ### Lines that are not empty -/

theorem DocBlock.exists_render_ne (d : DocBlock) (indent : String) : ∃ l ∈ d.render indent, l ≠ "" := by
  unfold render
  split
  · exact ⟨_, List.mem_cons_self, by simp [tripleQuote]⟩
  · exact ⟨_, List.mem_cons_self, by simp [tripleQuote]⟩
  · exact ⟨_, List.mem_cons_self, by simp [tripleQuote]⟩

theorem Signature.exists_headerLine_ne (s : Signature) (indent : String) :
    ∃ l ∈ s.headerLines indent, l ≠ "" := by
  unfold headerLines Broken.lines Broken.flat header
  simp only
  split_ifs
  · exact ⟨_, List.mem_cons_self, by simp⟩
  · exact ⟨_, List.mem_cons_self, by simp⟩

theorem ClassDecl.headText_ne (c : ClassDecl) : c.headText ≠ "" := by
  unfold headText callText
  split_ifs <;> simp

theorem exists_returnLine_ne (value : Expr) (indent : String) :
    ∃ l ∈ returnLines value indent, l ≠ "" := by
  unfold returnLines Broken.lines
  simp only
  split_ifs
  · exact ⟨_, List.mem_cons_self, by simp⟩
  · split
    · exact ⟨_, List.mem_cons_self, by simp⟩
    · exact ⟨_, List.mem_cons_self, by simp⟩

theorem exists_constantLine_ne (indent name value : String) :
    ∃ l ∈ constantLines indent name value, l ≠ "" := by
  unfold constantLines
  split
  · exact ⟨_, List.mem_cons_self, by simp⟩
  · exact ⟨_, List.mem_cons_self, by simp⟩
  · exact ⟨_, List.mem_cons_self, by simp⟩

end Code
end ChainedSdk
