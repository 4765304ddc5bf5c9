/-
# The text of declared classes

A record or a result is a class with one line of documentation and without
methods. Where no line of it holds a line break, its text has no two empty lines
in a row (`Code.ClassDecl.sealed_render`), as the text between two declarations
has. The text of a record starts with a line that no protocol starts with
(`firstLine_record_ne`).

Key definitions: `Code.ClassDecl.Lined`.
Key theorems: `Code.ClassDecl.sealed_render`, `firstLine_record_ne`.
-/
import ChainedSdk.Proofs.Assembly
import ChainedSdk.Proofs.Layout

namespace ChainedSdk

namespace Code

theorem render_classDecl (c : ClassDecl) :
    render [.classDecl c] = Text.joinWith "\n" (c.lines "") := rfl

namespace ClassDecl

/-- No line of the class holds a line break. -/
def Lined (c : ClassDecl) : Prop :=
  ∀ l ∈ c.lines "", '\n' ∉ l.toList

instance (c : ClassDecl) : Decidable c.Lined := by
  unfold Lined
  infer_instance

/-- The line of documentation of a class, under its header. -/
def docText (summary : String) : String :=
  indentStep ++ tripleQuote ++ docLine summary ++ tripleQuote

/-- The line of a field of a class. -/
def fieldText (f : Field) : String :=
  indentStep ++ f.name ++ ": " ++ f.typeText

/-- **The lines of a class** with one line of documentation and without
methods. -/
theorem lines_eq {name : String} {bases : List String} {fields : List Field} {summary : String} :
    lines "" ⟨name, bases, fields, [], some { summary := [summary] }⟩ =
      if needsCall bases fields then [callText name fields]
      else
        (if bases.isEmpty then "class " ++ name ++ ":"
          else "class " ++ name ++ "(" ++ Text.joinWith ", " bases ++ "):") :: docText summary ::
          (if fields.isEmpty then [] else "" :: fields.map fieldText) := by
  have hdoc : DocBlock.render { summary := [summary] } ("" ++ indentStep) = [docText summary] := by
    simp [DocBlock.render, DocBlock.lines, docText]
  unfold lines
  simp only [hdoc, methodSections, List.append_nil]
  cases fields with
  | nil => simp [joinSections]
  | cons f fields =>
    simp only [List.isEmpty_cons, Bool.false_eq_true, if_false, joinSections, List.map_cons,
      List.cons_append, List.nil_append]
    rfl

theorem fieldText_ne (f : Field) : fieldText f ≠ "" := by
  intro h
  have hl := congrArg String.toList h
  simp [fieldText, indentStep] at hl

theorem callText_ne (name : String) (fields : List Field) : callText name fields ≠ "" := by
  intro h
  have hl := congrArg String.toList h
  simp [callText] at hl

theorem docText_ne (summary : String) : docText summary ≠ "" := by
  intro h
  have hl := congrArg String.toList h
  simp [docText, indentStep] at hl

theorem spaced_lines {name : String} {bases : List String} {fields : List Field} {summary : String} :
    Text.Spaced (lines "" ⟨name, bases, fields, [], some { summary := [summary] }⟩) := by
  have hfields : ∀ {fields : List Field}, fields ≠ [] → Text.Spaced (fields.map fieldText) := by
    intro fields hne
    induction fields with
    | nil => exact absurd rfl hne
    | cons f fields ih =>
      cases fields with
      | nil => exact fieldText_ne f
      | cons g fields => exact ⟨fun h => absurd h (fieldText_ne f), ih (by simp)⟩
  rw [lines_eq]
  split
  · exact callText_ne name fields
  · have hdoc := docText_ne summary
    refine ⟨fun _ => hdoc, ?_⟩
    cases fields with
    | nil => exact hdoc
    | cons f fields =>
      exact ⟨fun h => absurd h hdoc, fun _ => fieldText_ne f,
        hfields (List.cons_ne_nil f fields)⟩

/-- **Declared classes are sealed.** -/
theorem sealed_render {name : String} {bases : List String} {fields : List Field} {summary : String}
    (h : Lined ⟨name, bases, fields, [], some { summary := [summary] }⟩) :
    Text.Sealed (render [.classDecl ⟨name, bases, fields, [], some { summary := [summary] }⟩]).toList :=
  Text.sealed_join h spaced_lines

/-- A protocol starts with its header, and more lines follow. -/
theorem exists_lines_protocol (name : String) (methods : List FunctionDef) (doc : DocBlock) :
    ∃ l rest, lines "" ⟨name, ["Protocol"], [], methods, some doc⟩ =
      ("class " ++ name ++ "(Protocol):") :: l :: rest := by
  have hcall : needsCall ["Protocol"] [] = false := by decide
  have hdoc : ∃ l rest, doc.render ("" ++ indentStep) = l :: rest := by
    unfold DocBlock.render
    split
    · exact ⟨_, _, rfl⟩
    · exact ⟨_, _, rfl⟩
    · exact ⟨_, _, rfl⟩
  obtain ⟨l, rest, hdoc⟩ := hdoc
  have hheader : "class " ++ name ++ "(" ++ Text.joinWith ", " ["Protocol"] ++ "):" =
      "class " ++ name ++ "(Protocol):" := by
    simp [Text.joinWith, String.append_assoc]
  unfold lines
  simp only [hcall, hdoc, hheader, Bool.false_eq_true, if_false, List.isEmpty_cons, List.isEmpty_nil,
    if_true, List.append_nil, List.cons_append, List.nil_append]
  cases methodSections ("" ++ indentStep) methods with
  | nil => exact ⟨l, rest, by simp [joinSections]⟩
  | cons m more => exact ⟨l, rest ++ "" :: joinSections (m :: more), by simp [joinSections]⟩

end ClassDecl
end Code

open Code (ClassDecl)

/-! ### First lines -/

namespace Text

theorem firstLine_eq {cs : List Char} (h : '\n' ∉ cs) : firstLine cs = cs := by
  unfold firstLine
  rw [List.takeWhile_eq_self_iff]
  intro c hc
  simpa using fun e : c = '\n' => h (e ▸ hc)

theorem firstLine_join {l : String} (h : '\n' ∉ l.toList) : ∀ rest : List String,
    firstLine (joinWith "\n" (l :: rest)).toList = l.toList
  | [] => firstLine_eq h
  | m :: rest => by
    have hjoin : (joinWith "\n" (l :: m :: rest)).toList =
        l.toList ++ '\n' :: (joinWith "\n" (m :: rest)).toList := by simp [joinWith]
    rw [hjoin, firstLine_append, firstLine_eq h]

end Text

/-- The first line of the text of a record is the header of a class of records, or
a call. -/
theorem firstLine_record {name : String} {fields : List Code.Field} {summary : String}
    (h : ClassDecl.Lined ⟨name, [Code.recordBase], fields, [], some { summary := [summary] }⟩) :
    ∃ start : String, ∃ ending ∈ ["(TypedDict):", "\x7d)"],
      Text.firstLine (Code.render [.classDecl
        ⟨name, [Code.recordBase], fields, [], some { summary := [summary] }⟩]).toList =
        (start ++ ending).toList := by
  rw [Code.render_classDecl]
  unfold ClassDecl.Lined at h
  rw [ClassDecl.lines_eq] at h ⊢
  split
  · rename_i hcall
    rw [if_pos hcall] at h
    rw [Text.firstLine_join (h _ List.mem_cons_self)]
    unfold ClassDecl.callText
    refine ⟨_, "\x7d)", by simp, rfl⟩
  · rename_i hcall
    rw [if_neg hcall] at h
    rw [Text.firstLine_join (h _ List.mem_cons_self)]
    refine ⟨"class " ++ name, "(TypedDict):", by simp, ?_⟩
    simp [Text.joinWith, Code.recordBase]

/-- The text of an API starts with the header of its protocol. -/
theorem firstLine_api {s : Conventions} {os : List SdkOperation} {key? : Option String}
    {a : ScopedApi} (h : (buildApi s os key?).outcome = .ok a) (hn : '\n' ∉ a.typeName.toList) :
    Text.firstLine (Code.render a.declarations).toList =
      ("class " ++ a.typeName ++ "(Protocol):").toList := by
  obtain ⟨functionName, typeName, ms, -, -, -, rfl⟩ := buildApi_outcome_eq_ok.mp h
  have hheader : '\n' ∉ ("class " ++ typeName ++ "(Protocol):").toList := by
    have hn : '\n' ∉ typeName.toList := hn
    simp [hn]
  obtain ⟨l, rest, hlines⟩ : ∃ l rest, ClassDecl.lines "" ((Scope.collected s os key? functionName
      typeName).apiProtocol ms) = ("class " ++ typeName ++ "(Protocol):") :: l :: rest :=
    ClassDecl.exists_lines_protocol typeName _ _
  have htext : ∃ rest : List Char, (Code.render ((Scope.collected s os key? functionName
      typeName).api ms).declarations).toList =
        ("class " ++ typeName ++ "(Protocol):").toList ++ '\n' :: rest := by
    unfold Code.render ScopedApi.declarations
    simp only [List.map_cons, Code.Statement.lines, Scope.api, hlines, Text.joinWith]
    simp only [String.toList_append, List.append_assoc]
    exact ⟨_, rfl⟩
  obtain ⟨rest, htext⟩ := htext
  rw [htext, Text.firstLine_append, Text.firstLine_eq hheader]
  rfl

/-- No record starts like an API. -/
theorem firstLine_record_ne {name : String} {fields : List Code.Field} {summary : String}
    (h : ClassDecl.Lined ⟨name, [Code.recordBase], fields, [], some { summary := [summary] }⟩)
    {s : Conventions} {os : List SdkOperation} {key? : Option String} {a : ScopedApi}
    (ha : (buildApi s os key?).outcome = .ok a) (hn : '\n' ∉ a.typeName.toList) :
    Text.firstLine (Code.render [.classDecl
        ⟨name, [Code.recordBase], fields, [], some { summary := [summary] }⟩]).toList ≠
      Text.firstLine (Code.render a.declarations).toList := by
  obtain ⟨start, ending, hending, hline⟩ := firstLine_record h
  rw [hline, firstLine_api ha hn]
  intro heq
  have hrev := congrArg List.reverse heq
  simp only [String.toList_append, List.reverse_append] at hrev
  rcases List.mem_cons.mp hending with rfl | hending
  · simp at hrev
  · rw [List.mem_singleton.mp hending] at hrev
    simp at hrev

end ChainedSdk
