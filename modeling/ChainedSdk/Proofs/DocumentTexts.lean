/-
# The text of an operation and the constant that holds it

A constant holds the text of an operation and those of the fragments that it needs
(`operationDocument_eq_ok`). The text starts with the kind of the operation and its
name, and the name ends where a character follows that stands in no name
(`GraphQL.Operation.exists_print`). So different operations have different texts
unless they have one name (`name_eq_of_documentText?_eq`).

The constants of a module are the texts of its operations, in order
(`constants_of_operationDocuments`); of several with one name the last one counts.

Key definitions: `SdkOperation.documentText?`, `Code.Statement.constant?`,
`Code.constantNamed?`.
Key theorems: `GraphQL.Operation.exists_print`, `name_eq_of_documentText?_eq`,
`constants_of_operationDocuments`.
-/
import ChainedSdk.Generator
import ChainedSdk.Proofs.Description

namespace ChainedSdk

open Code (Statement)

/-! ### Constants -/

namespace Code

/-- The constant that a statement declares. -/
def Statement.constant? : Statement → Option (String × String)
  | .text name value => some (name, value)
  | _ => none

/-- The value of a constant after statements: of several with one name the last one
counts. -/
def constantNamed? (statements : List Statement) (name : String) : Option String :=
  Assoc.get? name (statements.filterMap Statement.constant?).reverse

end Code

/-- The text of an operation, and below it those of the fragments it needs, if all of
these are defined. -/
def SdkOperation.documentText? (table : GraphQL.FragmentTable) (o : SdkOperation) :
    Option String :=
  match GraphQL.spreads table o.definition.selections with
  | .ok names =>
    let fragments := names.filterMap fun name => Assoc.get? name table
    some (Text.joinWith "\n\n" (o.definition.print :: fragments.map GraphQL.Fragment.print))
  | .error _ => none

/-- The constant of an operation holds its text. -/
theorem operationDocument_eq_ok {table : GraphQL.FragmentTable} {o : SdkOperation}
    {s : Statement} : operationDocument table o = .ok s ↔
      ∃ text, o.documentText? table = some text ∧ s = .text o.documentName text := by
  unfold operationDocument SdkOperation.documentText?
  cases GraphQL.spreads table o.definition.selections with
  | error fragment => simp
  | ok names =>
    simp only [Except.ok.injEq, Option.some.injEq, exists_eq_left']
    exact eq_comm

/-- **The constants of operations** hold their texts, in order. -/
theorem constants_of_operationDocuments {d : GraphQL.Document} {os : List SdkOperation}
    {documents : List Statement} (h : operationDocuments d os = .ok documents) :
    (∀ o ∈ os, ∃ text, o.documentText? d.fragmentTable = some text) ∧
    documents.filterMap Statement.constant? =
      os.map fun o => (o.documentName, (o.documentText? d.fragmentTable).getD "") := by
  have hall := mapM_except_eq_ok.mp h
  clear h
  induction hall with
  | nil => simp
  | cons hs _ ih =>
    obtain ⟨text, htext, rfl⟩ := operationDocument_eq_ok.mp hs
    refine ⟨List.forall_mem_cons.mpr ⟨⟨text, htext⟩, ih.1⟩, ?_⟩
    rw [List.map_cons, ← ih.2, htext]
    rfl

/-! ### Names in texts -/

theorem Text.exists_joinWith_cons (sep s : String) (rest : List String) :
    ∃ more, joinWith sep (s :: rest) = s ++ more := by
  cases rest with
  | nil => exact ⟨"", by simp [joinWith]⟩
  | cons t rest => exact ⟨sep ++ joinWith sep (t :: rest), by simp [joinWith, String.append_assoc]⟩

namespace GraphQL

open Layout

/-- The text starts with a character that stands in no name. -/
def Apart (s : String) : Prop :=
  ∃ c rest, isNamePart c = false ∧ s.toList = c :: rest

theorem Apart.append {s : String} (h : Apart s) (t : String) : Apart (s ++ t) := by
  obtain ⟨c, rest, hc, hs⟩ := h
  exact ⟨c, rest ++ t.toList, hc, by rw [String.toList_append, hs, List.cons_append]⟩

theorem Apart.around_append {before t : String} (hb : Apart before) (ht : Apart t)
    (s after : String) : Apart (around before s after ++ t) := by
  unfold around
  split
  · rw [String.empty_append]
    exact ht
  · rw [String.append_assoc, String.append_assoc]
    exact hb.append _

theorem joinSome_pair {a b : String} (ha : a ≠ "") : joinSome "" [a, b] = a ++ b := by
  unfold joinSome
  by_cases hb : b = ""
  · simp [ha, hb, Text.joinWith]
  · simp [ha, hb, Text.joinWith]

theorem joinSome_three {a b : String} (ha : a ≠ "") (hb : b ≠ "") (c : String) :
    joinSome " " [a, b, c] = a ++ " " ++ b ++ around " " c "" := by
  unfold joinSome around
  by_cases hc : c = ""
  · simp [ha, hb, hc, Text.joinWith]
  · simp [ha, hb, hc, Text.joinWith, String.append_assoc]

/-- **The text of an operation** with a name starts with its kind and its name, and
after the name comes a character that stands in no name. -/
theorem Operation.exists_print {o : Operation} {name : String} (hname : o.name? = some name)
    (hne : name ≠ "") : ∃ rest, Apart rest ∧ o.print = o.kind.word ++ " " ++ name ++ rest := by
  have hkind : o.kind.word ≠ "" := by
    cases o.kind <;> decide
  have hblank : Apart " " := ⟨' ', [], by decide, rfl⟩
  have hdeclared : ∀ {parts : List String} {t : String}, Apart t → Apart
      ((if anyBroken parts then around "(\n" (Text.joinWith "\n" parts) "\n)"
        else around "(" (Text.joinWith ", " parts) ")") ++ t) := by
    intro parts t ht
    split
    · exact Apart.around_append ⟨'(', ['\n'], by decide, rfl⟩ ht _ _
    · exact Apart.around_append ⟨'(', [], by decide, rfl⟩ ht _ _
  unfold Operation.print
  simp only [hname, Option.getD_some]
  generalize hd : (if anyBroken (o.declared.map VariableDefinition.print) then
      around "(\n" (Text.joinWith "\n" (o.declared.map VariableDefinition.print)) "\n)"
    else around "(" (Text.joinWith ", " (o.declared.map VariableDefinition.print)) ")") = declared
  have hpart : name ++ declared ≠ "" := fun he => hne (String.append_eq_empty_iff.mp he).1
  rw [joinSome_pair hne, joinSome_three hkind hpart, if_neg]
  · refine ⟨declared ++ (around " " (printDirectives o.directives) "" ++ (" " ++
      block (Selection.printAll o.selections))), ?_, by simp only [String.append_assoc]⟩
    rw [← hd]
    exact hdeclared (hblank.around_append (hblank.append _) _ _)
  · intro he
    have hmem : ' ' ∈ "query".toList := by
      rw [← he]
      simp
    exact absurd hmem (by decide)

/-- A name ends where a character follows that stands in no name. -/
theorem name_eq_of_append_eq {a b u v : String} (ha : isName a = true) (hb : isName b = true)
    (hu : Apart u) (hv : Apart v) (h : a ++ u = b ++ v) : a = b := by
  obtain ⟨c, cs, hc, hu⟩ := hu
  obtain ⟨d, ds, hd, hv⟩ := hv
  have hl := congrArg (fun s : String => s.toList.takeWhile isNamePart) h
  simp only [String.toList_append, hu, hv] at hl
  rw [List.takeWhile_append_of_pos fun x hx => isNamePart_of_mem ha hx,
    List.takeWhile_append_of_pos fun x hx => isNamePart_of_mem hb hx,
    List.takeWhile_cons_of_neg (by simp [hc]), List.takeWhile_cons_of_neg (by simp [hd]),
    List.append_nil, List.append_nil] at hl
  exact String.toList_injective hl

end GraphQL

/-- **Texts of operations** tell the names of the operations. -/
theorem name_eq_of_documentText?_eq {c : Config} {table : GraphQL.FragmentTable}
    {o p : SdkOperation} (ho : Described c o) (hp : Described c p) {text : String}
    (hto : o.documentText? table = some text) (htp : p.documentText? table = some text) :
    o.name = p.name := by
  have hstart : ∀ {q : SdkOperation}, Described c q → q.documentText? table = some text →
      ∃ rest, GraphQL.Apart rest ∧ text = q.definition.kind.word ++ " " ++ q.name ++ rest := by
    intro q hq htext
    obtain ⟨rest, hrest, hprint⟩ := GraphQL.Operation.exists_print hq.name?_eq
      (GraphQL.ne_empty_of_isName hq.isName_name)
    unfold SdkOperation.documentText? at htext
    split at htext
    · cases htext
      obtain ⟨more, hmore⟩ := Text.exists_joinWith_cons "\n\n" q.definition.print _
      rw [hmore, hprint, String.append_assoc]
      exact ⟨rest ++ more, hrest.append more, rfl⟩
    · cases htext
  obtain ⟨u, hu, hou⟩ := hstart ho hto
  obtain ⟨v, hv, hpv⟩ := hstart hp htp
  have hword : ∀ k : GraphQL.OperationKind, GraphQL.isName k.word = true := by
    intro k
    cases k <;> decide
  have hblank : ∀ s, GraphQL.Apart (" " ++ s) := fun s => ⟨' ', s.toList, by decide, by simp⟩
  rw [hou, String.append_assoc, String.append_assoc, String.append_assoc, String.append_assoc] at hpv
  have hkind := GraphQL.name_eq_of_append_eq (hword _) (hword _) (hblank _) (hblank _) hpv
  rw [hkind, String.append_right_inj, String.append_right_inj] at hpv
  exact GraphQL.name_eq_of_append_eq ho.isName_name hp.isName_name hu hv hpv

end ChainedSdk
