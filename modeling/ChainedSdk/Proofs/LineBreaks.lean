/-
# Breaking a line keeps its code

A statement that returns a value and the header of a function have one line if it
is not too long. Else the line is broken between its parts, each of which gets a
line and a comma of its own. `Code.rejoin?` goes the other way: it takes the
indentation off the lines, drops the comma of the last part, and puts the parts on
one line with blanks between them. What it gives for the lines of a broken line is
the line that was broken (`rejoin?_lines`).

The parts that a value is broken into are worked out apart from its text, by the
same cases once more: a call that ends with an object, an object made by a
constructor from keywords or from a dictionary, a dictionary. The two agree
(`flat_of_parts?`), but for one thing: a constructor without a name counts as none
where a line is broken, and as one in the text. So it is assumed that there is no
such constructor.

Key definitions: `Code.Expr.makers`, `Code.rejoin?`, `Code.BrokenFrom`.
Key theorems: `Code.rejoin?_lines`, `Code.flat_of_parts?`, `Code.lines_rejoin`.
-/
import ChainedSdk.Proofs.TripleQuotes

namespace ChainedSdk

namespace Code

/-! ### The constructors in an expression -/

mutual

/-- The constructors of the objects in an expression. -/
def Expr.makers : Expr → List String
  | .name _ => []
  | .literal _ => []
  | .call func args => func.makers ++ makersOfAll args
  | .lambda body => body.makers
  | .await value => value.makers
  | .object entries maker? => maker?.toList ++ makersOfEntries entries

/-- The constructors of the objects in expressions. -/
def makersOfAll : List Expr → List String
  | [] => []
  | e :: rest => e.makers ++ makersOfAll rest

/-- The constructors of the objects in an entry. -/
def Entry.makers : Entry → List String
  | .property _ value => value.makers
  | .spread value _ => value.makers

/-- The constructors of the objects in entries. -/
def makersOfEntries : List Entry → List String
  | [] => []
  | e :: rest => e.makers ++ makersOfEntries rest

end

theorem mem_makersOfAll {e : Expr} {maker : String} : ∀ {es : List Expr}, e ∈ es →
    maker ∈ e.makers → maker ∈ makersOfAll es
  | d :: es, he, hm => by
    unfold makersOfAll
    rcases List.mem_cons.mp he with rfl | he
    · exact List.mem_append_left _ hm
    · exact List.mem_append_right _ (mem_makersOfAll he hm)

/-! ### Putting lines together -/

/-- A line without the indentation before it. -/
def dropIndent? (indent line : String) : Option String :=
  if Text.startsWith line indent then some (String.ofList (line.toList.drop indent.toList.length))
  else none

/-- Parts without the comma behind the last one. -/
def dropComma? (parts : List String) : Option (List String) :=
  match parts.getLast? with
  | none => some []
  | some last =>
    if Text.endsWith last "," then
      some (parts.dropLast ++ [String.ofList last.toList.dropLast])
    else none

/-- The line that was broken into lines: the first and the last one at the
indentation, between them the parts, a step deeper, with commas behind them. -/
def rejoin? (indent : String) : List String → Option String
  | [] => none
  | first :: rest => do
    let opening ← dropIndent? indent first
    let parts ← rest.dropLast.mapM (dropIndent? (indent ++ indentStep))
    let parts ← dropComma? parts
    let closing ← dropIndent? indent (← rest.getLast?)
    return opening ++ Text.joinWith " " parts ++ closing

theorem dropIndent?_append (indent line : String) :
    dropIndent? indent (indent ++ line) = some line := by
  have hdrop : (indent ++ line).toList.drop indent.toList.length = line.toList := by
    rw [String.toList_append, List.drop_left]
  unfold dropIndent?
  rw [if_pos (Text.startsWith_append indent line), hdrop, String.ofList_toList]

theorem mapM_dropIndent? (indent : String) : ∀ parts : List String,
    (parts.map (indent ++ ·)).mapM (dropIndent? indent) = some parts
  | [] => rfl
  | part :: parts => by
    rw [List.map_cons, List.mapM_cons, dropIndent?_append, mapM_dropIndent? indent parts]
    rfl

/-- Without the comma of the last part, the commas and blanks are those between
parts. -/
theorem dropComma?_map (parts : List String) : ∃ rest,
    dropComma? (parts.map (· ++ ",")) = some rest ∧
      Text.joinWith " " rest = Text.joinWith ", " parts := by
  rcases List.eq_nil_or_concat parts with rfl | ⟨before, last, rfl⟩
  · exact ⟨[], rfl, rfl⟩
  · have hlast : String.ofList (last ++ ",").toList.dropLast = last := by
      have hcomma : (last ++ ",").toList = last.toList ++ [','] := by
        rw [String.toList_append]
        rfl
      rw [hcomma, List.dropLast_concat, String.ofList_toList]
    refine ⟨before.map (· ++ ",") ++ [last], ?_, ?_⟩
    · unfold dropComma?
      simp only [List.concat_eq_append, List.map_append, List.map_singleton, List.getLast?_concat,
        List.dropLast_concat, Text.endsWith_append, if_true, hlast]
    · have hseparators : (before.map (· ++ ",")).map (· ++ " ") = before.map (· ++ ", ") := by
        simp only [List.map_map, Function.comp_def, String.append_assoc]
        rfl
      rw [List.concat_eq_append, Text.joinWith_concat, Text.joinWith_concat, hseparators]

/-- **The lines of a broken line give the line again.** -/
theorem rejoin?_lines (b : Broken) (indent : String) :
    rejoin? indent (b.lines indent) = some b.flat := by
  have hparts : b.parts.map (fun part => indent ++ indentStep ++ part ++ ",") =
      (b.parts.map (· ++ ",")).map (indent ++ indentStep ++ ·) := by
    simp only [List.map_map, Function.comp_def, String.append_assoc]
  obtain ⟨rest, hrest, hjoin⟩ := dropComma?_map b.parts
  unfold rejoin? Broken.lines
  simp only [List.cons_append, List.dropLast_concat, List.getLast?_concat, dropIndent?_append, hparts,
    mapM_dropIndent?, hrest, hjoin, Option.bind_eq_bind, Option.bind_some]
  rfl

/-! ### Values and their parts -/

theorem exprTexts_eq_map : ∀ es : List Expr, exprTexts es = es.map Expr.text
  | [] => rfl
  | e :: es => by rw [exprTexts, exprTexts_eq_map es, List.map_cons]

theorem entryTexts_eq_map (attributes : Bool) : ∀ entries : List Entry,
    entryTexts attributes entries = entries.map (·.text attributes)
  | [] => rfl
  | e :: entries => by rw [entryTexts, entryTexts_eq_map attributes entries, List.map_cons]

theorem keywordTexts_eq_map : ∀ entries : List Entry,
    keywordTexts entries = entries.map Entry.keywordText
  | [] => rfl
  | e :: entries => by rw [keywordTexts, keywordTexts_eq_map entries, List.map_cons]

/-- The parts of an object make its text. -/
theorem flat_objectParts {entries : List Entry} {maker? : Option String} (h : "" ∉ maker?.toList) :
    (objectParts entries maker?).flat = (Expr.object entries maker?).text := by
  cases maker? with
  | none => rfl
  | some maker =>
    have hne : maker ≠ "" := by
      rintro rfl
      exact h List.mem_cons_self
    have hfilter : (some maker).filter (· ≠ "") = some maker := by simp [hne]
    unfold objectParts Expr.text
    rw [hfilter]
    simp only
    by_cases hk : allKeywords entries = true
    · rw [if_pos hk, if_pos hk]
      rfl
    · rw [if_neg hk, if_neg hk]
      rfl

/-- **The parts of a value make its text**, where no constructor lacks a name. -/
theorem flat_of_parts? {value : Expr} (h : "" ∉ value.makers) {b : Broken}
    (hb : value.parts? = some b) : b.flat = value.text := by
  cases value with
  | name | literal | lambda | await => cases hb
  | object entries maker? =>
    cases hb
    exact flat_objectParts fun hm => h (List.mem_append_left _ hm)
  | call func args =>
    unfold Expr.parts? at hb
    cases hlast : args.getLast? with
    | none => simp [hlast] at hb
    | some last =>
      simp only [hlast, Option.map_eq_some_iff] at hb
      obtain ⟨inner, hinner, rfl⟩ := hb
      have hargs : args = args.dropLast ++ [last] :=
        (List.dropLast_append_getLast? last hlast).symm
      have hmakers : "" ∉ last.makers := fun hm =>
        h (List.mem_append_right _ (mem_makersOfAll (List.mem_of_getLast? hlast) hm))
      have hflat : inner.flat = last.text := by
        cases last with
        | name | literal | call | lambda | await => cases hinner
        | object entries maker? =>
          cases hinner
          exact flat_objectParts fun hm => hmakers (List.mem_append_left _ hm)
      have htexts : exprTexts args = exprTexts args.dropLast ++ [last.text] := by
        conv_lhs => rw [hargs]
        rw [exprTexts_eq_map, exprTexts_eq_map, List.map_append, List.map_singleton]
      calc Broken.flat ⟨func.text ++ "(" ++ Text.joinWith "" ((exprTexts args.dropLast).map (· ++ ", "))
            ++ inner.opening, inner.parts, inner.closing ++ ")"⟩
          = func.text ++ "(" ++ (Text.joinWith "" ((exprTexts args.dropLast).map (· ++ ", "))
              ++ inner.flat) ++ ")" := by simp only [Broken.flat, String.append_assoc]
        _ = func.text ++ "(" ++ Text.joinWith ", " (exprTexts args) ++ ")" := by
            rw [hflat, htexts, Text.joinWith_concat]
        _ = (Expr.call func args).text := by rw [Expr.text]

/-! ### Statements and headers -/

/-- The lines are a line at an indentation, or the line is too long, there are
several lines, and put together they are the line. -/
def BrokenFrom (line indent : String) (lines : List String) : Prop :=
  lines = [indent ++ line] ∨
    lineLimit < (indent ++ line).length ∧ 1 < lines.length ∧ rejoin? indent lines = some line

theorem brokenFrom_lines {b : Broken} {line indent : String} (hb : b.flat = line)
    (hlong : lineLimit < (indent ++ line).length) : BrokenFrom line indent (b.lines indent) := by
  refine Or.inr ⟨hlong, ?_, ?_⟩
  · simp [Broken.lines]
  · rw [rejoin?_lines, hb]

theorem returnLines_brokenFrom {value : Expr} (h : "" ∉ value.makers) (indent : String) :
    BrokenFrom ("return " ++ value.text) indent (returnLines value indent) := by
  unfold returnLines
  simp only
  rw [String.append_assoc]
  by_cases hshort : (indent ++ ("return " ++ value.text)).length ≤ lineLimit
  · rw [if_pos hshort]
    exact Or.inl rfl
  · rw [if_neg hshort]
    cases hparts : value.parts? with
    | none => exact Or.inl rfl
    | some b =>
      refine brokenFrom_lines ?_ (Nat.lt_of_not_le hshort)
      rw [← flat_of_parts? h hparts]
      simp only [Broken.flat, String.append_assoc]

/-- The header of a function on one line. -/
def Signature.oneLine (s : Signature) : String :=
  (if s.async then "async def " else "def ") ++ s.name ++ "(" ++ paramsText s.params ++ ")"
    ++ (match s.returns? with
      | some t => " -> " ++ t.text
      | none => "") ++ ":"

theorem Signature.flat_header (s : Signature) : s.header.flat = s.oneLine := by
  have hkeyword : s.keyword ++ " " = if s.async then "async def " else "def " := by
    unfold keyword
    cases s.async <;> rfl
  have hnone : "):" = ")" ++ ":" := rfl
  have hreturns : ∀ t : TypeExpr, ") -> " ++ t.text ++ ":" = ")" ++ (" -> " ++ t.text) ++ ":" := by
    intro t
    rw [← String.append_assoc]
    rfl
  unfold header Broken.flat oneLine paramsText
  rw [← hkeyword]
  cases s.returns? with
  | none => simp only [hnone, String.append_assoc, String.append_empty]
  | some t => simp only [hreturns, String.append_assoc]

theorem headerLines_brokenFrom (s : Signature) (indent : String) :
    BrokenFrom s.oneLine indent (s.headerLines indent) := by
  unfold Signature.headerLines
  rw [s.flat_header]
  simp only [Bool.and_eq_true, decide_eq_true_eq]
  by_cases hlong : lineLimit < (indent ++ s.oneLine).length ∧ (!s.params.isEmpty) = true
  · rw [if_pos hlong]
    exact brokenFrom_lines s.flat_header hlong.1
  · rw [if_neg hlong]
    exact Or.inl rfl

/-- **Breaking a line never changes the code.** The lines of a statement that
returns a value are its line, or the line is too long and they give it when they are
put together; and so are the lines that a function starts with, which are those of
its header. -/
theorem lines_rejoin {value : Expr} (h : "" ∉ value.makers) (f : FunctionDef) (indent : String) :
    BrokenFrom ("return " ++ value.text) indent ((Statement.ret value).lines indent) ∧
    f.signature.headerLines indent <+: f.lines indent ∧
    BrokenFrom f.signature.oneLine indent (f.signature.headerLines indent) := by
  refine ⟨?_, ?_, headerLines_brokenFrom f.signature indent⟩
  · rw [Statement.lines]
    exact returnLines_brokenFrom h indent
  · obtain ⟨signature, body⟩ := f
    rw [FunctionDef.lines, List.append_assoc]
    exact List.prefix_append _ _

/-- What the method of a parent returns. -/
def Expr.sampleChained : Expr :=
  .call (.name "cast")
    [.name "TeamQueryResult",
      .object
        [.spread (.name "response") false,
          .spread (.call (.name "create_team_sdk")
            [.name "id", .name "requester", .name "wrapper"]) false]
        (some "OperationSet")]

/-- What the method of a parent returns has a line for each of the two objects that
are merged. -/
theorem sample_broken : "" ∉ Expr.sampleChained.makers ∧
    (Statement.ret .sampleChained).lines "        " =
      ["        return cast(TeamQueryResult, OperationSet(**\x7b",
        "            **vars(response),",
        "            **vars(create_team_sdk(id, requester, wrapper)),",
        "        \x7d))"] ∧
    rejoin? "        " ((Statement.ret .sampleChained).lines "        ") =
      some ("return " ++ Expr.sampleChained.text) := by
  have hmakers : "" ∉ Expr.sampleChained.makers := by decide
  have hlines : (Statement.ret .sampleChained).lines "        " =
      ["        return cast(TeamQueryResult, OperationSet(**\x7b",
        "            **vars(response),",
        "            **vars(create_team_sdk(id, requester, wrapper)),",
        "        \x7d))"] := by decide +kernel
  refine ⟨hmakers, hlines, ?_⟩
  rcases (lines_rejoin hmakers ⟨{ name := "team" }, []⟩ "        ").1 with hone | ⟨-, -, hrejoin⟩
  · have hlength := congrArg List.length (hlines.symm.trans hone)
    simp at hlength
  · exact hrejoin

end Code
end ChainedSdk
