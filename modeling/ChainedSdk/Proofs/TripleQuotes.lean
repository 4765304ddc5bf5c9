/-
# Texts in triple quotes read back

What stands between three double quotes is read from the left: a backslash takes the
character after it along, and the first three quotes in a row that are not taken end
the text. So the parts of a text can be looked at one by one, if reading goes on
behind each of them as it did before it (`Code.Stands`). Escaped characters are such
parts, and so is a quote that two more cannot follow (`Code.Stands.quote`); a text
made of such parts ends where it is meant to, and stands for what the parts stand for
(`Code.literal_iff_stands`).

A constant escapes every quote, so it reads back as it is (`Code.constant_reads_back`).
A line of documentation escapes quotes that come in threes, which leaves two in a row
at most, and none at its end, where a blank goes behind it (`Code.stands_docLine`). The
lines after the first one have the indentation before them, which is not escaped. So
documentation reads back under an indentation exactly if the indentation could stand
between three quotes itself (`Code.documentation_reads_back`), as blanks can; with
quotes for an indentation the second line would end the text
(`Code.quotes_as_indentation`).

Key definitions: `Code.Literal`, `Code.Stands`, `Code.DocBlock.sections`,
`Code.DocBlock.shown`, `Code.DocBlock.ReadsBack`.
Key theorems: `Code.literal_iff_stands`, `Code.stands_docLine`,
`Code.constant_reads_back`, `Code.documentation_reads_back`.
-/
import ChainedSdk.Code.Quotation
import ChainedSdk.Code.Render
import ChainedSdk.Proofs.Pieces
import Mathlib.Data.List.Forall2

namespace ChainedSdk

namespace Code

/-! ### Reading in three quotes -/

section Reading

variable {c : Char} {seen rest : List Char}

/-- A backslash takes the next character along. -/
theorem bodyEnd_escaped :
    Quotation.bodyEnd? true '"' false seen ('\\' :: c :: rest)
      = Quotation.bodyEnd? true '"' false (c :: '\\' :: seen) rest := by
  simp [Quotation.bodyEnd?]

/-- The first quote is escaped, and the next three end the text. -/
example : Quotation.bodyEnd? true '"' false [] ['a', '\\', '"', '"', '"', '"', 'b'] =
    some (['a', '\\', '"'], ['b']) := by cbv

theorem bodyEnd_plain (hc : c ≠ '\\') (hquote : c ≠ '"') :
    Quotation.bodyEnd? true '"' false seen (c :: rest)
      = Quotation.bodyEnd? true '"' false (c :: seen) rest := by
  simp [Quotation.bodyEnd?, hc, hquote]

/-- A quote that two more do not follow does not end the text. -/
theorem bodyEnd_quote (h : ['"', '"'].isPrefixOf rest = false) :
    Quotation.bodyEnd? true '"' false seen ('"' :: rest)
      = Quotation.bodyEnd? true '"' false ('"' :: seen) rest := by
  simp [Quotation.bodyEnd?, h]

theorem bodyEnd_three (h : ['"', '"'].isPrefixOf rest = true) :
    Quotation.bodyEnd? true '"' false seen ('"' :: rest) = some (seen.reverse, rest.drop 2) := by
  simp [Quotation.bodyEnd?, h]

theorem unescape_escaped (hc : c = '\\' ∨ c = '"') :
    unescape ('\\' :: c :: rest) = c :: unescape rest := by
  simp [unescape, hc]

example : unescape ['a', '\\', '"', 'b'] = ['a', '"', 'b'] := by cbv

theorem unescape_plain (hc : c ≠ '\\') : unescape (c :: rest) = c :: unescape rest := by
  cases rest <;> simp [unescape, hc]

theorem unescape_backslash (hc : c ≠ '\\') (hquote : c ≠ '"') :
    unescape ('\\' :: c :: rest) = '\\' :: c :: unescape rest := by
  rw [unescape, if_neg (by simp [hc, hquote]), unescape_plain hc]

end Reading

/-- **A text between three quotes reads back**: the first three quotes that end it are
the ones behind it, and its escapes stand for `text`. -/
structure Literal (body text : List Char) : Prop where
  closes : Quotation.end? (tripleQuote.toList ++ body ++ tripleQuote.toList) = some (body, [])
  decodes : unescape body = text

/-- `cs` is a part of a text between three quotes that stands for `ds`: whatever was
read before it and stands behind it, reading goes on behind it. -/
structure Stands (cs ds : List Char) : Prop where
  passes : ∀ seen rest,
    Quotation.bodyEnd? true '"' false seen (cs ++ rest)
      = Quotation.bodyEnd? true '"' false (cs.reverse ++ seen) rest
  decodes : ∀ rest, unescape (cs ++ rest) = ds ++ unescape rest

namespace Stands

variable {cs ds es fs : List Char} {c : Char}

theorem nil : Stands [] [] := ⟨fun _ _ => rfl, fun _ => rfl⟩

theorem append (h₁ : Stands cs ds) (h₂ : Stands es fs) : Stands (cs ++ es) (ds ++ fs) where
  passes seen rest := by
    rw [List.append_assoc, h₁.passes, h₂.passes, List.reverse_append, List.append_assoc]
  decodes rest := by
    rw [List.append_assoc, h₁.decodes, h₂.decodes, List.append_assoc]

theorem plain (hc : c ≠ '\\') (hquote : c ≠ '"') : Stands [c] [c] where
  passes _ _ := bodyEnd_plain hc hquote
  decodes _ := unescape_plain hc

theorem escaped (hc : c = '\\' ∨ c = '"') : Stands ['\\', c] [c] where
  passes _ _ := bodyEnd_escaped
  decodes _ := unescape_escaped hc

/-- A backslash before any other character stands for itself. -/
theorem backslash (hc : c ≠ '\\') (hquote : c ≠ '"') : Stands ['\\', c] ['\\', c] where
  passes _ _ := bodyEnd_escaped
  decodes _ := unescape_backslash hc hquote

/-- A quote may stand before a part that does not start with two more, whatever
follows that part. -/
theorem quote (h : Stands cs ds) (hcs : ∀ rest, ['"', '"'].isPrefixOf (cs ++ rest) = false) :
    Stands ('"' :: cs) ('"' :: ds) where
  passes seen rest := by
    rw [List.cons_append, bodyEnd_quote (hcs rest), h.passes, List.reverse_cons,
      List.append_assoc, List.singleton_append]
  decodes rest := by
    rw [List.cons_append, unescape_plain (by decide), h.decodes, List.cons_append]

theorem blanks : ∀ cs : List Char, (∀ c ∈ cs, c ≠ '"' ∧ c ≠ '\\') → Stands cs cs
  | [], _ => nil
  | c :: cs, h => by
    obtain ⟨hc, hcs⟩ := List.forall_mem_cons.mp h
    exact (plain hc.2 hc.1).append (blanks cs hcs)

/-- That there are no quotes and backslashes can be evaluated. -/
theorem of_all (h : (cs.all fun c => decide (c ≠ '"' ∧ c ≠ '\\')) = true) : Stands cs cs :=
  blanks cs (by simpa only [List.all_eq_true, decide_eq_true_eq] using h)

/-- Lines that are parts make a part, with line breaks between them. -/
theorem joinWith {xs ys : List String}
    (h : List.Forall₂ (fun s t => Stands s.toList t.toList) xs ys) :
    Stands (Text.joinWith "\n" xs).toList (Text.joinWith "\n" ys).toList := by
  induction h with
  | nil => exact nil
  | @cons s t xs ys hst h ih =>
    cases h with
    | nil => exact hst
    | @cons s' t' xs ys hst' h =>
      rw [Text.joinWith_cons_cons, Text.joinWith_cons_cons]
      simp only [String.toList_append]
      exact (hst.append (plain (by decide) (by decide))).append ih

end Stands

/-- What does not start with two quotes when three are behind it never does. -/
theorem isPrefixOf_append_of_three {cs : List Char}
    (h : ['"', '"'].isPrefixOf (cs ++ tripleQuote.toList) = false) (rest : List Char) :
    ['"', '"'].isPrefixOf (cs ++ rest) = false := by
  match cs, h with
  | [], h => exact absurd h (by decide)
  | [c], h =>
    have hc : '"' ≠ c := by simpa [tripleQuote, List.isPrefixOf] using h
    simp [List.isPrefixOf, hc]
  | c :: d :: cs, h => simpa [List.isPrefixOf] using h

/-- A text that ends at the three quotes behind it goes through, whatever follows. -/
theorem stands_of_bodyEnd : ∀ (cs seen : List Char),
    Quotation.bodyEnd? true '"' false seen (cs ++ tripleQuote.toList)
      = some (seen.reverse ++ cs, []) →
    Stands cs (unescape cs)
  | [], _, _ => Stands.nil
  | c :: cs, seen, h => by
    rw [List.cons_append] at h
    by_cases hback : c = '\\'
    · subst hback
      cases cs with
      | nil => simp [tripleQuote, Quotation.bodyEnd?] at h
      | cons d cs =>
        have ih : Stands cs (unescape cs) := by
          refine stands_of_bodyEnd cs (d :: '\\' :: seen) ?_
          rw [List.cons_append, bodyEnd_escaped] at h
          simpa using h
        by_cases hd : d = '\\' ∨ d = '"'
        · rw [unescape_escaped hd]
          exact (Stands.escaped hd).append ih
        · obtain ⟨hd, hquote⟩ := not_or.mp hd
          rw [unescape_backslash hd hquote]
          exact (Stands.backslash hd hquote).append ih
    · rw [unescape_plain hback]
      by_cases hquote : c = '"'
      · subst hquote
        cases hthree : ['"', '"'].isPrefixOf (cs ++ tripleQuote.toList) with
        | true =>
          -- the text would have ended before this quote
          rw [bodyEnd_three hthree] at h
          simp at h
        | false =>
          have ih : Stands cs (unescape cs) := by
            refine stands_of_bodyEnd cs ('"' :: seen) ?_
            rw [bodyEnd_quote hthree] at h
            simpa using h
          exact ih.quote (isPrefixOf_append_of_three hthree)
      · have ih : Stands cs (unescape cs) := by
          refine stands_of_bodyEnd cs (c :: seen) ?_
          rw [bodyEnd_plain hback hquote] at h
          simpa using h
        exact (Stands.plain hback hquote).append ih
  termination_by cs => cs.length

theorem end_tripleQuote (cs : List Char) :
    Quotation.end? (tripleQuote.toList ++ cs ++ tripleQuote.toList)
      = Quotation.bodyEnd? true '"' false [] (cs ++ tripleQuote.toList) := by
  simp [tripleQuote, Quotation.end?]

/-- **What reads back between three quotes** are the texts that reading goes through
everywhere. -/
theorem literal_iff_stands {cs ds : List Char} : Literal cs ds ↔ Stands cs ds := by
  constructor
  · rintro ⟨hcloses, rfl⟩
    exact stands_of_bodyEnd cs [] (end_tripleQuote cs ▸ hcloses)
  · intro h
    refine ⟨?_, ?_⟩
    · rw [end_tripleQuote, h.passes]
      exact (bodyEnd_three (by decide)).trans (by simp)
    · simpa [unescape] using h.decodes []

/-! ### Constants -/

/-- Every quote and every backslash of a constant is escaped. -/
theorem stands_escapeConstant : ∀ cs : List Char, Stands (escapeConstant cs) cs
  | [] => Stands.nil
  | c :: cs => by
    have ih := stands_escapeConstant cs
    rw [escapeConstant, List.flatMap_cons]
    by_cases hc : c = '\\' ∨ c = '"'
    · rw [if_pos (by simpa using hc)]
      exact (Stands.escaped hc).append ih
    · obtain ⟨hback, hquote⟩ := not_or.mp hc
      rw [if_neg (by simp [hback, hquote])]
      exact (Stands.plain hback hquote).append ih

theorem joinWith_constantLines (indent name value : String) :
    Text.joinWith "\n" (constantLines indent name value)
      = indent ++ name ++ " = " ++ tripleQuote
        ++ String.ofList (escapeConstant value.toList) ++ tripleQuote := by
  have hjoin := Text.joinWith_splitAt '\n' (escapeConstant value.toList)
  unfold constantLines
  generalize Text.splitAt '\n' (escapeConstant value.toList) = pieces at hjoin ⊢
  rw [← hjoin]
  match pieces with
  | [] => simp [Text.joinWith]
  | [line] => simp [Text.joinWith]
  | first :: second :: rest =>
    -- the last line is the last piece with the closing quotes behind it
    have hlast : (second :: rest).dropLast.map String.ofList
          ++ [String.ofList ((second :: rest).getLast?.getD [])]
        = (second :: rest).map String.ofList := by
      rw [List.getLast?_eq_some_getLast (List.cons_ne_nil _ _), Option.getD_some,
        ← List.map_singleton, ← List.map_append, List.dropLast_append_getLast]
    change Text.joinWith "\n" ((indent ++ name ++ " = " ++ tripleQuote ++ String.ofList first)
        :: ((second :: rest).dropLast.map String.ofList
          ++ [String.ofList ((second :: rest).getLast?.getD []) ++ tripleQuote])) = _
    rw [Text.joinWith_append_head, ← List.cons_append, Text.joinWith_append_last,
      List.cons_append, hlast, ← List.map_cons, ← String.append_assoc]

/-- **A constant reads back as it is**: behind its name stands one text in three
quotes, which ends with the last of the lines and stands for the value. -/
theorem constant_reads_back (indent name value : String) :
    ∃ body, (Text.joinWith "\n" (Statement.lines indent (.text name value))).toList
        = (indent ++ name ++ " = ").toList
          ++ (tripleQuote.toList ++ body ++ tripleQuote.toList)
      ∧ Literal body value.toList := by
  refine ⟨escapeConstant value.toList, ?_, literal_iff_stands.mpr (stands_escapeConstant _)⟩
  rw [Statement.lines, joinWith_constantLines]
  simp only [String.toList_append, String.toList_ofList, List.append_assoc]

/-! ### Lines of documentation -/

/-- A line of documentation as it reads back: with a blank behind a quote at its end. -/
def shownLine (s : String) : String :=
  if endsInQuote s.toList then s ++ " " else s

theorem endsInQuote_cons (c : Char) (cs : List Char) :
    endsInQuote (c :: cs) = (endsInQuote cs || (cs.isEmpty && c == '"')) := by
  cases cs with
  | nil => simp [endsInQuote, Bool.beq_eq_decide_eq]
  | cons d cs => simp [endsInQuote]

theorem isEmpty_escapeDoc (cs : List Char) : (escapeDoc cs).isEmpty = cs.isEmpty := by
  fun_cases escapeDoc cs <;> rfl

/-- Escaping neither makes nor takes away a quote at the end. -/
theorem endsInQuote_escapeDoc (cs : List Char) :
    endsInQuote (escapeDoc cs) = endsInQuote cs := by
  fun_induction escapeDoc cs with
  | case1 => rfl
  | case2 rest ih => simp [endsInQuote_cons, ih, isEmpty_escapeDoc]
  | case3 rest ih => simp [endsInQuote_cons, ih, isEmpty_escapeDoc]
  | case4 c rest hback hthree ih => simp [endsInQuote_cons, ih, isEmpty_escapeDoc]

/-- A blank at the end is not escaped, and no escape looks beyond it. -/
theorem escapeDoc_append_blank (cs : List Char) :
    escapeDoc (cs ++ [' ']) = escapeDoc cs ++ [' '] := by
  fun_induction escapeDoc cs with
  | case1 => rfl
  | case2 rest ih => simpa [escapeDoc] using ih
  | case3 rest ih => simpa [escapeDoc] using ih
  | case4 c rest hback hthree ih =>
    rw [List.cons_append, escapeDoc, ih, List.cons_append]
    · exact hback
    · rintro more rfl hmore
      match rest with
      | [] => simp at hmore
      | [_] => simp at hmore
      | _ :: _ :: rest =>
        obtain ⟨rfl, rfl, -⟩ : _ ∧ _ ∧ _ := by simpa using hmore
        exact hthree rest rfl rfl

/-- What is escaped starts like the text, or with a backslash. -/
theorem head_escapeDoc {cs more : List Char} (h : escapeDoc cs = '"' :: more) :
    ∃ rest, cs = '"' :: rest ∧ escapeDoc rest = more := by
  revert h
  fun_cases escapeDoc cs <;> simp_all

/-- Behind a quote, two more cannot follow: three would be escaped, and the text does
not end in a quote. -/
theorem isPrefixOf_escapeDoc {rest : List Char} (hend : endsInQuote ('"' :: rest) = false)
    (hthree : ∀ more, rest ≠ '"' :: '"' :: more) (tail : List Char) :
    ['"', '"'].isPrefixOf (escapeDoc rest ++ tail) = false := by
  match hrest : escapeDoc rest with
  | [] =>
    have hnil : rest = [] := by simpa [hrest] using isEmpty_escapeDoc rest
    simp [hnil, endsInQuote] at hend
  | [c] =>
    have hc : '"' ≠ c := by
      rintro rfl
      rw [endsInQuote_cons, ← endsInQuote_escapeDoc, hrest] at hend
      simp [endsInQuote] at hend
    simp [List.isPrefixOf, hc]
  | c :: d :: more =>
    have hcd : ¬('"' = c ∧ '"' = d) := by
      rintro ⟨rfl, rfl⟩
      obtain ⟨rest, rfl, hsecond⟩ := head_escapeDoc hrest
      obtain ⟨rest, rfl, -⟩ := head_escapeDoc hsecond
      exact hthree rest rfl
    simpa [List.isPrefixOf] using not_and.mp hcd

/-- **Escaped text goes through**, unless it ends in a quote: three quotes in a row
are escaped, and two in a row have another character behind them. -/
theorem stands_escapeDoc (cs : List Char) (h : endsInQuote cs = false) :
    Stands (escapeDoc cs) cs := by
  fun_induction escapeDoc cs with
  | case1 => exact Stands.nil
  | case2 rest ih =>
    rw [endsInQuote_cons, Bool.or_eq_false_iff] at h
    exact (Stands.escaped (Or.inl rfl)).append (ih h.1)
  | case3 rest ih =>
    simp only [endsInQuote_cons, Bool.or_eq_false_iff] at h
    have hquote : Stands ['\\', '"'] ['"'] := Stands.escaped (Or.inr rfl)
    exact hquote.append (hquote.append (hquote.append (ih h.1.1.1)))
  | case4 c rest hback hthree ih =>
    have hrest : Stands (escapeDoc rest) rest := by
      rw [endsInQuote_cons, Bool.or_eq_false_iff] at h
      exact ih h.1
    by_cases hc : c = '"'
    · subst hc
      exact hrest.quote (isPrefixOf_escapeDoc h fun more => hthree more rfl)
    · exact (Stands.plain hback hc).append hrest

/-- **A line of documentation goes through**, and stands for itself but for the blank
behind a quote at its end. -/
theorem stands_docLine (s : String) : Stands (docLine s).toList (shownLine s).toList := by
  unfold docLine shownLine
  simp only [endsInQuote_escapeDoc, String.toList_ofList]
  split
  · rw [← escapeDoc_append_blank, String.toList_append]
    refine stands_escapeDoc _ ?_
    simp [endsInQuote]
  · next h => exact stands_escapeDoc _ (Bool.eq_false_iff.mpr h)

/-! ### Documentation -/

namespace DocBlock

/-- The sections of a documentation: what it is about, and what goes in and what comes
out where it says so. -/
def sections (d : DocBlock) : List (List String) :=
  (if d.summary = [] then [""] else d.summary)
    :: (if d.args = [] then [] else ["Args:" :: d.args.map (indentStep ++ ·)])
    ++ match d.returns?.filter (· ≠ "") with
      | some text => [["Returns:", indentStep ++ text]]
      | none => []

/-- The sections have empty lines between them. -/
theorem lines_eq_sections (d : DocBlock) : d.lines = [""].intercalate d.sections := by
  have hsummary : (if d.summary.isEmpty then [""] else d.summary)
      = if d.summary = [] then [""] else d.summary := by
    simp only [List.isEmpty_iff]
  unfold lines sections
  rw [hsummary]
  generalize (if d.summary = [] then [""] else d.summary) = summary
  rcases d with ⟨-, args, _ | text⟩
  · by_cases hargs : args = [] <;> simp [hargs, List.intercalate]
  · by_cases hargs : args = [] <;> by_cases htext : text = "" <;>
      simp [hargs, htext, List.intercalate, Option.filter]

/-- A line after the first one: behind the indentation, or empty. -/
def shownBelow (indent line : String) : String :=
  if line = "" then "" else indent ++ shownLine line

/-- What documentation stands for: its lines, those after the first one behind the
indentation, and the indentation of the closing quotes if they have a line of their
own. -/
def shown (d : DocBlock) (indent : String) : String :=
  match [""].intercalate d.sections with
  | [] => ""
  | [line] => shownLine line
  | first :: rest =>
    Text.joinWith "\n" (shownLine first :: rest.map (shownBelow indent) ++ [indent])

/-- **Documentation reads back**: behind the indentation stands one text in three
quotes, which ends with the last of the lines and stands for the documentation. -/
def ReadsBack (d : DocBlock) (indent : String) : Prop :=
  ∃ body, (Text.joinWith "\n" (d.render indent)).toList
      = indent.toList ++ (tripleQuote.toList ++ body ++ tripleQuote.toList)
    ∧ Literal body (d.shown indent).toList

/-- The text between the quotes. -/
def body (d : DocBlock) (indent : String) : String :=
  match d.lines with
  | [] => ""
  | [line] => docLine line
  | first :: rest =>
    Text.joinWith "\n"
      (docLine first :: rest.map (fun line => if line = "" then "" else indent ++ docLine line)
        ++ [indent])

theorem joinWith_render (d : DocBlock) (indent : String) :
    Text.joinWith "\n" (d.render indent)
      = indent ++ (tripleQuote ++ d.body indent ++ tripleQuote) := by
  unfold render body
  generalize d.lines = lines
  match lines with
  | [] => simp [Text.joinWith, String.append_assoc]
  | [line] => simp [Text.joinWith, String.append_assoc]
  | first :: second :: rest =>
    rw [Text.joinWith_append_last]
    simp only [List.cons_append, Text.joinWith_append_head, String.append_assoc]

theorem readsBack_iff {d : DocBlock} {indent : String} :
    d.ReadsBack indent ↔ Literal (d.body indent).toList (d.shown indent).toList := by
  unfold ReadsBack
  simp only [joinWith_render, String.toList_append]
  constructor
  · rintro ⟨body, heq, h⟩
    have hbody : (d.body indent).toList = body := by simpa using heq
    rwa [hbody]
  · exact fun h => ⟨_, rfl, h⟩

theorem stands_shownBelow {indent : String} (h : Stands indent.toList indent.toList)
    (line : String) :
    Stands (if line = "" then "" else indent ++ docLine line).toList
      (shownBelow indent line).toList := by
  unfold shownBelow
  split
  · exact Stands.nil
  · simp only [String.toList_append]
    exact h.append (stands_docLine line)

/-- Documentation of one line does not look at the indentation. -/
theorem readsBack_of_sections {d : DocBlock} {line : String} (h : d.sections = [[line]])
    (indent : String) : d.ReadsBack indent := by
  rw [readsBack_iff, literal_iff_stands, body, shown, lines_eq_sections, h]
  exact stands_docLine line

/-- **Documentation reads back** under an indentation that goes through itself. -/
theorem readsBack_of_stands {indent : String} (h : Stands indent.toList indent.toList)
    (d : DocBlock) : d.ReadsBack indent := by
  rw [readsBack_iff, literal_iff_stands]
  unfold body shown
  rw [← lines_eq_sections]
  generalize d.lines = lines
  match lines with
  | [] => exact Stands.nil
  | [line] => exact stands_docLine line
  | first :: second :: rest =>
    refine Stands.joinWith (List.rel_append ?_ (.cons h .nil))
    refine .cons (stands_docLine first) ?_
    exact List.forall₂_map_left_iff.mpr (List.forall₂_map_right_iff.mpr
      (List.forall₂_same.mpr fun line _ => stands_shownBelow h line))

/-- Behind two empty lines, the indentation has to read back itself. -/
theorem literal_of_readsBack {indent : String}
    (h : ({ summary := ["", ""] } : DocBlock).ReadsBack indent) :
    Literal indent.toList indent.toList := by
  have hbody : (({ summary := ["", ""] } : DocBlock).body indent).toList
      = '\n' :: '\n' :: indent.toList := by
    simp [body, lines, docLine, escapeDoc, endsInQuote, Text.joinWith]
  have hshown : (({ summary := ["", ""] } : DocBlock).shown indent).toList
      = '\n' :: '\n' :: indent.toList := by
    simp [shown, sections, List.intercalate, shownLine, shownBelow, endsInQuote, Text.joinWith]
  rw [readsBack_iff, hbody, hshown] at h
  have hbreak : ∀ cs, unescape ('\n' :: cs) = '\n' :: unescape cs :=
    fun _ => unescape_plain (by decide)
  have hdecodes : unescape indent.toList = indent.toList := by
    simpa [hbreak] using h.decodes
  have hcloses : Quotation.bodyEnd? true '"' false ['\n', '\n']
      (indent.toList ++ tripleQuote.toList) = some ('\n' :: '\n' :: indent.toList, []) := by
    have hend := h.closes
    rwa [end_tripleQuote, List.cons_append, List.cons_append,
      bodyEnd_plain (by decide) (by decide), bodyEnd_plain (by decide) (by decide)] at hend
  rw [literal_iff_stands]
  simpa only [hdecodes] using stands_of_bodyEnd indent.toList ['\n', '\n'] hcloses

end DocBlock

/-- **Documentation reads back under the indentations that read back themselves**, and
so under every one without quotes and backslashes; if it has one line, under any. -/
theorem documentation_reads_back (indent : String) :
    ((∀ d : DocBlock, d.ReadsBack indent) ↔ Literal indent.toList indent.toList)
      ∧ ((∀ c ∈ indent.toList, c ≠ '"' ∧ c ≠ '\\') → ∀ d : DocBlock, d.ReadsBack indent)
      ∧ ∀ (d : DocBlock) (line : String), d.sections = [[line]] → d.ReadsBack indent := by
  refine ⟨⟨fun h => DocBlock.literal_of_readsBack (h _), fun h => ?_⟩, fun h => ?_,
    fun d line h => DocBlock.readsBack_of_sections h indent⟩
  · exact DocBlock.readsBack_of_stands (literal_iff_stands.mp h)
  · exact DocBlock.readsBack_of_stands (Stands.blanks _ h)

/-- Quotes, an empty line and a backslash are read back under four blanks. -/
theorem sample_documentation :
    (∀ c ∈ "    ".toList, c ≠ '"' ∧ c ≠ '\\')
      ∧ ({ summary := ["Quotes \"\"\"\"", "", "at the end\""], args := ["id: a \\ and \""],
           returns? := some "\"\"\"" } : DocBlock).ReadsBack "    " :=
  ⟨by simp, (documentation_reads_back "    ").2.1 (by simp) _⟩

/-- With quotes for an indentation, the second line ends the text. -/
theorem quotes_as_indentation :
    (({ summary := ["a", "b"] } : DocBlock).render "\"\"\""
        = ["\"\"\"\"\"\"a", "\"\"\"b", "\"\"\"\"\"\""])
      ∧ Quotation.end? (tripleQuote.toList ++ "a\n\"\"\"b\n\"\"\"".toList ++ tripleQuote.toList)
        = some ("a\n".toList, "b\n\"\"\"\"\"\"".toList)
      ∧ ¬ ({ summary := ["a", "b"] } : DocBlock).ReadsBack "\"\"\"" := by
  refine ⟨by decide +kernel, by decide +kernel, ?_⟩
  rw [DocBlock.readsBack_iff]
  rintro ⟨hcloses, -⟩
  revert hcloses
  decide +kernel

end Code
end ChainedSdk
