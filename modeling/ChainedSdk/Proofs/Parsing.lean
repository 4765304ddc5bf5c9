/-
# The names in a document that was read

A token that is a name has the text of a name (`Lexer.namedTokens_scan`). A reader of
tokens leaves some of the tokens for those after it, so what follows has that
property too (`Parser.Reads`), and every name in what is read is the text of such
a token. So the operations of a document that was read from a text are well named
(`Document.wellNamed_of_parse`), and so are those of all files that are loaded together
(`wellNamed_of_loadDocuments`).

Key definitions: `NamedTokens`, `Parser.Reads`.
Key theorems: `Lexer.namedTokens_scan`, `Document.wellNamed_of_parse`,
`wellNamed_of_loadDocuments`.
-/
import ChainedSdk.DocumentFiles
import ChainedSdk.GraphQL.Parser
import ChainedSdk.Proofs.Description

namespace ChainedSdk
namespace GraphQL

/-- The texts of the names among the tokens are names. -/
def NamedTokens (ts : List Token) : Prop :=
  ∀ t ∈ ts, ∀ text, t.lexeme = .name text → isName text = true

/-- The name of a field is a name. -/
def Selection.WellNamed : Selection → Prop
  | .field _ name _ _ _ => isName name = true
  | _ => True

/-! ### Tokens -/

namespace Lexer

theorem isName_takeWhile {c : Char} {cs : List Char} (hc : isNameStart c = true) :
    isName (String.ofList ((c :: cs).takeWhile isNamePart)) = true := by
  have hpart : isNamePart c = true := by simp [isNamePart, hc]
  unfold isName
  rw [String.toList_ofList, List.takeWhile_cons_of_pos hpart]
  simp only [hc, Bool.true_and, List.all_eq_true]
  exact fun d hd => List.mem_takeWhile_imp hd

theorem number_ne_name {p : Cursor} {cs rest text : List Char} {found : Lexeme}
    (h : number p cs = .ok (found, text, rest)) (name : String) : found ≠ .name name := by
  have hpick : ∀ (b : Bool) (t : String),
      (if b = true then Lexeme.int t else .float t) ≠ .name name := by
    intro b t
    cases b <;> simp
  unfold number at h
  simp only [bind, Except.bind, pure, Except.pure] at h
  split at h
  · cases h
  · split at h
    · cases h
    · split at h
      · cases h
      · split at h
        · split at h
          · cases h
          · cases h
            exact hpick _ _
        · cases h
          exact hpick _ _

theorem isName_of_lexeme {p q : Cursor} {cs rest : List Char} {text : String}
    (h : lexeme p cs = .ok (.name text, q, rest)) : isName text = true := by
  unfold lexeme at h
  simp only [bind, Except.bind, pure, Except.pure] at h
  split at h
  · cases h
  · split at h <;> cases h
  · split at h <;> cases h
  · cases h
  · cases h
  · split at h <;> cases h
  · split at h
    · cases h
    · split at h
      · split at h
        · cases h
        · rename_i found hfound
          have hname := congrArg Prod.fst (Except.ok.inj h)
          exact absurd hname (number_ne_name hfound text)
      · split at h
        · rename_i hc
          cases h
          exact isName_takeWhile hc
        · split at h <;> cases h

/-- **Names are names** in the tokens of a text. -/
theorem namedTokens_scan : ∀ (fuel : Nat) (p : Cursor) (cs : List Char), NamedTokens (scan fuel p cs)
  | 0, p, cs => by
    intro t ht text hname
    rw [scan, List.mem_singleton] at ht
    rw [ht] at hname
    cases hname
  | fuel + 1, p, [] => by
    intro t ht text hname
    rw [scan, List.mem_singleton] at ht
    · rw [ht] at hname
      cases hname
    · simp
  | fuel + 1, p, c :: cs => by
    unfold scan
    split
    · exact namedTokens_scan fuel _ _
    · split
      · exact namedTokens_scan fuel _ _
      · cases hl : lexeme p (c :: cs) with
        | error e =>
          intro t ht text hname
          rw [List.mem_singleton.mp ht] at hname
          cases hname
        | ok found =>
          obtain ⟨found, q, rest⟩ := found
          intro t ht text hname
          rcases List.mem_cons.mp ht with rfl | ht
          · simp only at hname
            rw [hname] at hl
            exact isName_of_lexeme hl
          · exact namedTokens_scan fuel _ _ t ht text hname

theorem namedTokens_tokens (s : String) : NamedTokens (tokens s) :=
  namedTokens_scan _ _ _

end Lexer

/-! ### Readers -/

namespace Parser

variable {α β : Type} {Q : α → Prop} {R : β → Prop}

/-- Among named tokens the reader reads what has the property, and leaves named
tokens. -/
def Reads (Q : α → Prop) (p : Parser α) : Prop :=
  ∀ ts, NamedTokens ts → ∀ a rest, p.run ts = .ok (a, rest) → NamedTokens rest ∧ Q a

/-- The reader leaves named tokens. -/
abbrev Leaves (p : Parser α) : Prop :=
  Reads (fun _ => True) p

theorem reads_pure {a : α} (h : Q a) : Reads Q (pure a) := by
  intro ts hts b rest hrun
  cases hrun
  exact ⟨hts, h⟩

theorem Reads.bind {p : Parser α} {f : α → Parser β} (hp : Reads Q p)
    (hf : ∀ a, Q a → Reads R (f a)) : Reads R (p >>= f) := by
  intro ts hts b rest hrun
  rw [StateT.run_bind] at hrun
  cases hfirst : p.run ts with
  | error e =>
    rw [hfirst] at hrun
    cases hrun
  | ok first =>
    rw [hfirst] at hrun
    obtain ⟨hleft, hq⟩ := hp ts hts first.1 first.2 hfirst
    exact hf first.1 hq first.2 hleft b rest hrun

theorem reads_throw {e : SyntaxError} : Reads Q (throw e : Parser α) := by
  intro ts hts b rest hrun
  cases hrun

theorem reads_failAt {t : Token} {fault : SyntaxFault} : Reads Q (failAt t fault) :=
  reads_throw

theorem Reads.mono {Q' : α → Prop} {p : Parser α} (h : Reads Q p) (hq : ∀ a, Q a → Q' a) :
    Reads Q' p := fun ts hts a rest hrun =>
  ⟨(h ts hts a rest hrun).1, hq a (h ts hts a rest hrun).2⟩

/-- What the reader reads does not matter. -/
theorem Reads.skip {p : Parser α} (h : Reads Q p) : Leaves p :=
  h.mono fun _ _ => trivial

theorem reads_ite {c : Prop} [Decidable c] {p q : Parser α} (hp : c → Reads Q p)
    (hq : ¬c → Reads Q q) : Reads Q (if c then p else q) := by
  split
  · exact hp ‹c›
  · exact hq ‹¬c›

theorem reads_get : Reads NamedTokens (get : Parser (List Token)) := by
  intro ts hts b rest hrun
  cases hrun
  exact ⟨hts, hts⟩

theorem reads_set {ts : List Token} (h : NamedTokens ts) : Leaves (set ts : Parser Unit) := by
  intro ts' _ b rest hrun
  cases hrun
  exact ⟨h, trivial⟩

theorem reads_current :
    Reads (fun t => ∀ text, t.lexeme = .name text → isName text = true) current := by
  refine reads_get.bind fun ts hts => ?_
  cases ts with
  | nil => exact reads_pure fun _ h => by cases h
  | cons t ts => exact reads_pure (hts t List.mem_cons_self)

theorem reads_checkBroken : Leaves checkBroken := by
  refine reads_current.bind fun t _ => ?_
  split
  · exact reads_throw
  · exact reads_pure trivial

theorem reads_advance : Leaves advance := by
  refine reads_get.bind fun ts hts => ?_
  split
  · exact reads_pure trivial
  · exact reads_pure trivial
  · exact (reads_set fun t ht => hts t (List.mem_cons_of_mem _ ht)).bind fun _ _ => reads_checkBroken

theorem reads_unexpected {t : Token} : Reads Q (unexpected t) :=
  reads_failAt

theorem reads_peek {m : Mark} : Leaves (peek m) :=
  reads_current.bind fun _ _ => reads_pure trivial

theorem reads_expect {m : Mark} : Leaves (expect m) :=
  reads_current.bind fun _ _ => reads_ite (fun _ => reads_advance) fun _ => reads_failAt

theorem reads_optional {m : Mark} : Leaves (optional m) :=
  reads_peek.bind fun _ _ =>
    reads_ite (fun _ => reads_advance.bind fun _ _ => reads_pure trivial) fun _ => reads_pure trivial

theorem reads_name : Reads (fun s => isName s = true) name := by
  refine reads_current.bind fun t ht => ?_
  split
  · rename_i text htext
    exact reads_advance.bind fun _ _ => reads_pure (ht text htext)
  · exact reads_failAt

theorem reads_optionalWord {w : String} : Leaves (optionalWord w) :=
  reads_current.bind fun _ _ =>
    reads_ite (fun _ => reads_advance.bind fun _ _ => reads_pure trivial) fun _ => reads_pure trivial

theorem reads_expectWord {w : String} : Leaves (expectWord w) :=
  reads_current.bind fun _ _ => reads_ite (fun _ => reads_advance) fun _ => reads_failAt

/-! ### Lists -/

section Lists

variable {item : Parser α} {opening close delimiter : Mark}

theorem reads_itemsUntil (h : Reads Q item) :
    ∀ n, Reads (fun xs => ∀ x ∈ xs, Q x) (itemsUntil close item n)
  | 0 => reads_pure fun _ hx => by cases hx
  | n + 1 => by
    refine reads_optional.bind fun _ _ => reads_ite (fun _ => ?_) fun _ => ?_
    · exact reads_pure fun _ hx => by cases hx
    · exact h.bind fun x hx => (reads_itemsUntil h n).bind fun xs hxs =>
        reads_pure (List.forall_mem_cons.mpr ⟨hx, hxs⟩)

theorem reads_items (h : Reads Q item) : Reads (fun xs => ∀ x ∈ xs, Q x) (items close item) :=
  reads_get.bind fun _ _ => reads_itemsUntil h _

theorem reads_itemsAfter (h : Reads Q item) : Reads (fun xs => ∀ x ∈ xs, Q x) (do
    let x ← item
    let xs ← items close item
    return x :: xs) :=
  h.bind fun _ hx => (reads_items h).bind fun _ hxs =>
    reads_pure (List.forall_mem_cons.mpr ⟨hx, hxs⟩)

theorem reads_many (h : Reads Q item) :
    Reads (fun xs => ∀ x ∈ xs, Q x) (many opening item close) :=
  reads_expect.bind fun _ _ => reads_itemsAfter h

theorem reads_optionalMany (h : Reads Q item) :
    Reads (fun xs => ∀ x ∈ xs, Q x) (optionalMany opening item close) :=
  reads_optional.bind fun _ _ => reads_ite (fun _ => reads_itemsAfter h) fun _ =>
    reads_pure fun _ hx => by cases hx

theorem reads_any (h : Reads Q item) : Reads (fun xs => ∀ x ∈ xs, Q x) (any opening item close) :=
  reads_expect.bind fun _ _ => reads_items h

theorem reads_furtherItems (h : Reads Q item) : ∀ n, Leaves (furtherItems delimiter item n)
  | 0 => reads_pure trivial
  | n + 1 => reads_optional.bind fun _ _ => reads_ite
    (fun _ => h.bind fun _ _ => (reads_furtherItems h n).bind fun _ _ => reads_pure trivial)
    fun _ => reads_pure trivial

theorem reads_delimited (h : Reads Q item) : Leaves (delimited delimiter item) :=
  reads_optional.bind fun _ _ => h.bind fun _ _ => reads_get.bind fun _ _ =>
    (reads_furtherItems h _).bind fun _ _ => reads_pure trivial

end Lists

theorem reads_itemBound : Leaves itemBound :=
  reads_get.bind fun _ _ => reads_pure trivial

/-! ### Types and values -/

theorem reads_tooDeep : Reads Q tooDeep :=
  reads_current.bind fun _ _ => reads_failAt

theorem reads_typeRef (room : Nat) : Leaves (typeRef room) := by
  unfold typeRef
  refine Reads.bind (Q := fun _ => True)
    (reads_peek.bind fun _ _ => reads_ite (fun _ => ?_) fun _ => ?_) fun inner _ => ?_
  · cases room with
    | zero => exact reads_tooDeep
    | succ room =>
      exact reads_advance.bind fun _ _ => (reads_typeRef room).bind fun _ _ =>
        reads_expect.bind fun _ _ => reads_pure trivial
  · exact reads_name.bind fun _ _ => reads_pure trivial
  · exact reads_optional.bind fun _ _ => reads_ite (fun _ => reads_pure trivial) fun _ =>
      reads_pure trivial
termination_by room

theorem reads_value (constant : Bool) (room : Nat) : Leaves (value constant room) := by
  have htaken : ∀ v : Value, Leaves (do advance; return v) := fun _ =>
    reads_advance.bind fun _ _ => reads_pure trivial
  unfold value
  refine reads_current.bind fun t _ => ?_
  split
  · cases room with
    | zero => exact reads_tooDeep
    | succ room => exact (reads_any (reads_value constant room)).bind fun _ _ => reads_pure trivial
  · cases room with
    | zero => exact reads_tooDeep
    | succ room =>
      refine (reads_any (Q := fun _ => True) ?_).bind fun _ _ => reads_pure trivial
      exact reads_name.bind fun _ _ => reads_expect.bind fun _ _ =>
        (reads_value constant room).bind fun _ _ => reads_pure trivial
  · refine reads_advance.bind fun _ _ => reads_ite (fun _ => ?_) fun _ => ?_
    · refine reads_current.bind fun u _ => ?_
      split
      · exact reads_failAt
      · exact reads_unexpected
    · exact reads_name.bind fun _ _ => reads_pure trivial
  · exact htaken _
  · exact htaken _
  · exact htaken _
  · exact htaken _
  · exact htaken _
  · exact reads_unexpected
termination_by room

theorem reads_default : Leaves default? :=
  reads_optional.bind fun _ _ => reads_ite
    (fun _ => (reads_value _ _).bind fun _ _ => reads_pure trivial) fun _ => reads_pure trivial

theorem reads_argument {constant : Bool} {room : Nat} : Leaves (argument constant room) :=
  reads_name.bind fun _ _ => reads_expect.bind fun _ _ => (reads_value _ _).bind fun _ _ =>
    reads_pure trivial

theorem reads_arguments {constant : Bool} {room : Nat} : Leaves (arguments constant room) :=
  (reads_optionalMany reads_argument).skip

theorem reads_directivesUpTo {constant : Bool} {room : Nat} :
    ∀ n, Leaves (directivesUpTo constant room n)
  | 0 => reads_pure trivial
  | n + 1 => reads_optional.bind fun _ _ => reads_ite
    (fun _ => reads_name.bind fun _ _ => reads_arguments.bind fun _ _ =>
      (reads_directivesUpTo n).bind fun _ _ => reads_pure trivial)
    fun _ => reads_pure trivial

theorem reads_directivesIn {constant : Bool} {room : Nat} : Leaves (directivesIn constant room) :=
  reads_itemBound.bind fun _ _ => reads_directivesUpTo _

theorem reads_directives {constant : Bool} : Leaves (directives constant) :=
  reads_directivesIn

/-! ### Operations and fragments -/

theorem reads_fragmentName : Leaves fragmentName :=
  reads_current.bind fun _ _ => reads_ite (fun _ => reads_unexpected) fun _ => reads_name.skip

theorem reads_selectionOf {nested : Parser (List Selection)} (hnested : Leaves nested)
    (room : Nat) : Reads Selection.WellNamed (selectionOf nested room) := by
  unfold selectionOf
  refine reads_optional.bind fun _ _ => reads_ite (fun _ => ?_) fun _ => ?_
  · refine reads_optionalWord.bind fun _ _ => reads_ite (fun _ => ?_) fun _ => ?_
    · exact reads_name.bind fun _ _ => reads_directivesIn.bind fun _ _ => hnested.bind fun _ _ =>
        reads_pure trivial
    · refine reads_current.bind fun _ _ => ?_
      split
      · exact reads_fragmentName.bind fun _ _ => reads_directivesIn.bind fun _ _ => reads_pure trivial
      · exact reads_directivesIn.bind fun _ _ => hnested.bind fun _ _ => reads_pure trivial
  · -- `andThen` is what follows the name of the field, which is the second name if there
    -- is an alias
    refine reads_name.bind fun first hfirst => reads_optional.bind fun _ _ => ?_
    extract_lets andThen
    have hthen : ∀ field, isName field = true → Reads Selection.WellNamed (andThen field) :=
      fun field hfield => reads_arguments.bind fun _ _ => reads_directivesIn.bind fun _ _ =>
        reads_peek.bind fun _ _ => reads_ite
          (fun _ => hnested.bind fun _ _ => reads_pure hfield)
          fun _ => reads_pure hfield
    exact reads_ite (fun _ => reads_name.bind hthen) fun _ => hthen first hfirst

theorem reads_noSelections : Leaves noSelections :=
  reads_peek.bind fun _ _ => reads_ite (fun _ => reads_tooDeep) fun _ =>
    reads_expect.bind fun _ _ => reads_pure trivial

theorem reads_selection : ∀ room, Reads Selection.WellNamed (selection room)
  | 0 => reads_selectionOf reads_noSelections 0
  | room + 1 => reads_selectionOf (reads_many (reads_selection room)).skip (room + 1)

theorem reads_selectionSet : Reads (fun xs => ∀ x ∈ xs, Selection.WellNamed x) selectionSet :=
  reads_many (reads_selection _)

theorem reads_variableDefinition :
    Reads (fun v : VariableDefinition => isName v.name = true) variableDefinition :=
  reads_expect.bind fun _ _ => reads_name.bind fun _ hname => reads_expect.bind fun _ _ =>
    (reads_typeRef _).bind fun _ _ => reads_default.bind fun _ _ =>
      reads_directives.bind fun _ _ => reads_pure hname

theorem wellNamed_of_selections {kind : OperationKind} {name? : Option String}
    {declared : List VariableDefinition} {ds : List Directive} {selections : List Selection}
    (hname : ∀ s ∈ name?, isName s = true) (hdeclared : ∀ v ∈ declared, isName v.name = true)
    (hselections : ∀ s ∈ selections, Selection.WellNamed s) :
    Operation.WellNamed ⟨kind, name?, declared, ds, selections⟩ := by
  refine ⟨hname, fun s hs => ?_, hdeclared⟩
  obtain ⟨x, hx, hfield⟩ := List.exists_of_findSome?_eq_some hs
  have hwell := hselections x hx
  cases x with
  | field _ name _ _ _ =>
    cases hfield
    exact hwell
  | spread _ _ => cases hfield
  | inline _ _ _ => cases hfield

theorem reads_operationRest {kind : OperationKind} :
    Reads Operation.WellNamed (operationRest kind) := by
  refine Reads.bind (Q := fun name? : Option String => ∀ s ∈ name?, isName s = true) ?_
    fun name? hname => ?_
  · refine reads_current.bind fun t ht => ?_
    split
    · rename_i text htext
      refine reads_advance.bind fun _ _ => reads_pure fun s hs => ?_
      cases hs
      exact ht text htext
    · exact reads_pure fun _ hs => by cases hs
  · exact (reads_optionalMany reads_variableDefinition).bind fun _ hdeclared =>
      reads_directives.bind fun _ _ => reads_selectionSet.bind fun _ hselections =>
        reads_pure (wellNamed_of_selections hname hdeclared hselections)

theorem reads_fragmentRest : Leaves fragmentRest :=
  reads_fragmentName.bind fun _ _ => reads_expectWord.bind fun _ _ => reads_name.bind fun _ _ =>
    reads_directives.bind fun _ _ => reads_selectionSet.bind fun _ _ => reads_pure trivial

/-! ### Type systems -/

theorem reads_description : Leaves description? := by
  refine reads_current.bind fun _ _ => ?_
  split
  · exact reads_advance.bind fun _ _ => reads_pure trivial
  · exact reads_advance.bind fun _ _ => reads_pure trivial
  · exact reads_pure trivial

theorem reads_inputValue : Leaves inputValue :=
  reads_description.bind fun _ _ => reads_name.bind fun _ _ => reads_expect.bind fun _ _ =>
    (reads_typeRef _).bind fun _ _ => reads_default.bind fun _ _ =>
      reads_directives.bind fun _ _ => reads_pure trivial

theorem reads_fieldDefinition : Leaves fieldDefinition :=
  reads_description.bind fun _ _ => reads_name.bind fun _ _ =>
    (reads_optionalMany reads_inputValue).bind fun _ _ => reads_expect.bind fun _ _ =>
      (reads_typeRef _).bind fun _ _ => reads_directives.bind fun _ _ => reads_pure trivial

theorem reads_enumValue : Leaves enumValue := by
  refine reads_description.bind fun _ _ => reads_current.bind fun _ _ => ?_
  split
  · exact reads_failAt
  · exact reads_failAt
  · exact reads_failAt
  · exact reads_name.bind fun _ _ => reads_directives.bind fun _ _ => reads_pure trivial

theorem reads_operationType : Leaves operationType := by
  refine reads_current.bind fun _ _ => reads_name.bind fun _ _ => ?_
  split
  · exact reads_unexpected
  · exact reads_expect.bind fun _ _ => reads_name.bind fun _ _ => reads_pure trivial

theorem reads_interfaces : Leaves interfaces :=
  reads_optionalWord.bind fun _ _ => reads_ite (fun _ => reads_delimited reads_name) fun _ =>
    reads_pure trivial

theorem reads_directiveLocation : Leaves directiveLocation :=
  reads_current.bind fun _ _ => reads_name.bind fun _ _ => reads_ite (fun _ => reads_pure trivial)
    fun _ => reads_unexpected

theorem reads_systemRest {description : Option Description} {word : String} :
    Leaves (systemRest description word) := by
  unfold systemRest
  split
  · exact reads_directives.bind fun _ _ => (reads_many reads_operationType).bind fun _ _ =>
      reads_pure trivial
  · exact reads_expect.bind fun _ _ => reads_name.bind fun _ _ =>
      (reads_optionalMany reads_inputValue).bind fun _ _ => reads_optionalWord.bind fun _ _ =>
        reads_expectWord.bind fun _ _ => (reads_delimited reads_directiveLocation).bind fun _ _ =>
          reads_pure trivial
  · refine reads_name.bind fun key _ => ?_
    extract_lets andThen
    have hthen : ∀ implemented, Leaves (andThen implemented) := by
      intro implemented
      refine reads_directives.bind fun _ _ => Reads.bind (Q := fun _ => True) ?_ fun _ _ =>
        reads_pure trivial
      split
      · exact reads_pure trivial
      · exact (reads_optionalMany reads_fieldDefinition).bind fun _ _ => reads_pure trivial
      · exact (reads_optionalMany reads_fieldDefinition).bind fun _ _ => reads_pure trivial
      · exact reads_optional.bind fun _ _ => reads_ite
          (fun _ => (reads_delimited reads_name).bind fun _ _ => reads_pure trivial)
          fun _ => reads_pure trivial
      · exact (reads_optionalMany reads_enumValue).bind fun _ _ => reads_pure trivial
      · exact (reads_optionalMany reads_inputValue).bind fun _ _ => reads_pure trivial
    exact reads_ite (fun _ => reads_interfaces.bind fun _ _ => hthen _) fun _ => hthen _

theorem reads_extensionRest : Leaves extensionRest := by
  refine reads_current.bind fun _ _ => ?_
  split
  · refine reads_ite (fun _ => reads_advance.bind fun _ _ => ?_) fun _ => reads_unexpected
    -- both ways of reading the definition go on with the question whether it says something
    extract_lets andThen
    have hthen : ∀ d, Leaves (andThen d) := fun _ =>
      reads_ite (fun _ => reads_pure trivial) fun _ => reads_current.bind fun _ _ => reads_unexpected
    exact reads_ite
      (fun _ => reads_directives.bind fun _ _ => (reads_optionalMany reads_operationType).bind
        fun _ _ => hthen _)
      fun _ => reads_systemRest.bind fun _ _ => hthen _
  · exact reads_unexpected

/-! ### Documents -/

theorem reads_lookahead : Leaves lookahead := by
  refine reads_get.bind fun _ _ => ?_
  split
  · split
    · exact reads_throw
    · exact reads_pure trivial
  · exact reads_current.skip

/-- The definition is no operation, or a well named one. -/
def WellNamedOperation (d : Definition) : Prop :=
  ∀ o, d = .operation o → o.WellNamed

theorem reads_definition : Reads WellNamedOperation definition := by
  have hsystem : ∀ {p : Parser SystemDefinition}, Leaves p →
      Reads WellNamedOperation (do return .system (← p)) := fun hp =>
    hp.bind fun _ _ => reads_pure fun _ h => by cases h
  refine reads_current.bind fun t _ => ?_
  split
  · refine reads_selectionSet.bind fun _ hselections => reads_pure fun o ho => ?_
    cases ho
    exact wellNamed_of_selections (fun _ h => by cases h) (fun _ h => by cases h) hselections
  · refine reads_lookahead.bind fun next _ => ?_
    split
    · exact reads_ite
        (fun _ => reads_description.bind fun _ _ => reads_advance.bind fun _ _ =>
          hsystem reads_systemRest)
        fun _ => reads_failAt
    · exact reads_unexpected
  · refine reads_lookahead.bind fun next _ => ?_
    split
    · exact reads_ite
        (fun _ => reads_description.bind fun _ _ => reads_advance.bind fun _ _ =>
          hsystem reads_systemRest)
        fun _ => reads_failAt
    · exact reads_unexpected
  · refine reads_ite (fun _ => reads_advance.bind fun _ _ => hsystem reads_systemRest) fun _ => ?_
    split
    · refine reads_advance.bind fun _ _ => reads_operationRest.bind fun _ hwell =>
        reads_pure fun o ho => ?_
      cases ho
      exact hwell
    · refine reads_ite (fun _ => reads_advance.bind fun _ _ => reads_fragmentRest.bind fun _ _ =>
        reads_pure fun _ h => by cases h) fun _ => ?_
      refine reads_ite (fun _ => reads_lookahead.bind fun _ _ => ?_) fun _ => reads_unexpected
      split
      · exact reads_advance.bind fun _ _ => hsystem reads_extensionRest
      · exact reads_unexpected
  · exact reads_unexpected

theorem reads_definitionsUpTo :
    ∀ n, Reads (fun ds => ∀ d ∈ ds, WellNamedOperation d) (definitionsUpTo n)
  | 0 => reads_pure fun _ hd => by cases hd
  | n + 1 => by
    refine reads_current.bind fun _ _ => reads_ite (fun _ => ?_) fun _ => ?_
    · exact reads_pure fun _ hd => by cases hd
    · exact reads_definition.bind fun d hd => (reads_definitionsUpTo n).bind fun ds hds =>
        reads_pure (List.forall_mem_cons.mpr ⟨hd, hds⟩)

theorem reads_document : Reads Document.WellNamed document := by
  refine reads_checkBroken.bind fun _ _ => reads_definition.bind fun d hd =>
    reads_itemBound.bind fun _ _ => (reads_definitionsUpTo _).bind fun ds hds => reads_pure ?_
  intro o ho
  obtain ⟨e, he, heo⟩ := List.mem_filterMap.mp ho
  have hwell := List.forall_mem_cons.mpr ⟨hd, hds⟩ e he
  cases e <;> cases heo
  exact hwell _ rfl

end Parser

/-- **Names of a document.** The operations of a document that was read from a text
are well named. -/
theorem Document.wellNamed_of_parse {s : String} {d : Document} (h : Document.parse s = .ok d) :
    d.WellNamed := by
  unfold Document.parse at h
  cases hrun : Parser.document.run (tokens s) with
  | error e =>
    rw [hrun] at h
    cases h
  | ok found =>
    rw [hrun] at h
    cases h
    exact (Parser.reads_document _ (Lexer.namedTokens_tokens s) found.1 found.2 hrun).2

theorem Document.WellNamed.concat {d e : Document} (hd : d.WellNamed) (he : e.WellNamed) :
    (Document.concat [d, e]).WellNamed := by
  have hoperations : (Document.concat [d, e]).operations = d.operations ++ e.operations := by
    simp [Document.concat, Document.operations]
  intro o ho
  rw [hoperations] at ho
  rcases List.mem_append.mp ho with ho | ho
  exacts [hd o ho, he o ho]

end GraphQL

/-! ### Files -/

theorem wellNamed_of_readSources {d : GraphQL.Document} : ∀ {files : List SourceFile}
    {done : Loading}, (∀ e, done.outcome = .ok e → e.WellNamed) →
      (readSources done files).outcome = .ok d → d.WellNamed
  | [], _, hdone, h => hdone d h
  | f :: files, done, hdone, h => by
    unfold readSources at h
    cases hbefore : done.outcome with
    | error fault =>
      simp only [hbefore] at h
      cases h
    | ok before =>
      cases hmore : GraphQL.Document.parse f.content with
      | error fault =>
        simp only [hbefore, hmore] at h
        cases h
      | ok more =>
        simp only [hbefore, hmore] at h
        refine wellNamed_of_readSources (fun e he => ?_) h
        cases he
        exact (hdone before hbefore).concat (GraphQL.Document.wellNamed_of_parse hmore)

/-- **Names of loaded documents.** The operations of documents that were loaded are well
named. -/
theorem wellNamed_of_loadDocuments {files : List SourceFile} {d : GraphQL.Document}
    (h : (loadDocuments files).outcome = .ok d) : d.WellNamed := by
  refine wellNamed_of_readSources (fun e he => ?_) h
  cases he
  exact fun o ho => nomatch ho

end ChainedSdk
