/-
# The name of the SDK in the docstring of the module

The name of the SDK is written in the documentation of functions and methods, where it is
escaped, and as it is in the docstring on top of the module. For two names the APIs are
the same without documentation (`buildApis_renamed`), and so is what they declare
(`Generator.build_renamed`): below the docstring, two modules are made of the same
pieces, but for what the documentations of their declarations say
(`Declared.bare_statements`). The docstring itself ends at the quotes that are meant to
end it exactly if no three quotes end it in the name (`SdkModule.end_documented_iff`); a
name that was escaped would never end it (`Code.staysOpen_docLine`). Where it ends in the
name, what follows there is code (`Generator.code_in_name`).

Key definitions: `ScopedApi.bare`, `Generator.renamed`, `Code.StaysOpen`,
`SdkModule.documented`, `Declared.statements`.
Key theorems: `buildApis_renamed`, `SdkModule.end_documented_iff`,
`Declared.blocks_statements`, `Generator.docstring_closed_iff`.
-/
import ChainedSdk.Proofs.History
import ChainedSdk.Proofs.Undocumented

namespace ChainedSdk

open Code (Statement FunctionDef ClassDecl DocBlock bareBody_eq_map bareMethods bareMethods_eq_map)

/-! ### Another name -/

/-- The configuration with another name of the SDK. -/
def Config.renamed (c : Config) (name : String) : Config :=
  { c with sdkName := name }

namespace Conventions

/-- The conventions with another name of the SDK. -/
def renamed (s : Conventions) (name : String) : Conventions :=
  { s with config := s.config.renamed name }

variable (s : Conventions) (n : String)

theorem operationArgs_renamed (o : SdkOperation) :
    (s.renamed n).operationArgs o = s.operationArgs o :=
  s.operationArgs_varied n s.scalars.used o

/-- A method is the same without its documentation. -/
theorem method_renamed (o : SdkOperation) (name : String) :
    FunctionDef.bare <$> (s.renamed n).method o name = FunctionDef.bare <$> s.method o name := by
  unfold method
  rw [operationArgs_renamed]
  simp only [map_bind, map_pure]
  rfl

end Conventions

/-- An API without what its documentations say. -/
def ScopedApi.bare (a : ScopedApi) : ScopedApi :=
  { a with function := a.function.bare, protocol := a.protocol.bare }

namespace Scope

/-- A method of an API without what its documentation says. -/
def Member.bare (m : Member) : Member :=
  { m with function := m.function.bare }

/-- The scope with another name of the SDK. -/
def renamed (s : Scope) (n : String) : Scope :=
  { s with conventions := s.conventions.renamed n }

theorem members_renamed (s : Scope) (n : String) (names : List String) :
    ∀ (taken : List (String × SdkOperation)) (os : List SdkOperation),
      List.map Member.bare <$> (s.renamed n).members names taken os =
        List.map Member.bare <$> s.members names taken os
  | _, [] => rfl
  | taken, o :: os => by
    have hmethod := s.conventions.method_renamed n o (innerName names (methodName o))
    have ih := members_renamed s n names (taken ++ [(methodName o, o)]) os
    unfold members
    simp only
    cases Assoc.get? (methodName o) taken with
    | some other => rfl
    | none =>
      simp only [map_bind, map_pure, List.map_cons, Member.bare]
      refine (Emit.bind_bind_pure _ _ FunctionDef.bare (List.map Member.bare)
        fun f more => (⟨methodName o, o, f⟩ : Member) :: more).trans ?_
      refine Eq.trans ?_ (Emit.bind_bind_pure _ _ FunctionDef.bare (List.map Member.bare)
        fun f more => (⟨methodName o, o, f⟩ : Member) :: more).symm
      rw [← ih, ← hmethod]
      rfl

theorem Member.stub_bare (m : Member) : m.bare.stub = m.stub.bare := by
  obtain ⟨name, o, ⟨signature, body⟩⟩ := m
  rfl

theorem Member.entry_bare (m : Member) : m.bare.entry = m.entry := by
  obtain ⟨name, o, ⟨signature, body⟩⟩ := m
  rfl

/-- The API of a scope that says nothing, with members that say nothing. -/
def bareApi (s : Scope) (args : ArgList) (ms : List Member) : ScopedApi where
  key? := s.key?
  functionName := s.functionName
  typeName := s.typeName
  operations := s.operations
  function := ⟨(s.apiFunction args ms).signature.bare, (s.apiFunction args ms).body⟩
  protocol := { s.apiProtocol ms with doc? := some {} }

/-- Without documentation, the API of members is that of the members without theirs. -/
theorem bare_api (s : Scope) (args : ArgList) (ms : List Member) :
    ScopedApi.bare ⟨s.key?, s.functionName, s.typeName, s.operations, s.apiFunction args ms,
      s.apiProtocol ms⟩ = s.bareApi args (ms.map Member.bare) := by
  have hentries : (ms.map Member.bare).map Member.entry = ms.map Member.entry := by
    rw [List.map_map]
    exact List.map_congr_left fun m _ => m.entry_bare
  have hfunctions : (ms.map fun m => Statement.function m.function).map Statement.bare =
      (ms.map Member.bare).map fun m => Statement.function m.function := by
    rw [List.map_map, List.map_map]
    rfl
  have hstubs : bareMethods (ms.map Member.stub) = (ms.map Member.bare).map Member.stub := by
    rw [bareMethods_eq_map, List.map_map, List.map_map]
    exact List.map_congr_left fun m _ => m.stub_bare.symm
  unfold bareApi ScopedApi.bare apiFunction apiProtocol
  rw [FunctionDef.bare, ClassDecl.bare, bareBody_eq_map, List.map_append, hentries, hfunctions,
    hstubs]
  rfl

theorem build_renamed (s : Scope) (n : String) :
    ScopedApi.bare <$> (s.renamed n).build = ScopedApi.bare <$> s.build := by
  have hbuild : ∀ s : Scope, ScopedApi.bare <$> s.build = (do
      Emit.tell [scopeLog s.key? ("operations " ++ toString s.operations.length)]
      let args ← s.args
      s.bareApi args <$> List.map Member.bare <$> s.members args.names [] s.operations) := by
    intro s
    unfold build
    simp only [map_bind, map_pure, bare_api]
    simp only [map_eq_pure_bind, bind_assoc, pure_bind]
  rw [hbuild, hbuild]
  simp only [members_renamed]
  rfl

end Scope

/-! ### APIs -/

theorem buildApi_renamed (s : Conventions) (n : String) (os : List SdkOperation)
    (key? : Option String) :
    ScopedApi.bare <$> buildApi (s.renamed n) os key? = ScopedApi.bare <$> buildApi s os key? := by
  have hscope : ∀ functionName typeName,
      ScopedApi.bare <$> (Scope.visitAll ⟨s.renamed n, key?, functionName, typeName, []⟩ os).build =
        ScopedApi.bare <$> (Scope.visitAll ⟨s, key?, functionName, typeName, []⟩ os).build := by
    intro functionName typeName
    rw [Scope.visitAll_eq, Scope.visitAll_eq]
    exact Scope.build_renamed ⟨s, key?, functionName, typeName, os.filter (Scope.accepts key?)⟩ n
  unfold buildApi Scope.empty
  simp only [bind_assoc, pure_bind, map_bind, hscope]
  rfl

/-- **Another name of the SDK** changes nothing but documentations in the APIs, and
nothing in what is left behind. -/
theorem buildApis_renamed (s : Conventions) (n : String) (os : List SdkOperation) :
    List.map ScopedApi.bare <$> buildApis (s.renamed n) os =
      List.map ScopedApi.bare <$> buildApis s os := by
  unfold buildApis
  rw [Emit.map_mapM, Emit.map_mapM]
  simp only [buildApi_renamed]

/-! ### The end of a text in three quotes -/

namespace Code

variable {c : Char} {cs more a b seen : List Char} {escaped : Bool}

/-- Reading goes on behind `cs`: no three quotes in it end the text it stands in. -/
def StaysOpen (cs : List Char) : Prop :=
  Quotation.bodyEnd? true '"' false [] cs = none

instance (cs : List Char) : Decidable (StaysOpen cs) :=
  decidable_of_iff ((Quotation.bodyEnd? true '"' false [] cs).isNone = true) Option.isNone_iff_eq_none

theorem bodyEnd_cons : Quotation.bodyEnd? true '"' escaped seen (c :: cs) =
    if escaped then Quotation.bodyEnd? true '"' false (c :: seen) cs
    else if c = '\\' then Quotation.bodyEnd? true '"' true (c :: seen) cs
    else if c = '"' ∧ ['"', '"'] <+: cs then some (seen.reverse, cs.drop 2)
    else Quotation.bodyEnd? true '"' false (c :: seen) cs := by
  rw [Quotation.bodyEnd?]
  simp [List.isPrefixOf_iff_prefix]

/-- What was read before is kept, and changes nothing else. -/
theorem bodyEnd_seen (before : List Char) : ∀ (cs : List Char) (escaped : Bool) (seen : List Char),
    Quotation.bodyEnd? true '"' escaped (seen ++ before) cs =
      (Quotation.bodyEnd? true '"' escaped seen cs).map fun p => (before.reverse ++ p.1, p.2)
  | [], _, _ => rfl
  | c :: cs, escaped, seen => by
    have ih : ∀ e, Quotation.bodyEnd? true '"' e (c :: (seen ++ before)) cs = _ :=
      fun e => bodyEnd_seen before cs e (c :: seen)
    rw [bodyEnd_cons, bodyEnd_cons, ih, ih]
    split_ifs
    · rfl
    · rfl
    · simp
    · rfl

/-- What three quotes end stands before them, and what follows behind them. -/
theorem bodyEnd_eq_some : ∀ {cs : List Char} {escaped : Bool} {seen : List Char},
    Quotation.bodyEnd? true '"' escaped seen cs = some (a, b) →
      seen.reverse ++ cs = a ++ tripleQuote.toList ++ b
  | [], _, _, h => nomatch h
  | c :: cs, escaped, seen, h => by
    have ih : ∀ e, Quotation.bodyEnd? true '"' e (c :: seen) cs = some (a, b) →
        seen.reverse ++ c :: cs = a ++ tripleQuote.toList ++ b := by
      intro e he
      rw [← bodyEnd_eq_some he, List.reverse_cons, List.append_assoc, List.singleton_append]
    rw [bodyEnd_cons] at h
    split_ifs at h with _ _ hthree
    · exact ih _ h
    · exact ih _ h
    · obtain ⟨rfl, cs, rfl⟩ := hthree
      obtain ⟨rfl, rfl⟩ := Prod.mk.inj (Option.some.inj h)
      simp [tripleQuote]
    · exact ih _ h

/-- A text that ends stays ended, whatever follows. -/
theorem bodyEnd_append_of_some : ∀ {cs : List Char} {escaped : Bool} {seen : List Char},
    Quotation.bodyEnd? true '"' escaped seen cs = some (a, b) →
      Quotation.bodyEnd? true '"' escaped seen (cs ++ more) = some (a, b ++ more)
  | [], _, _, h => nomatch h
  | c :: cs, escaped, seen, h => by
    rw [bodyEnd_cons] at h
    rw [List.cons_append, bodyEnd_cons]
    split_ifs at h ⊢ with _ _ hmore hthree hthree
    · exact bodyEnd_append_of_some h
    · exact bodyEnd_append_of_some h
    · obtain ⟨rfl, cs, rfl⟩ := hthree
      obtain ⟨rfl, rfl⟩ := Prod.mk.inj (Option.some.inj h)
      rfl
    · -- what is completed to three quotes only by `more` ends nothing before it
      match cs, h with
      | [], h => cases h
      | [d], h => simp [Quotation.bodyEnd?] at h
      | d :: e :: cs, h => exact absurd ⟨hmore.1, by simpa using hmore.2⟩ hthree
    · exact absurd ⟨hthree.1, hthree.2.trans (List.prefix_append cs more)⟩ hmore
    · exact bodyEnd_append_of_some h

/-- Behind a text that stays open, and a character that is neither a quote nor a
backslash, no quote of the text counts. -/
theorem bodyEnd_append_of_none (hquote : c ≠ '"') (hback : c ≠ '\\') :
    ∀ {cs : List Char} {escaped : Bool} {seen : List Char},
    Quotation.bodyEnd? true '"' escaped seen cs = none →
      Quotation.bodyEnd? true '"' escaped seen (cs ++ c :: more) =
        Quotation.bodyEnd? true '"' false (c :: (cs.reverse ++ seen)) more
  | [], escaped, seen, _ => by
    have hends : ¬(c = '"' ∧ ['"', '"'] <+: more) := fun h => hquote h.1
    rw [List.nil_append, bodyEnd_cons, if_neg hends, if_neg hback, ite_self]
    rfl
  | d :: cs, escaped, seen, h => by
    have ih : ∀ e, Quotation.bodyEnd? true '"' e (d :: seen) cs = none →
        Quotation.bodyEnd? true '"' e (d :: seen) (cs ++ c :: more) =
          Quotation.bodyEnd? true '"' false (c :: ((d :: cs).reverse ++ seen)) more := by
      intro e he
      rw [bodyEnd_append_of_none hquote hback he, List.reverse_cons, List.append_assoc,
        List.singleton_append]
    rw [bodyEnd_cons] at h
    rw [List.cons_append, bodyEnd_cons]
    split_ifs at h ⊢ with _ _ hmore hthree
    · exact ih _ h
    · exact ih _ h
    · match cs, hmore.2 with
      | [], hprefix => exact absurd (List.cons_prefix_cons.mp hprefix).1.symm hquote
      | [e], hprefix =>
        have hprefix := (List.cons_prefix_cons.mp hprefix).2
        exact absurd (List.cons_prefix_cons.mp hprefix).1.symm hquote
      | e :: f :: cs, hprefix => exact absurd ⟨hmore.1, by simpa using hprefix⟩ hthree
    · exact ih _ h

theorem staysOpen_of_not_infix (h : ¬tripleQuote.toList <:+: cs) : StaysOpen cs := by
  unfold StaysOpen
  cases hend : Quotation.bodyEnd? true '"' false [] cs with
  | none => rfl
  | some p => exact absurd ⟨p.1, p.2, (bodyEnd_eq_some hend).symm⟩ h

/-- A line of a documentation stays open, whatever it shows. -/
theorem staysOpen_docLine (s : String) : StaysOpen (docLine s).toList := by
  have h := (stands_docLine s).passes [] []
  rw [List.append_nil] at h
  exact h

end Code

/-! ### The docstring of a module -/

namespace SdkModule

open Code (Quotation.bodyEnd? Quotation.end? StaysOpen tripleQuote)

/-- What the docstring says after the name of the SDK and a blank. -/
def closing : String :=
  "sdk.\n\nGenerated by gql-sdkgen, do not edit.\n"

/-- What the docstring of a module says, for the name of an SDK. -/
def docstringBody (name : String) : String :=
  "Auto-generated " ++ name ++ " " ++ closing

/-- A module that starts with its docstring. -/
def documented (name rest : String) : String :=
  tripleQuote ++ docstringBody name ++ tripleQuote ++ rest

/-- What stands below the docstring, above the declarations. -/
def below (c : Config) (scalarImports : List String) : String :=
  "\n\nfrom __future__ import annotations\n\n"
    ++ line ("from typing import " ++ Text.joinWith ", " typingNames)
    ++ Text.joinWith "" (scalarImports.map line)
    ++ "\n"
    ++ namesImport c.runtimeModule c.runtimeNames
    ++ documentsImport c
    ++ typesImport c

theorem head_eq_documented (c : Config) (scalarImports : List String) (rest : String) :
    head c scalarImports ++ rest = documented c.sdkName (below c scalarImports ++ rest) := by
  have hopen : "\"\"\"Auto-generated " = tripleQuote ++ "Auto-generated " := rfl
  have hclose : " sdk.\n\nGenerated by gql-sdkgen, do not edit.\n\"\"\"\n" =
      " " ++ closing ++ tripleQuote ++ "\n" := rfl
  have hblank : "\n\nfrom __future__ import annotations\n\n" =
      "\n" ++ "\nfrom __future__ import annotations\n\n" := rfl
  unfold head opening docstring documented docstringBody below
  rw [hopen, hclose, hblank]
  simp only [String.append_assoc]

theorem toList_docstringBody (name : String) : (docstringBody name).toList =
    "Auto-generated ".toList ++ (name.toList ++ ' ' :: closing.toList) := by
  have hblank : " ".toList = [' '] := rfl
  unfold docstringBody
  rw [String.toList_append, String.toList_append, String.toList_append, hblank]
  simp only [List.append_assoc, List.singleton_append]

/-- What stands in the docstring before the name is read over. -/
theorem end_documented (name rest : String) :
    Quotation.end? (documented name rest).toList =
      Quotation.bodyEnd? true '"' false "Auto-generated ".toList.reverse
        (name.toList ++ ' ' :: (closing.toList ++ (tripleQuote.toList ++ rest.toList))) := by
  have hthree : ∀ cs : List Char, Quotation.end? (tripleQuote.toList ++ cs) =
      Quotation.bodyEnd? true '"' false [] cs := fun _ => rfl
  have hbefore : Code.Stands "Auto-generated ".toList "Auto-generated ".toList :=
    .of_all (by decide +kernel)
  unfold documented
  rw [String.toList_append, String.toList_append, String.toList_append, toList_docstringBody]
  simp only [List.append_assoc]
  rw [hthree, hbefore.passes]
  simp only [List.cons_append, List.append_nil]

/-- A name in which the docstring ends: what follows in the name is code. -/
theorem end_documented_of_some {name : String} {a b : List Char}
    (h : Quotation.bodyEnd? true '"' false [] name.toList = some (a, b)) (rest : String) :
    Quotation.end? (documented name rest).toList = some ("Auto-generated ".toList ++ a,
      b ++ ' ' :: (closing.toList ++ (tripleQuote.toList ++ rest.toList))) := by
  have hseen := Code.bodyEnd_seen "Auto-generated ".toList.reverse name.toList false []
  rw [h, List.nil_append, Option.map_some, List.reverse_reverse] at hseen
  rw [end_documented, Code.bodyEnd_append_of_some hseen]

/-- **The docstring of a module ends at the quotes that are meant to end it** exactly if
no three quotes end it in the name. -/
theorem end_documented_iff (name rest : String) :
    Quotation.end? (documented name rest).toList = some ((docstringBody name).toList, rest.toList) ↔
      StaysOpen name.toList := by
  unfold StaysOpen
  cases hend : Quotation.bodyEnd? true '"' false [] name.toList with
  | some p =>
    rw [end_documented_of_some hend]
    refine iff_of_false (fun h => ?_) nofun
    have hlength := congrArg List.length (Prod.mk.inj (Option.some.inj h)).2
    simp only [List.length_append, List.length_cons] at hlength
    omega
  | none =>
    refine iff_of_true ?_ rfl
    have hseen := Code.bodyEnd_seen "Auto-generated ".toList.reverse name.toList false []
    rw [hend, List.nil_append, Option.map_none] at hseen
    have hafter : Code.Stands closing.toList closing.toList := .of_all (by decide +kernel)
    have hthree : tripleQuote.toList ++ rest.toList = '"' :: ('"' :: '"' :: rest.toList) := rfl
    rw [end_documented, Code.bodyEnd_append_of_none (by decide) (by decide) hseen, hafter.passes,
      hthree, Code.bodyEnd_three rfl, toList_docstringBody]
    simp only [List.reverse_append, List.reverse_cons, List.reverse_reverse, List.append_assoc,
      List.singleton_append]
    rfl

end SdkModule

namespace Generator

variable {g : Generator} {os : List SdkOperation} {apis : List ScopedApi}

/-- The generator with another name of the SDK. -/
def renamed (g : Generator) (n : String) : Generator :=
  { g with config := g.config.renamed n }

/-- Under another name the APIs can be built as well, and the same is declared. -/
theorem build_renamed (h : (g.build os).1 = .ok apis) (n : String) :
    (∃ apis', ((g.renamed n).build os).1 = .ok apis' ∧
      apis'.map ScopedApi.bare = apis.map ScopedApi.bare) ∧
    ((g.renamed n).build os).2.declared = (g.build os).2.declared := by
  have hsettle := congrArg (Emit.settle g.declared) (buildApis_renamed g.conventions n os)
  rw [Emit.settle_map, Emit.settle_map] at hsettle
  obtain ⟨houtcome, hdeclared, -⟩ := Settlement.mk.inj hsettle
  refine ⟨?_, hdeclared⟩
  rw [build_eq_ok.mp h] at houtcome
  cases hother : ((buildApis (g.conventions.renamed n) os).settle g.declared).outcome with
  | error e =>
    rw [hother] at houtcome
    cases houtcome
  | ok apis' =>
    rw [hother] at houtcome
    exact ⟨apis', build_eq_ok.mpr hother, Except.ok.inj houtcome⟩

/-- Under another name the same operations are kept. -/
theorem classify_renamed (g : Generator) (n : String) :
    (g.renamed n).classify.1 = g.classify.1 := by
  have hdescribed : ∀ rs : List LogRecord,
      ((g.renamed n).report rs).described = g.described := fun _ => rfl
  have hreport : ∀ rs : List LogRecord, (g.report rs).described = g.described := fun _ => rfl
  unfold classify
  simp only [hdescribed, hreport]
  cases g.described with
  | error e => rfl
  | ok os => rfl

end Generator

/-! ### The declarations of a module -/

open Code (Piece declarationPieces)

namespace Declared

/-- The declarations of a module, in order. -/
def statements (d : Declared) (documents : List Statement) (apis : List ScopedApi) :
    List Statement :=
  documents ++ d.records.map (fun r => .classDecl r.2) ++ apis.flatMap ScopedApi.declarations
    ++ d.results.map fun r => .classDecl r.2

/-- What stands below the imports of a module are the pieces of its declarations. -/
theorem blocks_statements (d : Declared) (documents : List Statement) (apis : List ScopedApi) :
    SdkModule.blocks (documents.map fun s => Code.render [s]) ++ d.sections apis =
      Piece.textOf (declarationPieces (d.statements documents apis)) := by
  have hdocuments : SdkModule.blocks (documents.map fun s => Code.render [s]) =
      Piece.textOf (declarationPieces documents) := by
    rw [Code.blocks_render fun s => List.cons_ne_nil s [], List.flatMap_singleton']
  have hclasses : ∀ cs : List (String × ClassDecl),
      SdkModule.blocks (cs.map fun r => Code.render [.classDecl r.2]) =
        Piece.textOf (declarationPieces (cs.map fun r => .classDecl r.2)) := by
    intro cs
    rw [Code.blocks_render fun r => List.cons_ne_nil _ [], List.map_eq_flatMap]
  have hapis : SdkModule.blocks (apis.map fun a => Code.render a.declarations) =
      Piece.textOf (declarationPieces (apis.flatMap ScopedApi.declarations)) :=
    Code.blocks_render (fun a => List.cons_ne_nil _ _) apis
  unfold sections recordTexts resultTexts statements
  rw [hdocuments, hclasses, hclasses, hapis, ← Piece.textOf_append, ← Piece.textOf_append,
    ← Piece.textOf_append, ← Code.declarationPieces_append, ← Code.declarationPieces_append,
    ← Code.declarationPieces_append]
  simp only [List.append_assoc]

/-- The declarations of modules are the same without documentation if the APIs are. -/
theorem bare_statements {apis apis' : List ScopedApi}
    (h : apis'.map ScopedApi.bare = apis.map ScopedApi.bare) (d : Declared)
    (documents : List Statement) :
    (d.statements documents apis').map Statement.bare =
      (d.statements documents apis).map Statement.bare := by
  have hbare : ∀ as : List ScopedApi, (as.flatMap ScopedApi.declarations).map Statement.bare =
      (as.map ScopedApi.bare).flatMap ScopedApi.declarations := by
    intro as
    rw [List.map_flatMap, List.flatMap_map]
    rfl
  unfold statements
  simp only [List.map_append, hbare, h]

end Declared

namespace Generator

open Code (Quotation.bodyEnd? Quotation.end? StaysOpen tripleQuote)

variable {g : Generator} {os : List SdkOperation} {n text text' : String}

/-- The text of a module starts with its docstring. -/
theorem textOf_eq_documented (documents : List Statement) (apis : List ScopedApi) (d : Declared) :
    g.textOf documents apis d = SdkModule.documented g.config.sdkName
      (SdkModule.below g.config d.scalars.usedImports
        ++ Piece.textOf (declarationPieces (d.statements documents apis))) := by
  unfold textOf
  rw [String.append_assoc, SdkModule.head_eq_documented, d.blocks_statements]

/-- What is generated for operations, if the module can be checked by evaluation. -/
theorem generateFor_of_checked (document : GraphQL.Document) (c : Config) (os : List SdkOperation)
    (documents : List Code.Statement) (hdocuments : ({ create document c with operations := os } :
      Generator).documents = .ok documents)
    (h : (((buildApis c.conventions os).settle (create document c).declared).outcome.toOption.any
      fun apis => Code.Checked ((create document c).textOf documents apis
        ((buildApis c.conventions os).settle (create document c).declared).declared
          ).toByteArray.data.toList) = true) :
    ∃ rest, ((create document c).generateFor os).1 =
      .ok (SdkModule.documented c.sdkName rest) := by
  obtain ⟨apis, hapis, hchecked⟩ := (Option.any_eq_true _ _).mp h
  have hbuild := build_eq_ok.mpr (eq_ok_of_toOption hapis)
  have htext := (generateFor_eq_ok rfl hbuild).mpr
    ⟨documents, hdocuments, Code.isModule_of_checked hchecked, rfl⟩
  have hput : ∀ t, Header.putAll (create document c).headers t = t := fun _ => rfl
  rw [hput, textOf_eq_documented] at htext
  exact ⟨_, htext⟩

/-- A name with three quotes, a line of code, and three quotes again. -/
def codeInName : Config where
  sdkName := "X\"\"\"\nimport os\n\"\"\""

theorem generateFor_codeInName : ∃ rest, ((create ⟨[]⟩ codeInName).generateFor []).1 =
    .ok (SdkModule.documented codeInName.sdkName rest) :=
  generateFor_of_checked ⟨[]⟩ codeInName [] [] rfl (by decide +kernel)

/-- **The name of the SDK in the docstring of the module.** For every name the same
operations are kept. Of texts that are generated for two names, each starts with the
docstring of its name, below the headers. What follows is in both the same imports, and
the pieces of the declarations, which are the same but for what documentations say. The
docstring ends at the quotes that are meant to end it exactly if no three quotes end it
in the name; so it does if there are no three quotes in a row. -/
theorem docstring_closed_iff (ht : g.template? = none) (htext : (g.generateFor os).1 = .ok text)
    (htext' : ((g.renamed n).generateFor os).1 = .ok text') :
    (g.renamed n).classify.1 = g.classify.1 ∧
    ∃ apis apis' documents, (g.build os).1 = .ok apis ∧ ((g.renamed n).build os).1 = .ok apis' ∧
      ({ g with operations := os } : Generator).documents = .ok documents ∧
      apis'.map ScopedApi.bare = apis.map ScopedApi.bare ∧
      let d := (g.build os).2.declared
      let imports := SdkModule.below g.config d.scalars.usedImports
      let pieces := declarationPieces (d.statements documents apis)
      let pieces' := declarationPieces (d.statements documents apis')
      pieces'.map Piece.bare = pieces.map Piece.bare ∧
      text = Header.putAll g.headers
        (SdkModule.documented g.config.sdkName (imports ++ Piece.textOf pieces)) ∧
      text' = Header.putAll g.headers
        (SdkModule.documented n (imports ++ Piece.textOf pieces')) ∧
      (Quotation.end? (SdkModule.documented n (imports ++ Piece.textOf pieces')).toList =
          some ((SdkModule.docstringBody n).toList, (imports ++ Piece.textOf pieces').toList) ↔
        StaysOpen n.toList) ∧
      (¬tripleQuote.toList <:+: n.toList → StaysOpen n.toList) := by
  obtain ⟨apis, hbuild⟩ := exists_build_of_generateFor htext
  obtain ⟨⟨apis', hbuild', hbare⟩, hdeclared⟩ := build_renamed hbuild n
  obtain ⟨documents, hdocuments, -, heq⟩ := (generateFor_eq_ok ht hbuild).mp htext
  obtain ⟨documents', hdocuments', -, heq'⟩ :=
    (generateFor_eq_ok (g := g.renamed n) ht hbuild').mp htext'
  obtain rfl : documents' = documents := Except.ok.inj (hdocuments'.symm.trans hdocuments)
  rw [hdeclared, textOf_eq_documented] at heq'
  rw [textOf_eq_documented] at heq
  refine ⟨classify_renamed g n, apis, apis', documents', hbuild, hbuild', hdocuments, hbare, ?_,
    heq, heq', SdkModule.end_documented_iff n _, Code.staysOpen_of_not_infix⟩
  rw [← Code.declarationPieces_bare, ← Code.declarationPieces_bare, Declared.bare_statements hbare]

/-- A name with backslashes and two quotes in a row. -/
theorem sample_docstring : ∃ text rest,
    ((create ⟨[]⟩ codeInName).generateFor []).1 = .ok text ∧
    (((create ⟨[]⟩ codeInName).renamed "\"new\\\"\"\" API\\").generateFor []).1 =
      .ok (SdkModule.documented "\"new\\\"\"\" API\\" rest) ∧
    Quotation.end? (SdkModule.documented "\"new\\\"\"\" API\\" rest).toList =
      some ((SdkModule.docstringBody "\"new\\\"\"\" API\\").toList, rest.toList) := by
  obtain ⟨_, htext⟩ := generateFor_codeInName
  obtain ⟨rest, htext'⟩ := generateFor_of_checked ⟨[]⟩
    (codeInName.renamed "\"new\\\"\"\" API\\") [] [] rfl (by decide +kernel)
  obtain ⟨-, _, _, _, -, -, -, -, -, -, heq, hend, -⟩ :=
    docstring_closed_iff (g := create ⟨[]⟩ codeInName) (n := "\"new\\\"\"\" API\\") rfl htext htext'
  exact ⟨_, _, htext, htext'.trans (congrArg Except.ok heq), hend.mpr (by decide +kernel)⟩

/-- **Code in the name of the SDK.** The docstring ends in the name, and the line after
it is code. -/
theorem code_in_name : ∃ rest,
    ((create ⟨[]⟩ codeInName).generateFor []).1 =
      .ok (SdkModule.documented codeInName.sdkName rest) ∧
    Quotation.end? (SdkModule.documented codeInName.sdkName rest).toList =
      some ("Auto-generated X".toList, "\nimport os\n".toList ++ tripleQuote.toList
        ++ ' ' :: (SdkModule.closing.toList ++ (tripleQuote.toList ++ rest.toList))) ∧
    Quotation.end? (SdkModule.documented codeInName.sdkName rest).toList ≠
      some ((SdkModule.docstringBody codeInName.sdkName).toList, rest.toList) := by
  obtain ⟨rest, htext⟩ := generateFor_codeInName
  have hend : Quotation.bodyEnd? true '"' false [] codeInName.sdkName.toList =
      some (['X'], "\nimport os\n".toList ++ tripleQuote.toList) := by decide +kernel
  refine ⟨rest, htext, SdkModule.end_documented_of_some hend rest, fun h => ?_⟩
  have hopen : StaysOpen codeInName.sdkName.toList := (SdkModule.end_documented_iff _ rest).mp h
  exact nomatch hopen.symm.trans hend

end Generator
end ChainedSdk
