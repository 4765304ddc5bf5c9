/-
# What a generator keeps from one call to the next

A generator that has been called before differs from a new one in what is
declared: the records and results of all operations it was called with, and the
scalars they use (`collects_of_calls`). The next module declares and imports all
of that, what was kept first, and of what its own operations declare only what
has a new name. Nothing else that is kept shows in the text of a module
(`generateFor_eq_ok`).

So a later call does not give the text that a new generator gives for the same
operations, unless what was kept makes no difference
(`generateFor_after_calls`): all imports are needed again, and records and
results make one text together with the new ones. Where no line of a declared
class holds a line break, this is so only if they are the same texts one by one;
it is so if what was kept is what the operations declare first. After a call for
`team`, the module of `viewer` still declares the result of `team`, which stands
on a type that the module does not declare (`leftover_result`).

Key definitions: `Generator.Fresh`, `Generator.Calls`, `Declared.Collects`,
`Declared.recordTexts`, `Declared.resultTexts`.
Key theorems: `generateFor_eq_ok`, `collects_of_calls`,
`generateFor_after_calls`.
-/
import ChainedSdk.Proofs.Building
import ChainedSdk.Proofs.Checking
import ChainedSdk.Proofs.Rendering

namespace ChainedSdk

open Code (ClassDecl)

namespace Header

theorem put_inj {header a b : String} (h : put header a = put header b) : a = b := by
  unfold put at h
  exact (String.append_right_inj _).mp h

theorem putAll_inj {headers : List String} : ∀ {a b : String},
    putAll headers a = putAll headers b → a = b := by
  induction headers with
  | nil => exact fun h => h
  | cons header headers ih =>
    intro a b h
    unfold putAll at h
    rw [List.foldl_cons, List.foldl_cons] at h
    exact put_inj (ih h)

end Header

namespace Declared

/-- The texts of the records. -/
def recordTexts (d : Declared) : List String :=
  d.records.map fun r => Code.render [.classDecl r.2]

/-- The texts of the results. -/
def resultTexts (d : Declared) : List String :=
  d.results.map fun r => Code.render [.classDecl r.2]

/-- The text of APIs, with the records above them and the results below them. -/
def sections (d : Declared) (apis : List ScopedApi) : String :=
  SdkModule.blocks d.recordTexts
    ++ SdkModule.blocks (apis.map fun a => Code.render a.declarations)
    ++ SdkModule.blocks d.resultTexts

/-- What is declared is what several generators would declare together: each class
under the first of its names, and all imports. -/
structure Collects (d : Declared) (scalars : ScalarRegistry) (ds : List Declared) : Prop where
  records : d.records = Assoc.addAll [] (ds.flatMap (·.records))
  results : d.results = Assoc.addAll [] (ds.flatMap (·.results))
  scalars : ∃ names, d.scalars = scalars.markAll names
  imports : ∀ line, line ∈ d.scalars.usedImports ↔ ∃ e ∈ ds, line ∈ e.scalars.usedImports

/-- The classes declared have one line of documentation and no methods, and records
have the base of records. -/
structure Plain (d : Declared) : Prop where
  records : ∀ r ∈ d.records, ∃ name fields summary, r.2 =
    (⟨name, [Code.recordBase], fields, [], some { summary := [summary] }⟩ : ClassDecl)
  results : ∀ r ∈ d.results, ∃ name bases fields summary, r.2 =
    (⟨name, bases, fields, [], some { summary := [summary] }⟩ : ClassDecl)

theorem collects_nil {scalars : ScalarRegistry} (h : scalars.used = []) :
    Collects { scalars } scalars [] := by
  refine ⟨rfl, rfl, ⟨[], rfl⟩, fun line => ?_⟩
  rw [ScalarRegistry.mem_usedImports, h]
  simp

/-- One more building collects what its operations declare. -/
theorem Collects.settle {s : Conventions} (hused : s.scalars.used = []) {os : List SdkOperation}
    {apis : List ScopedApi} (h : (buildApis s os).outcome = .ok apis) {d : Declared}
    {ds : List Declared} (hd : d.Collects s.scalars ds) :
    ((buildApis s os).settle d).declared.Collects s.scalars (ds ++ [ownDeclared s os]) := by
  obtain ⟨-, hrecords, hresults, names, hscalars, hown⟩ := settle_buildApis h d
  obtain ⟨before, hbefore⟩ := hd.scalars
  have hhandlers : s.scalars.handlers = d.scalars.handlers := by
    rw [hbefore, ScalarRegistry.handlers_markAll]
  refine ⟨?_, ?_, ⟨before ++ names, ?_⟩, fun line => ?_⟩
  · rw [hrecords, hd.records, List.flatMap_append, Assoc.addAll_append]
    simp
  · rw [hresults, hd.results, List.flatMap_append, Assoc.addAll_append]
    simp
  · rw [hscalars, hbefore]
    exact (List.foldl_append).symm
  · rw [hscalars, ScalarRegistry.mem_usedImports_markAll hhandlers (by simp [hused]), ← hown,
      hd.imports]
    simp [or_and_right, exists_or]

theorem plain_ownDeclared {s : Conventions} {os : List SdkOperation} {apis : List ScopedApi}
    (h : (buildApis s os).outcome = .ok apis) : (ownDeclared s os).Plain := by
  have habsorb : Declared.absorbAll { scalars := s.scalars } (buildApis s os).effects =
      .ok (ownDeclared s os) :=
    (Emit.settle_outcome_eq_ok.mp (settle_buildApis h _).1).2
  obtain ⟨hrecords, hresults, -⟩ := absorbAll_eq_ok habsorb
  constructor
  · intro r hr
    rw [hrecords] at hr
    obtain ⟨e, he, her⟩ := List.mem_filterMap.mp ((Assoc.mem_addAll hr).resolve_left (by simp))
    cases e <;> cases her
    obtain ⟨o, name, hd⟩ := record_of_mem_effects h he
    exact ⟨_, _, _, hd⟩
  · intro r hr
    rw [hresults] at hr
    obtain ⟨e, he, her⟩ := List.mem_filterMap.mp ((Assoc.mem_addAll hr).resolve_left (by simp))
    unfold Effect.result? at her
    split at her
    · cases her
      obtain ⟨o, key, apiType, hd⟩ := result_of_mem_effects h he
      cases hd
      exact ⟨_, _, _, _, rfl⟩
    · cases her

theorem Plain.settle {s : Conventions} {os : List SdkOperation} {apis : List ScopedApi}
    (h : (buildApis s os).outcome = .ok apis) {d : Declared} (hd : d.Plain) :
    ((buildApis s os).settle d).declared.Plain := by
  obtain ⟨-, hrecords, hresults, -⟩ := settle_buildApis h d
  have hown := plain_ownDeclared h
  constructor
  · intro r hr
    rw [hrecords] at hr
    rcases Assoc.mem_addAll hr with hr | hr
    exacts [hd.records r hr, hown.records r hr]
  · intro r hr
    rw [hresults] at hr
    rcases Assoc.mem_addAll hr with hr | hr
    exacts [hd.results r hr, hown.results r hr]

theorem Plain.sealed_recordTexts {d : Declared} (hd : d.Plain) (hl : ∀ r ∈ d.records, r.2.Lined) :
    ∀ t ∈ d.recordTexts, Text.Sealed t.toList := by
  intro t ht
  obtain ⟨r, hr, rfl⟩ := List.mem_map.mp ht
  obtain ⟨name, fields, summary, hshape⟩ := hd.records r hr
  have hline := hl r hr
  rw [hshape] at hline ⊢
  exact ClassDecl.sealed_render hline

theorem Plain.sealed_resultTexts {d : Declared} (hd : d.Plain) (hl : ∀ r ∈ d.results, r.2.Lined) :
    ∀ t ∈ d.resultTexts, Text.Sealed t.toList := by
  intro t ht
  obtain ⟨r, hr, rfl⟩ := List.mem_map.mp ht
  obtain ⟨name, bases, fields, summary, hshape⟩ := hd.results r hr
  have hline := hl r hr
  rw [hshape] at hline ⊢
  exact ClassDecl.sealed_render hline

theorem Plain.firstLine_recordTexts {d : Declared} (hd : d.Plain)
    (hl : ∀ r ∈ d.records, r.2.Lined) {s : Conventions} {os : List SdkOperation}
    {key? : Option String} {a : ScopedApi} (ha : (buildApi s os key?).outcome = .ok a)
    (hn : '\n' ∉ a.typeName.toList) : ∀ t ∈ d.recordTexts,
    Text.firstLine t.toList ≠ Text.firstLine (Code.render a.declarations).toList := by
  intro t ht
  obtain ⟨r, hr, rfl⟩ := List.mem_map.mp ht
  obtain ⟨name, fields, summary, hshape⟩ := hd.records r hr
  have hline := hl r hr
  rw [hshape] at hline ⊢
  exact firstLine_record_ne hline ha hn

end Declared

namespace Generator

/-- A generator before any call, without a template of its own. -/
structure Fresh (g : Generator) : Prop where
  template : g.template? = none
  declared : g.declared = { scalars := g.config.conventions.scalars }

/-- The generators are set up alike. -/
structure SameSetup (g g' : Generator) : Prop where
  document : g'.document = g.document
  config : g'.config = g.config
  headers : g'.headers = g.headers
  template : g'.template? = g.template?

/-- The generator that a new one becomes by calls, each of which could build its
APIs, as every call does that returns a text. -/
inductive Calls (g₀ : Generator) : List (List SdkOperation) → Generator → Prop
  | nil : Calls g₀ [] g₀
  | snoc {calls : List (List SdkOperation)} {g : Generator} {os : List SdkOperation}
      {apis : List ScopedApi} (before : Calls g₀ calls g) (built : (g.build os).1 = .ok apis) :
      Calls g₀ (calls ++ [os]) (g.generateFor os).2

/-! ### One call -/

variable {g : Generator} {os : List SdkOperation} {apis : List ScopedApi}

theorem build_eq_ok : (g.build os).1 = .ok apis ↔
    ((buildApis g.conventions os).settle g.declared).outcome = .ok apis := by
  unfold build
  cases h : ((buildApis g.conventions os).settle g.declared).outcome with
  | error e => simp [h, Except.mapError]
  | ok a => simp [h, Except.mapError]

/-- The text of the module of operations, given its constants, and the APIs and
declarations it is made of. -/
def textOf (g : Generator) (documents : List Code.Statement) (apis : List ScopedApi)
    (d : Declared) : String :=
  SdkModule.head g.config d.scalars.usedImports
    ++ SdkModule.blocks (documents.map fun s => Code.render [s])
    ++ d.sections apis

theorem checkedText_eq_ok {text : String} : g.checkedText = .ok text ↔ ∃ documents,
    g.documents = .ok documents ∧ Code.isModule (g.moduleText documents) = true ∧
      text = g.moduleText documents := by
  unfold checkedText
  cases hd : g.documents with
  | error e => simp
  | ok documents =>
    simp only [Except.ok.injEq, exists_eq_left']
    by_cases hm : Code.isModule (g.moduleText documents) = true
    · simp only [hm, if_true, Except.ok.injEq, true_and]
      exact eq_comm
    · simp [hm]

/-- The text of a module does not depend on what was reported. -/
theorem checkedText_congr {g' : Generator} (hsetup : g.SameSetup g')
    (hfilename : g'.filename = g.filename) (hdeclared : g'.declared = g.declared)
    (hoperations : g'.operations = g.operations) (hapis : g'.apis = g.apis) :
    g'.checkedText = g.checkedText := by
  obtain ⟨hdocument, hconfig, -, htemplate⟩ := hsetup
  cases g
  cases g'
  cases hdocument
  cases hconfig
  cases htemplate
  cases hfilename
  cases hdeclared
  cases hoperations
  cases hapis
  rfl

/-- A call whose APIs cannot be built ends there. -/
theorem generateFor_of_error {e : GenerationError} (h : (g.build os).1 = .error e) :
    g.generateFor os = (.error e, (g.build os).2) := by
  have hbuild : g.build os = (.error e, (g.build os).2) := Prod.ext h rfl
  unfold generateFor
  rw [hbuild]

theorem exists_build_of_generateFor {text : String} (h : (g.generateFor os).1 = .ok text) :
    ∃ apis, (g.build os).1 = .ok apis := by
  cases hbuild : (g.build os).1 with
  | ok apis => exact ⟨apis, rfl⟩
  | error e =>
    rw [generateFor_of_error hbuild] at h
    cases h

/-- The outcome of a call once the APIs are built: the checked text, with the
headers above it. -/
theorem generateFor_of_build {built : Generator} (h : g.build os = (.ok apis, built)) :
    (g.generateFor os).1 =
      ({ built with operations := os, apis } : Generator).checkedText.map
        (Header.putAll built.headers) ∧
    (g.generateFor os).2.declared = built.declared ∧ built.SameSetup (g.generateFor os).2 := by
  have hlog : ∀ (g : Generator) (rs : List LogRecord), (g.report rs).checkedText = g.checkedText :=
    fun _ _ => rfl
  unfold generateFor
  rw [h]
  simp only [hlog]
  cases ({ built with operations := os, apis } : Generator).checkedText with
  | error e => exact ⟨rfl, rfl, rfl, rfl, rfl, rfl⟩
  | ok text => exact ⟨rfl, rfl, rfl, rfl, rfl, rfl⟩

theorem build_snd : (g.build os).2.declared =
      ((buildApis g.conventions os).settle g.declared).declared ∧ g.SameSetup (g.build os).2 :=
  ⟨rfl, rfl, rfl, rfl, rfl⟩

/-- **A call that returns a text.** The text is that of the module, with the
headers above it. -/
theorem generateFor_eq_ok (ht : g.template? = none) (h : (g.build os).1 = .ok apis) {text : String} :
    (g.generateFor os).1 = .ok text ↔ ∃ documents,
      ({ g with operations := os } : Generator).documents = .ok documents ∧
      Code.isModule (g.textOf documents apis (g.build os).2.declared) = true ∧
      text = Header.putAll g.headers (g.textOf documents apis (g.build os).2.declared) := by
  have hbuild : g.build os = (.ok apis, (g.build os).2) := Prod.ext h rfl
  have htext : ∀ documents, ({ (g.build os).2 with operations := os, apis } : Generator).moduleText
      documents = g.textOf documents apis (g.build os).2.declared := by
    intro documents
    have ht : (g.build os).2.template? = none := ht
    unfold moduleText textOf
    simp only [ht]
    rw [SdkModule.text_eq]
    unfold sdkModule Declared.sections Declared.recordTexts Declared.resultTexts
    simp only [String.append_assoc]
    rfl
  have hchecked : ∀ t,
      ({ (g.build os).2 with operations := os, apis } : Generator).checkedText = .ok t ↔
      ∃ documents, ({ g with operations := os } : Generator).documents = .ok documents ∧
        Code.isModule (g.textOf documents apis (g.build os).2.declared) = true ∧
        t = g.textOf documents apis (g.build os).2.declared := by
    intro t
    rw [checkedText_eq_ok]
    simp only [htext]
    rfl
  rw [(generateFor_of_build hbuild).1]
  constructor
  · intro htext
    cases hc : ({ (g.build os).2 with operations := os, apis } : Generator).checkedText with
    | error e =>
      rw [hc] at htext
      cases htext
    | ok t =>
      rw [hc] at htext
      cases htext
      obtain ⟨documents, hd, hm, rfl⟩ := (hchecked t).mp hc
      exact ⟨documents, hd, hm, rfl⟩
  · rintro ⟨documents, hd, hm, rfl⟩
    rw [(hchecked _).mpr ⟨documents, hd, hm, rfl⟩]
    rfl

theorem generateFor_snd (h : (g.build os).1 = .ok apis) : g.SameSetup (g.generateFor os).2 ∧
    (g.generateFor os).2.declared =
      ((buildApis g.conventions os).settle g.declared).declared := by
  have hbuild : g.build os = (.ok apis, (g.build os).2) := Prod.ext h rfl
  obtain ⟨-, hdeclared, hsetup⟩ := generateFor_of_build hbuild
  exact ⟨⟨hsetup.document, hsetup.config, hsetup.headers, hsetup.template⟩, hdeclared⟩

/-! ### Several calls -/

/-- **What is kept.** After calls a generator has what the operations of all calls
declare, and is set up as before. -/
theorem collects_of_calls {g₀ : Generator} (hfresh : g₀.Fresh) {calls : List (List SdkOperation)}
    {g : Generator} (hcalls : g₀.Calls calls g) : g₀.SameSetup g ∧ g.declared.Plain ∧
      g.declared.Collects g₀.config.conventions.scalars
        (calls.map (ownDeclared g₀.config.conventions)) ∧
      ∀ os, buildApis g.conventions os = buildApis g₀.config.conventions os := by
  have hbuild : ∀ {g : Generator} {ds : List Declared}, g₀.SameSetup g →
      g.declared.Collects g₀.config.conventions.scalars ds →
      ∀ os, buildApis g.conventions os = buildApis g₀.config.conventions os := by
    intro g ds hsetup hcollects os
    obtain ⟨names, hnames⟩ := hcollects.scalars
    obtain ⟨used, hused, -⟩ := ScalarRegistry.markAll_eq names g₀.config.conventions.scalars
    have hconventions : g.conventions = g₀.config.conventions.withUsed used := by
      unfold conventions
      rw [hsetup.config, hnames, hused]
      rfl
    rw [hconventions, buildApis_withUsed]
  induction hcalls with
  | nil =>
    have hsetup : g₀.SameSetup g₀ := ⟨rfl, rfl, rfl, rfl⟩
    have hcollects : g₀.declared.Collects g₀.config.conventions.scalars [] := by
      rw [hfresh.declared]
      exact Declared.collects_nil rfl
    refine ⟨hsetup, ?_, hcollects, hbuild hsetup hcollects⟩
    rw [hfresh.declared]
    exact ⟨fun r hr => absurd hr (by simp), fun r hr => absurd hr (by simp)⟩
  | @snoc calls g os apis _ built ih =>
    obtain ⟨hsetup, hplain, hcollects, hsame⟩ := ih
    obtain ⟨hnext, hdeclared⟩ := generateFor_snd built
    have hok := (Emit.settle_outcome_eq_ok.mp (build_eq_ok.mp built)).1
    rw [hsame] at hok hdeclared
    have hsetup' : g₀.SameSetup (g.generateFor os).2 :=
      ⟨hnext.document.trans hsetup.document, hnext.config.trans hsetup.config,
        hnext.headers.trans hsetup.headers, hnext.template.trans hsetup.template⟩
    have hcollects' : (g.generateFor os).2.declared.Collects g₀.config.conventions.scalars
        ((calls ++ [os]).map (ownDeclared g₀.config.conventions)) := by
      rw [hdeclared, List.map_append]
      exact hcollects.settle rfl hok
    refine ⟨hsetup', ?_, hcollects', hbuild hsetup' hcollects'⟩
    rw [hdeclared]
    exact hplain.settle hok

section Calls

variable {g₀ : Generator} {calls : List (List SdkOperation)}

/-- What was kept makes no difference to which operations can be built. -/
theorem Calls.build_eq_ok_iff (hfresh : g₀.Fresh) (hcalls : g₀.Calls calls g) :
    (g.build os).1 = .ok apis ↔ (buildApis g₀.config.conventions os).outcome = .ok apis := by
  obtain ⟨-, -, -, hsame⟩ := collects_of_calls hfresh hcalls
  rw [build_eq_ok, hsame]
  exact ⟨fun h => (Emit.settle_outcome_eq_ok.mp h).1, fun h => (settle_buildApis h _).1⟩

theorem Calls.build_declared (hfresh : g₀.Fresh) (hcalls : g₀.Calls calls g) :
    (g.build os).2.declared =
      ((buildApis g₀.config.conventions os).settle g.declared).declared := by
  obtain ⟨-, -, -, hsame⟩ := collects_of_calls hfresh hcalls
  rw [build_snd.1, hsame]

theorem Fresh.build_declared (hfresh : g₀.Fresh) :
    (g₀.build os).2.declared = ownDeclared g₀.config.conventions os := by
  rw [Calls.build_declared hfresh .nil, hfresh.declared]
  rfl

/-- After one call a new generator has what the operations declare. -/
theorem Fresh.after_first (hfresh : g₀.Fresh)
    (h : (buildApis g₀.config.conventions os).outcome = .ok apis) :
    g₀.Calls [os] (g₀.generateFor os).2 ∧
      (g₀.generateFor os).2.declared = ownDeclared g₀.config.conventions os := by
  have hbuilt : (g₀.build os).1 = .ok apis := (Calls.build_eq_ok_iff hfresh .nil).mpr h
  exact ⟨.snoc .nil hbuilt, (generateFor_snd hbuilt).2.trans hfresh.build_declared⟩

/-- The scalars that are used are marked by the earlier calls, and then by the last
one. -/
theorem Calls.scalars_build (hfresh : g₀.Fresh) (hcalls : g₀.Calls calls g)
    (hbuilt : (g.build os).1 = .ok apis) : ∃ before names,
      g.declared.scalars = g₀.config.conventions.scalars.markAll before ∧
      (g.build os).2.declared.scalars = g.declared.scalars.markAll names ∧
      (ownDeclared g₀.config.conventions os).scalars =
        g₀.config.conventions.scalars.markAll names := by
  obtain ⟨-, -, hcollects, -⟩ := collects_of_calls hfresh hcalls
  obtain ⟨before, hbefore⟩ := hcollects.scalars
  obtain ⟨-, -, -, names, hscalars, hown⟩ :=
    settle_buildApis ((Calls.build_eq_ok_iff hfresh hcalls).mp hbuilt) g.declared
  rw [← Calls.build_declared hfresh hcalls] at hscalars
  exact ⟨before, names, hbefore, hscalars, hown⟩

theorem Calls.line_of_mem_usedImports (hfresh : g₀.Fresh) (hcalls : g₀.Calls calls g)
    (hbuilt : (g.build os).1 = .ok apis) {line : String}
    (h : line ∈ (g.build os).2.declared.scalars.usedImports) : line ≠ "" ∧ '\n' ∉ line.toList := by
  obtain ⟨before, names, hbefore, hscalars, -⟩ := Calls.scalars_build hfresh hcalls hbuilt
  refine ScalarRegistry.line_of_mem_usedImports ?_ h
  rw [hscalars, hbefore, ScalarRegistry.handlers_markAll, ScalarRegistry.handlers_markAll]
  rfl

/-- The imports kept make no difference exactly if they are needed again. -/
theorem Calls.usedImports_eq_iff (hfresh : g₀.Fresh) (hcalls : g₀.Calls calls g)
    (hbuilt : (g.build os).1 = .ok apis) :
    (g.build os).2.declared.scalars.usedImports =
        (ownDeclared g₀.config.conventions os).scalars.usedImports ↔
      ∀ line ∈ g.declared.scalars.usedImports,
        line ∈ (ownDeclared g₀.config.conventions os).scalars.usedImports := by
  obtain ⟨before, names, hbefore, hscalars, hown⟩ := Calls.scalars_build hfresh hcalls hbuilt
  have hhandlers : g₀.config.conventions.scalars.handlers = g.declared.scalars.handlers := by
    rw [hbefore, ScalarRegistry.handlers_markAll]
  rw [hscalars, hown]
  exact ScalarRegistry.usedImports_markAll_eq_iff hhandlers (List.nil_subset _)

end Calls

/-- Two modules of the same constants and APIs have one text exactly if they have the
same imports, and their records, APIs and results one text. -/
theorem textOf_eq_iff {g : Generator} {documents : List Code.Statement} {apis : List ScopedApi}
    {d e : Declared} (hd : ∀ line ∈ d.scalars.usedImports, line ≠ "" ∧ '\n' ∉ line.toList)
    (he : ∀ line ∈ e.scalars.usedImports, line ≠ "" ∧ '\n' ∉ line.toList) :
    g.textOf documents apis d = g.textOf documents apis e ↔
      d.scalars.usedImports = e.scalars.usedImports ∧ d.sections apis = e.sections apis := by
  unfold textOf
  constructor
  · intro h
    have hsplit : ∀ head rest rest' : String, head ++ rest ++ rest' = head ++ (rest ++ rest') :=
      fun _ _ _ => String.append_assoc
    obtain ⟨himports, hrest⟩ := SdkModule.head_append_inj hd he
      ((hsplit _ _ _).symm.trans (h.trans (hsplit _ _ _)))
    exact ⟨himports, (String.append_right_inj _).mp hrest⟩
  · rintro ⟨himports, hrest⟩
    rw [himports, hrest]

/-- Where no line of the classes holds a line break, records, APIs and results have
one text exactly if the records and the results have the same texts. -/
theorem sections_eq_iff {s : Conventions} {os : List SdkOperation} {apis : List ScopedApi}
    (h : (buildApis s os).outcome = .ok apis) (hroot : '\n' ∉ s.config.apiRootType.toList)
    {d e : Declared} (hd : d.Plain) (he : e.Plain)
    (hlined : ∀ r ∈ d.records ++ d.results ++ e.records ++ e.results, r.2.Lined) :
    d.sections apis = e.sections apis ↔
      d.recordTexts = e.recordTexts ∧ d.resultTexts = e.resultTexts := by
  unfold Declared.sections
  refine ⟨fun heq => ?_, fun heq => by rw [heq.1, heq.2]⟩
  obtain ⟨root, more, rfl⟩ : ∃ root more, apis = root :: more := by
    have hkeys := keys_of_buildApis h
    cases apis with
    | nil => simp at hkeys
    | cons root more => exact ⟨root, more, rfl⟩
  have hbuilt : (buildApi s os none).outcome = .ok root := by
    have hkeys := keys_of_buildApis h
    have hkey : root.key? = none := (List.cons.inj hkeys).1
    rw [← hkey]
    exact buildApi_of_mem h List.mem_cons_self
  have htype : '\n' ∉ root.typeName.toList := by
    have hname : Except.ok s.config.apiRootType = .ok root.typeName := (api_names hbuilt).2.1
    rw [← Except.ok.inj hname]
    exact hroot
  simp only [List.mem_append] at hlined
  have hdr : ∀ r ∈ d.records, r.2.Lined := fun r hr => hlined r (Or.inl (Or.inl (Or.inl hr)))
  have hds : ∀ r ∈ d.results, r.2.Lined := fun r hr => hlined r (Or.inl (Or.inl (Or.inr hr)))
  have her : ∀ r ∈ e.records, r.2.Lined := fun r hr => hlined r (Or.inl (Or.inr hr))
  have hes : ∀ r ∈ e.results, r.2.Lined := fun r hr => hlined r (Or.inr hr)
  exact SdkModule.blocks_sections_inj (hd.sealed_recordTexts hdr) (he.sealed_recordTexts her)
    (hd.sealed_resultTexts hds) (he.sealed_resultTexts hes)
    (hd.firstLine_recordTexts hdr hbuilt htype) (he.firstLine_recordTexts her hbuilt htype) heq

theorem SameSetup.documents {g₀ : Generator} (h : g₀.SameSetup g) (os : List SdkOperation) :
    ({ g with operations := os } : Generator).documents =
      ({ g₀ with operations := os } : Generator).documents := by
  unfold Generator.documents
  simp only [h.document, h.config]

theorem SameSetup.textOf {g₀ : Generator} (h : g₀.SameSetup g) (documents : List Code.Statement)
    (apis : List ScopedApi) (d : Declared) :
    g.textOf documents apis d = g₀.textOf documents apis d := by
  unfold Generator.textOf
  rw [h.config]

/-- Of two generators set up alike that build the same APIs, one returns the text of
the other exactly if both have declared the same imports and the same sections. -/
theorem generateFor_eq_ok_iff {g₀ : Generator} (ht : g₀.template? = none) (hsetup : g₀.SameSetup g)
    (hbuilt₀ : (g₀.build os).1 = .ok apis) (hbuilt : (g.build os).1 = .ok apis)
    (hlines : ∀ line ∈ (g.build os).2.declared.scalars.usedImports, line ≠ "" ∧ '\n' ∉ line.toList)
    (hlines₀ : ∀ line ∈ (g₀.build os).2.declared.scalars.usedImports,
      line ≠ "" ∧ '\n' ∉ line.toList)
    {text : String} (htext : (g.generateFor os).1 = .ok text) :
    (g₀.generateFor os).1 = .ok text ↔
      (g.build os).2.declared.scalars.usedImports = (g₀.build os).2.declared.scalars.usedImports ∧
      (g.build os).2.declared.sections apis = (g₀.build os).2.declared.sections apis := by
  obtain ⟨documents, hdoc, hmodule, htext⟩ :=
    (generateFor_eq_ok (hsetup.template.trans ht) hbuilt).mp htext
  rw [hsetup.documents] at hdoc
  rw [hsetup.textOf] at hmodule htext
  rw [hsetup.headers] at htext
  have hsame : g₀.textOf documents apis (g.build os).2.declared =
      g₀.textOf documents apis (g₀.build os).2.declared ↔ _ := textOf_eq_iff hlines hlines₀
  rw [generateFor_eq_ok ht hbuilt₀, ← hsame]
  constructor
  · rintro ⟨documents', hdoc', -, heq⟩
    cases hdoc.symm.trans hdoc'
    exact Header.putAll_inj (htext.symm.trans heq)
  · intro heq
    rw [heq] at hmodule htext
    exact ⟨documents, hdoc, hmodule, htext⟩

/-- Where what is kept is what the operations declare first, nothing is declared
beside that. -/
theorem sections_eq_of_prefix {s : Conventions} {os : List SdkOperation} {apis : List ScopedApi}
    (h : (buildApis s os).outcome = .ok apis) {d : Declared}
    (hrecords : d.records <+: (ownDeclared s os).records)
    (hresults : d.results <+: (ownDeclared s os).results) :
    ((buildApis s os).settle d).declared.sections apis = (ownDeclared s os).sections apis := by
  obtain ⟨hr, hs⟩ := settle_buildApis_eq_append h d
  rw [(Assoc.append_filter_eq_iff (ownDeclared_nodup h).1).mpr hrecords] at hr
  rw [(Assoc.append_filter_eq_iff (ownDeclared_nodup h).2).mpr hresults] at hs
  unfold Declared.sections Declared.recordTexts Declared.resultTexts
  rw [hr, hs]

/-- **A later call.** What a generator keeps is what the operations of all earlier
calls declare; the next module has all of that, and of what its own operations
declare it has what has a new name. So its text is that of a new generator exactly
if the imports kept are needed again and the sections have the text of those of the
operations alone; where no line of a class holds a line break, exactly if the
classes have the same texts one by one. -/
theorem generateFor_after_calls {g₀ : Generator} (hfresh : g₀.Fresh)
    {calls : List (List SdkOperation)} {g : Generator} (hcalls : g₀.Calls calls g)
    {os : List SdkOperation} {apis : List ScopedApi} (hbuilt : (g.build os).1 = .ok apis) :
    let kept := g.declared
    let own := ownDeclared g₀.config.conventions os
    let all := (g.generateFor os).2.declared
    kept.Collects g₀.config.conventions.scalars (calls.map (ownDeclared g₀.config.conventions)) ∧
    all.records = kept.records ++ own.records.filter (fun r => r.1 ∉ kept.records.map (·.1)) ∧
    all.results = kept.results ++ own.results.filter (fun r => r.1 ∉ kept.results.map (·.1)) ∧
    (∀ text, (g.generateFor os).1 = .ok text → ((g₀.generateFor os).1 = .ok text ↔
      (∀ line ∈ kept.scalars.usedImports, line ∈ own.scalars.usedImports) ∧
      all.sections apis = own.sections apis)) ∧
    (kept.records <+: own.records → kept.results <+: own.results →
      all.sections apis = own.sections apis) ∧
    ('\n' ∉ g₀.config.apiRootType.toList →
      (∀ r ∈ kept.records ++ kept.results ++ own.records ++ own.results, r.2.Lined) →
      (all.sections apis = own.sections apis ↔
        all.recordTexts = own.recordTexts ∧ all.resultTexts = own.resultTexts)) := by
  intro kept own all
  obtain ⟨hsetup, hplain, hcollects, -⟩ := collects_of_calls hfresh hcalls
  have hok := (Calls.build_eq_ok_iff hfresh hcalls).mp hbuilt
  have hbuilt₀ : (g₀.build os).1 = .ok apis := (Calls.build_eq_ok_iff hfresh .nil).mpr hok
  have hown : (g₀.build os).2.declared = own := hfresh.build_declared
  have hall : (g.build os).2.declared = all := (generateFor_snd hbuilt).2.symm
  have hall' : all = ((buildApis g₀.config.conventions os).settle kept).declared :=
    hall.symm.trans (Calls.build_declared hfresh hcalls)
  obtain ⟨hrecords, hresults⟩ := settle_buildApis_eq_append hok kept
  rw [← hall'] at hrecords hresults
  refine ⟨hcollects, hrecords, hresults, fun text htext => ?_, fun hr hs => ?_, fun hroot hlined => ?_⟩
  · have himports := Calls.usedImports_eq_iff hfresh hcalls hbuilt
    have htexts := generateFor_eq_ok_iff hfresh.template hsetup hbuilt₀ hbuilt
      (fun line => Calls.line_of_mem_usedImports hfresh hcalls hbuilt)
      (fun line => Calls.line_of_mem_usedImports hfresh .nil hbuilt₀) htext
    rw [hown, himports, hall] at htexts
    exact htexts
  · rw [hall']
    exact sections_eq_of_prefix hok hr hs
  · have hplain' : all.Plain := by
      rw [hall']
      exact hplain.settle hok
    refine sections_eq_iff hok hroot hplain' (Declared.plain_ownDeclared hok) fun r hr => hlined r ?_
    rw [hrecords, hresults] at hr
    simp only [List.mem_append, List.mem_filter] at hr ⊢
    tauto

open GraphQL in
/-- The generator of the sample gives the module of the parent again when it is
called a second time. -/
theorem sample_after_calls : ∃ os g apis, (create Document.sample {}).described = .ok os ∧
    (create Document.sample {}).Fresh ∧ (create Document.sample {}).Calls [os.take 1] g ∧
    (g.build (os.take 1)).1 = .ok apis ∧ g.declared.results.map (·.1) = ["TeamQueryResult"] ∧
    ∀ text, (g.generateFor (os.take 1)).1 = .ok text →
      ((create Document.sample {}).generateFor (os.take 1)).1 = .ok text := by
  have hrun : ((create Document.sample {}).described.toOption.any fun os =>
      (buildApis (Config.conventions {}) (os.take 1)).outcome.toOption.isSome &&
        decide ((ownDeclared (Config.conventions {}) (os.take 1)).results.map (·.1) =
          ["TeamQueryResult"])) = true := by decide +kernel
  obtain ⟨os, hos, hrun⟩ := (Option.any_eq_true _ _).mp hrun
  simp only [Bool.and_eq_true, decide_eq_true_eq] at hrun
  obtain ⟨hrun, hresults⟩ := hrun
  obtain ⟨apis, hapis⟩ := Option.isSome_iff_exists.mp hrun
  have hfresh : (create Document.sample {}).Fresh := ⟨rfl, rfl⟩
  obtain ⟨hcalls, hkept⟩ := hfresh.after_first (eq_ok_of_toOption hapis)
  have hbuilt := (Calls.build_eq_ok_iff hfresh hcalls).mpr (eq_ok_of_toOption hapis)
  obtain ⟨-, -, -, htext, hprefix, -⟩ := generateFor_after_calls hfresh hcalls hbuilt
  rw [hkept] at htext hprefix
  refine ⟨os, _, apis, eq_ok_of_toOption hos, hfresh, hcalls, hbuilt, ?_, fun text h => ?_⟩
  · rw [hkept]
    exact hresults
  · exact (htext text h).mpr ⟨fun line hline => hline, hprefix List.prefix_rfl List.prefix_rfl⟩

open GraphQL in
/-- **A leftover result.** After a call for the parent of the sample, the module of
no operations at all declares the result of the parent, which stands on a type
that the module does not declare. -/
theorem leftover_result : ∃ os g apis text, (create Document.sample {}).described = .ok os ∧
    (create Document.sample {}).Calls [os.take 1] g ∧ (g.build []).1 = .ok apis ∧
    apis.map (·.typeName) = ["Sdk"] ∧
    (g.generateFor []).2.declared.results.map (fun r => (r.1, r.2.bases)) =
      [("TeamQueryResult", ["TeamSdk", "Protocol"])] ∧
    (g.generateFor []).1 = .ok text ∧
    ((create Document.sample {}).generateFor []).1 ≠ .ok text := by
  have hrun : ((create Document.sample {}).described.toOption.any fun os =>
      let s := Config.conventions {}
      let later := (buildApis s []).settle (ownDeclared s (os.take 1))
      let bytes := fun (apis : List ScopedApi) (d : Declared) =>
        ((create Document.sample {}).textOf [] apis d).toByteArray.data.toList
      (buildApis s (os.take 1)).outcome.toOption.isSome &&
      (buildApis s []).outcome.toOption.any fun apis =>
        decide (apis.map (·.typeName) = ["Sdk"]) &&
        (decide (later.declared.results.map (fun r => (r.1, r.2.bases)) =
          [("TeamQueryResult", ["TeamSdk", "Protocol"])]) &&
        (Code.Checked (bytes apis later.declared) &&
        decide ((bytes apis later.declared).length ≠
          (bytes apis (ownDeclared s [])).length)))) = true := by decide +kernel
  obtain ⟨os, hos, hrun⟩ := (Option.any_eq_true _ _).mp hrun
  simp only [Bool.and_eq_true] at hrun
  obtain ⟨hrun, hlater⟩ := hrun
  obtain ⟨first, hfirst⟩ := Option.isSome_iff_exists.mp hrun
  obtain ⟨apis, hapis, hlater⟩ := (Option.any_eq_true _ _).mp hlater
  simp only [Bool.and_eq_true, decide_eq_true_eq] at hlater
  obtain ⟨htypes, hresults, hchecked, hlength⟩ := hlater
  have hfresh : (create Document.sample {}).Fresh := ⟨rfl, rfl⟩
  obtain ⟨hcalls, hkept⟩ := hfresh.after_first (eq_ok_of_toOption hfirst)
  obtain ⟨hsetup, -⟩ := collects_of_calls hfresh hcalls
  have hbuilt := (Calls.build_eq_ok_iff hfresh hcalls).mpr (eq_ok_of_toOption hapis)
  have hbuilt₀ := (Calls.build_eq_ok_iff hfresh .nil).mpr (eq_ok_of_toOption hapis)
  have hdeclared : (build _ []).2.declared = _ := Calls.build_declared hfresh hcalls
  rw [hkept] at hdeclared
  have hnone : ∀ documents, ({ create Document.sample {} with operations := [] } :
      Generator).documents = .ok documents ↔ documents = [] :=
    fun _ => ⟨fun h => (Except.ok.inj h).symm, fun h => h ▸ rfl⟩
  refine ⟨os, _, apis, _, eq_ok_of_toOption hos, hcalls, hbuilt, htypes, ?_,
    (generateFor_eq_ok (hsetup.template.trans rfl) hbuilt).mpr ⟨[], ?_, ?_, rfl⟩, fun h => ?_⟩
  · rw [(generateFor_snd hbuilt).2, ← build_snd.1, hdeclared]
    exact hresults
  · rw [hsetup.documents, hnone]
  · rw [hsetup.textOf, hdeclared]
    exact Code.isModule_of_checked hchecked
  · obtain ⟨documents, hdoc, -, heq⟩ := (generateFor_eq_ok rfl hbuilt₀).mp h
    rw [(hnone documents).mp hdoc, hsetup.headers, hsetup.textOf, hdeclared,
      hfresh.build_declared] at heq
    exact hlength (congrArg (fun s : String => s.toByteArray.data.toList.length)
      (Header.putAll_inj heq))

end Generator
end ChainedSdk
