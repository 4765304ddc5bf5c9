/-
# What a call that fails leaves of a generator

A call can fail while the APIs are built, in the scope of any key and at any of its
methods, or after that, for a fragment that is not defined or a module that is not
well formed. A generator has nothing to go back to. Where the APIs could not be
built, it keeps the operations and APIs of the last call that built its own; where
they could, it has the operations it was given, and their APIs
(`generateFor_of_error`, `exists_generateFor_of_ok`). In both cases what was
declared stays as it was and in its place, and what the call came to before it failed
is declared as well (`Emit.reached_settle`, `leaves_buildApis`).

So a call that fails leaves no trace in what is declared only if it came to nothing
new. The same call fails again in the same way and leaves nothing more behind, but a
later call for other operations declares and imports what was left, though it builds
the APIs that it would have built without it. Its text is the one it would have been
exactly if all imports left are needed, and records and results make one text
together with the new ones (`carriesInto_generateFor`, `generateFor_failed`). After a
call for a parent has failed, the module of no operations declares the result of the
parent, which stands on a type that the module does not declare
(`failed_calls_remain`).

Key definitions: `Generator.Follows`, `Generator.after`, `Generator.Regular`,
`Generator.CarriesInto`.
Key theorems: `generateFor_again`, `carriesInto_generateFor`, `generateFor_failed`.
-/
import ChainedSdk.Proofs.Clashes

namespace ChainedSdk

namespace Declared

variable {s : Conventions} {os : List SdkOperation} {d d' : Declared}

theorem Grows.sameAnswers (h : d.Grows (s.StemsFrom os) d') : d.scalars.SameAnswers d'.scalars := by
  obtain ⟨added, hscalars, -⟩ := h.scalars
  rw [hscalars]
  exact ⟨rfl, rfl⟩

/-- Calls declare plain classes, also those that fail. -/
theorem Grows.plain (h : d.Grows (s.StemsFrom os) d') (hd : d.Plain) : d'.Plain := by
  obtain ⟨records, hrecords, hnewRecords⟩ := h.records
  obtain ⟨results, hresults, hnewResults⟩ := h.results
  constructor
  · intro r hr
    rw [hrecords] at hr
    rcases List.mem_append.mp hr with hr | hr
    · exact hd.records r hr
    · obtain ⟨o, -, name, -, heq⟩ := (hnewRecords r hr).2.2
      exact ⟨_, _, _, heq⟩
  · intro r hr
    rw [hresults] at hr
    rcases List.mem_append.mp hr with hr | hr
    · exact hd.results r hr
    · obtain ⟨o, -, key, -, -, heq⟩ := (hnewResults r hr).2
      unfold Conventions.resultDeclaration at heq
      cases htype : s.config.apiTypeName (some key) with
      | error e =>
        rw [htype] at heq
        cases heq
      | ok apiType =>
        rw [htype] at heq
        exact ⟨_, _, _, _, Except.ok.inj heq⟩

end Declared

namespace Generator

/-- The generator is set up as another one, and has declared what that one has and
what operations leave behind. -/
structure Follows (g' g : Generator) (os : List SdkOperation) : Prop where
  setup : g.SameSetup g'
  filters : g'.filters = g.filters
  filename : g'.filename = g.filename
  declared : g.declared.Grows (g.conventions.StemsFrom os) g'.declared

variable {g : Generator} {os : List SdkOperation} {apis : List ScopedApi} {e : GenerationError}

/-! ### The phases of a call -/

/-- A call whose APIs can be built keeps them and the operations, whether or not it
returns a text. -/
theorem exists_generateFor_of_ok (h : (g.build os).1 = .ok apis) : ∃ log,
    (g.generateFor os).2 = { (g.build os).2 with operations := os, apis, log } := by
  have hbuild : g.build os = (.ok apis, (g.build os).2) := Prod.ext h rfl
  unfold generateFor
  rw [hbuild]
  simp only
  cases (({ (g.build os).2 with operations := os, apis } : Generator).report
      [scopesLog apis]).checkedText with
  | error fault => exact ⟨_, rfl⟩
  | ok text => exact ⟨_, rfl⟩

theorem build_follows (g : Generator) (os : List SdkOperation) : (g.build os).2.Follows g os :=
  ⟨build_snd.2, rfl, rfl, (leaves_buildApis g.conventions os).settle g.declared⟩

theorem generateFor_follows (g : Generator) (os : List SdkOperation) :
    (g.generateFor os).2.Follows g os := by
  have hbuild := g.build_follows os
  cases h : (g.build os).1 with
  | error e =>
    rw [generateFor_of_error h]
    exact hbuild
  | ok apis =>
    obtain ⟨log, hlog⟩ := exists_generateFor_of_ok h
    rw [hlog]
    obtain ⟨⟨hdocument, hconfig, hheaders, htemplate⟩, hfilters, hfilename, hdeclared⟩ := hbuild
    exact ⟨⟨hdocument, hconfig, hheaders, htemplate⟩, hfilters, hfilename, hdeclared⟩

theorem generateFor_declared (g : Generator) (os : List SdkOperation) :
    (g.generateFor os).2.declared =
      ((buildApis g.conventions os).settle g.declared).declared := by
  cases h : (g.build os).1 with
  | error e =>
    rw [generateFor_of_error h]
    rfl
  | ok apis => exact (generateFor_snd h).2

/-! ### Calls after it -/

/-- After a call the same code is built as before it. -/
theorem Follows.buildApis_eq {g' : Generator} (h : g'.Follows g os) (ps : List SdkOperation) :
    buildApis g'.conventions ps = buildApis g.conventions ps := by
  unfold conventions
  rw [h.setup.config]
  exact buildApis_sameAnswers h.declared.sameAnswers ps

theorem build_after_eq_ok (g : Generator) (os ps : List SdkOperation) :
    ((g.generateFor os).2.build ps).1 = .ok apis ↔ (g.build ps).1 = .ok apis := by
  rw [build_eq_ok, build_eq_ok, (g.generateFor_follows os).buildApis_eq]
  constructor
  · intro h
    exact (settle_buildApis (Emit.settle_outcome_eq_ok.mp h).1 _).1
  · intro h
    exact (settle_buildApis (Emit.settle_outcome_eq_ok.mp h).1 _).1

/-- A call that was made builds the same when it is made again, and declares nothing
more. -/
theorem build_again (g : Generator) (os : List SdkOperation) :
    ((g.generateFor os).2.build os).1 = (g.build os).1 ∧
    ((g.generateFor os).2.build os).2.declared = (g.generateFor os).2.declared := by
  obtain ⟨houtcome, hdeclared⟩ := (buildApis g.conventions os).settle_settle g.declared
  rw [← generateFor_declared] at houtcome hdeclared
  constructor
  · have hagain : ((g.generateFor os).2.build os).1 =
        ((buildApis (g.generateFor os).2.conventions os).settle
          (g.generateFor os).2.declared).outcome.mapError .build := rfl
    rw [hagain, (g.generateFor_follows os).buildApis_eq, houtcome]
    rfl
  · rw [build_snd.1, (g.generateFor_follows os).buildApis_eq]
    exact hdeclared

/-- A call that was made comes to the same when it is made again. -/
theorem generateFor_again (g : Generator) (os : List SdkOperation) :
    ((g.generateFor os).2.generateFor os).1 = (g.generateFor os).1 ∧
    ((g.generateFor os).2.generateFor os).2.operations = (g.generateFor os).2.operations ∧
    ((g.generateFor os).2.generateFor os).2.apis = (g.generateFor os).2.apis ∧
    ((g.generateFor os).2.generateFor os).2.declared = (g.generateFor os).2.declared := by
  obtain ⟨hbuild, hdeclared⟩ := g.build_again os
  cases h : (g.build os).1 with
  | error e =>
    have hagain : ((g.generateFor os).2.build os).1 = .error e := hbuild.trans h
    rw [generateFor_of_error hagain]
    refine ⟨?_, rfl, rfl, hdeclared⟩
    rw [generateFor_of_error h]
  | ok apis =>
    have hagain : ((g.generateFor os).2.build os).1 = .ok apis := hbuild.trans h
    have hfirst : g.build os = (.ok apis, (g.build os).2) := Prod.ext h rfl
    have hsecond : (g.generateFor os).2.build os = (.ok apis, ((g.generateFor os).2.build os).2) :=
      Prod.ext hagain rfl
    obtain ⟨hsetup, hfilters, hfilename, -⟩ := g.generateFor_follows os
    obtain ⟨⟨hdocument, hconfig, hheaders, htemplate⟩, -⟩ := g.build_follows os
    obtain ⟨log, hlog⟩ := exists_generateFor_of_ok h
    obtain ⟨log', hlog'⟩ := exists_generateFor_of_ok hagain
    -- both times the text is made from the same declarations, operations and APIs
    have htext : ({ ((g.generateFor os).2.build os).2 with operations := os, apis } :
        Generator).checkedText =
        ({ (g.build os).2 with operations := os, apis } : Generator).checkedText := by
      refine checkedText_congr ⟨?_, ?_, ?_, ?_⟩ ?_ ?_ rfl rfl
      · exact hsetup.document
      · exact hsetup.config
      · exact hsetup.headers
      · exact hsetup.template
      · exact hfilename
      · exact hdeclared.trans (generateFor_declared g os)
    refine ⟨?_, ?_, ?_, ?_⟩
    · rw [(generateFor_of_build hsecond).1, (generateFor_of_build hfirst).1, htext]
      have hput : ((g.generateFor os).2.build os).2.headers = (g.build os).2.headers :=
        hsetup.headers
      rw [hput]
    · rw [hlog', hlog]
    · rw [hlog', hlog]
    · rw [hlog']
      exact hdeclared

/-! ### The module of a later call -/

/-- The generator after calls, those that fail included. -/
def after (g : Generator) (calls : List (List SdkOperation)) : Generator :=
  calls.foldl (fun g os => (g.generateFor os).2) g

/-- The generator has registered no handlers, and has declared what calls declare. -/
structure Regular (g : Generator) : Prop where
  plain : g.declared.Plain
  answers : g.config.conventions.scalars.SameAnswers g.declared.scalars

theorem Fresh.regular (h : g.Fresh) : g.Regular := by
  refine ⟨?_, ?_⟩
  · rw [h.declared]
    exact ⟨fun r hr => absurd hr (by simp), fun r hr => absurd hr (by simp)⟩
  · rw [h.declared]
    exact ⟨rfl, rfl⟩

theorem Regular.generateFor (h : g.Regular) (os : List SdkOperation) :
    (g.generateFor os).2.Regular := by
  have hfollows := g.generateFor_follows os
  refine ⟨hfollows.declared.plain h.plain, ?_⟩
  rw [hfollows.setup.config]
  exact h.answers.trans hfollows.declared.sameAnswers

/-- Calls keep a generator regular, and do not change its template. -/
theorem Regular.after : ∀ {calls : List (List SdkOperation)} {g : Generator}, g.Regular →
    (g.after calls).Regular ∧ (g.after calls).template? = g.template?
  | [], _, h => ⟨h, rfl⟩
  | os :: _, g, h => by
    obtain ⟨hregular, htemplate⟩ := Regular.after (h.generateFor os)
    exact ⟨hregular, htemplate.trans (g.generateFor_follows os).setup.template⟩

theorem Regular.line_of_mem_usedImports (h : g.Regular) :
    ∀ line ∈ g.declared.scalars.usedImports, line ≠ "" ∧ '\n' ∉ line.toList :=
  fun _ => ScalarRegistry.line_of_mem_usedImports h.answers.handlers

/-- Building does not depend on what has been declared. -/
theorem Regular.buildApis_eq (h : g.Regular) (os : List SdkOperation) :
    buildApis g.conventions os = buildApis g.config.conventions os :=
  buildApis_sameAnswers h.answers os

theorem Regular.build_eq_ok (h : g.Regular) (hbuilt : (g.build os).1 = .ok apis) :
    (buildApis g.config.conventions os).outcome = .ok apis := by
  rw [Generator.build_eq_ok, h.buildApis_eq] at hbuilt
  exact (Emit.settle_outcome_eq_ok.mp hbuilt).1

/-- A call adds what its operations declare by themselves to what has been declared. -/
theorem Regular.generateFor_eq_append (h : g.Regular) (hbuilt : (g.build os).1 = .ok apis) :
    let own := ownDeclared g.config.conventions os
    (g.generateFor os).2.declared.records =
      g.declared.records ++ own.records.filter (fun r => r.1 ∉ g.declared.records.map (·.1)) ∧
    (g.generateFor os).2.declared.results =
      g.declared.results ++ own.results.filter (fun r => r.1 ∉ g.declared.results.map (·.1)) := by
  intro own
  rw [generateFor_declared, h.buildApis_eq]
  exact settle_buildApis_eq_append (h.build_eq_ok hbuilt) g.declared

theorem SameSetup.symm {g' : Generator} (h : g.SameSetup g') : g'.SameSetup g :=
  ⟨h.document.symm, h.config.symm, h.headers.symm, h.template.symm⟩

/-- Two generators set up alike, one of which returns a text, come to the same exactly
if they have declared the same imports and the same sections. -/
theorem generateFor_eq_iff {g' : Generator} (ht : g.template? = none) (hg : g.Regular)
    (hg' : g'.Regular) (hsetup : g.SameSetup g') (hbuilt : (g.build os).1 = .ok apis)
    (hbuilt' : (g'.build os).1 = .ok apis) {text : String}
    (htext : (g'.generateFor os).1 = .ok text ∨ (g.generateFor os).1 = .ok text) :
    (g'.generateFor os).1 = (g.generateFor os).1 ↔
      (g'.generateFor os).2.declared.scalars.usedImports =
        (g.generateFor os).2.declared.scalars.usedImports ∧
      (g'.generateFor os).2.declared.sections apis =
        (g.generateFor os).2.declared.sections apis := by
  have hlines := (hg.generateFor os).line_of_mem_usedImports
  have hlines' := (hg'.generateFor os).line_of_mem_usedImports
  have hdeclared : (g.generateFor os).2.declared = (g.build os).2.declared :=
    (generateFor_snd hbuilt).2
  have hdeclared' : (g'.generateFor os).2.declared = (g'.build os).2.declared :=
    (generateFor_snd hbuilt').2
  rw [hdeclared] at hlines ⊢
  rw [hdeclared'] at hlines' ⊢
  rcases htext with htext | htext
  · rw [htext, eq_comm]
    exact generateFor_eq_ok_iff ht hsetup hbuilt hbuilt' hlines' hlines htext
  · have ht' : g'.template? = none := hsetup.template.trans ht
    rw [htext, generateFor_eq_ok_iff ht' hsetup.symm hbuilt' hbuilt hlines hlines' htext]
    exact and_congr eq_comm eq_comm

/-- The imports left make no difference to a later call exactly if it needs them. -/
theorem Follows.usedImports_eq_iff {left : Generator} {ps : List SdkOperation}
    (h : left.Follows g os) (hbuilt : (g.build ps).1 = .ok apis) :
    (left.generateFor ps).2.declared.scalars.usedImports =
        (g.generateFor ps).2.declared.scalars.usedImports ↔
      ∀ line ∈ left.declared.scalars.usedImports,
        line ∈ (g.generateFor ps).2.declared.scalars.usedImports := by
  have hok := (Emit.settle_outcome_eq_ok.mp (build_eq_ok.mp hbuilt)).1
  obtain ⟨-, -, -, names, hleft, hown⟩ := settle_buildApis hok left.declared
  obtain ⟨-, -, -, _, hbefore, hown'⟩ := settle_buildApis hok g.declared
  have hbefore : (g.generateFor ps).2.declared.scalars = g.declared.scalars.markAll names := by
    rw [generateFor_declared, hbefore]
    exact hown'.symm.trans hown
  obtain ⟨added, hscalars, -⟩ := h.declared.scalars
  have hused : g.declared.scalars.used ⊆ left.declared.scalars.used := by
    rw [hscalars]
    exact List.subset_append_left _ _
  rw [generateFor_declared, h.buildApis_eq, hleft, hbefore]
  exact ScalarRegistry.usedImports_markAll_eq_iff h.declared.sameAnswers.handlers.symm hused

/-- What is left of a generator is carried into the module of a later call, for operations
with these APIs: it is declared before all that has a new name, and the call comes to
what it would have come to before exactly if each import that is left is needed, and the
classes that are left make no difference to the text. -/
structure CarriesInto (left g : Generator) (ps : List SdkOperation) (apis : List ScopedApi) :
    Prop where
  built : (left.build ps).1 = .ok apis
  records : (left.generateFor ps).2.declared.records = left.declared.records ++
    (ownDeclared g.config.conventions ps).records.filter
      fun r => r.1 ∉ left.declared.records.map (·.1)
  results : (left.generateFor ps).2.declared.results = left.declared.results ++
    (ownDeclared g.config.conventions ps).results.filter
      fun r => r.1 ∉ left.declared.results.map (·.1)
  text : ∀ text, (left.generateFor ps).1 = .ok text ∨ (g.generateFor ps).1 = .ok text →
    ((left.generateFor ps).1 = (g.generateFor ps).1 ↔
      (∀ line ∈ left.declared.scalars.usedImports,
        line ∈ (g.generateFor ps).2.declared.scalars.usedImports) ∧
      (left.generateFor ps).2.declared.sections apis =
        (g.generateFor ps).2.declared.sections apis)
  sections : '\n' ∉ g.config.apiRootType.toList →
    (∀ r ∈ (left.generateFor ps).2.declared.records ++ (left.generateFor ps).2.declared.results ++
      (g.generateFor ps).2.declared.records ++ (g.generateFor ps).2.declared.results, r.2.Lined) →
    ((left.generateFor ps).2.declared.sections apis =
        (g.generateFor ps).2.declared.sections apis ↔
      (left.generateFor ps).2.declared.recordTexts = (g.generateFor ps).2.declared.recordTexts ∧
      (left.generateFor ps).2.declared.resultTexts = (g.generateFor ps).2.declared.resultTexts)

/-- **What a call leaves** is carried into the modules of all later calls, whether or not
it failed. -/
theorem carriesInto_generateFor (ht : g.template? = none) (hg : g.Regular)
    (os : List SdkOperation) {ps : List SdkOperation} (hbuilt : (g.build ps).1 = .ok apis) :
    (g.generateFor os).2.CarriesInto g ps apis := by
  have hfollows := g.generateFor_follows os
  have hleft := hg.generateFor os
  have hbuilt' := (g.build_after_eq_ok os ps).mpr hbuilt
  obtain ⟨hrecords, hresults⟩ := hleft.generateFor_eq_append hbuilt'
  rw [hfollows.setup.config] at hrecords hresults
  refine ⟨hbuilt', hrecords, hresults, fun text htext => ?_, fun hroot hlined => ?_⟩
  · rw [generateFor_eq_iff ht hg hleft hfollows.setup hbuilt hbuilt' htext,
      hfollows.usedImports_eq_iff hbuilt]
  · exact sections_eq_iff (hg.build_eq_ok hbuilt) hroot (hleft.generateFor ps).plain
      (hg.generateFor ps).plain hlined

/-! ### A call that fails -/

/-- What a call declares are the effects it comes to, which are all effects of building
or those before a declaration that fails. It leaves no trace in what is declared exactly
if all of them had been declared before. -/
theorem exists_effects_of_generateFor (g : Generator) (os : List SdkOperation) :
    let left := (g.generateFor os).2
    ∃ done rest, (buildApis g.conventions os).effects = done ++ rest ∧
      (rest = [] ∨ ∃ effect more fault, rest = effect :: more ∧
        left.declared.absorb effect = .error fault) ∧
      g.declared.absorbAll done = .ok left.declared ∧
      (left.declared = g.declared ↔ ∀ effect ∈ done, g.declared.Holds effect) := by
  intro left
  obtain ⟨done, rest, heffects, hdone, hend⟩ :=
    (buildApis g.conventions os).reached_settle g.declared
  rw [← generateFor_declared] at hdone hend
  refine ⟨done, rest, heffects, ?_, hdone, fun h => ?_, fun h => ?_⟩
  · rcases hend with ⟨hrest, -⟩ | ⟨effect, more, fault, hrest, hfault, -⟩
    · exact .inl hrest
    · exact .inr ⟨effect, more, fault, hrest, hfault⟩
  · rw [← h]
    exact Declared.holds_of_absorbAll hdone
  · exact Except.ok.inj (hdone.symm.trans (Declared.absorbAll_of_holds h))

/-- **A call that fails** leaves the operations and APIs as they were if the APIs
could not be built; if they could, it has left the operations of the call and
their APIs. What was declared is declared, unchanged and in its place, and what the
call came to before it failed follows; so what is declared is the same as before exactly
if all of that had been declared. When the call is made again, it fails in the same way
and leaves nothing more behind. All other calls build the APIs that they would have
built without it, and what it left of a generator that has only been called before is
carried into their modules. -/
theorem generateFor_failed (h : (g.generateFor os).1 = .error e) :
    let left := (g.generateFor os).2
    left.Follows g os ∧
    (∀ fault, (g.build os).1 = .error fault →
      fault = e ∧ left.operations = g.operations ∧ left.apis = g.apis) ∧
    (∀ apis, (g.build os).1 = .ok apis → left.operations = os ∧ left.apis = apis) ∧
    (∃ done rest, (buildApis g.conventions os).effects = done ++ rest ∧
      (rest = [] ∨ ∃ effect more fault, rest = effect :: more ∧
        left.declared.absorb effect = .error fault) ∧
      g.declared.absorbAll done = .ok left.declared ∧
      (left.declared = g.declared ↔ ∀ effect ∈ done, g.declared.Holds effect)) ∧
    ((left.generateFor os).1 = .error e ∧
      (left.generateFor os).2.operations = left.operations ∧
      (left.generateFor os).2.apis = left.apis ∧
      (left.generateFor os).2.declared = left.declared) ∧
    (∀ ps apis, (left.build ps).1 = .ok apis ↔ (g.build ps).1 = .ok apis) ∧
    ∀ g₀ calls, Fresh g₀ → g = g₀.after calls → ∀ ps apis, (g.build ps).1 = .ok apis →
      left.CarriesInto g ps apis := by
  intro left
  obtain ⟨hagain, hremains⟩ := g.generateFor_again os
  refine ⟨g.generateFor_follows os, fun fault hfault => ?_, fun apis hapis => ?_,
    g.exists_effects_of_generateFor os, ⟨hagain.trans h, hremains⟩,
    fun ps apis => g.build_after_eq_ok os ps, ?_⟩
  · have hcall := generateFor_of_error hfault
    rw [hcall] at h
    refine ⟨Except.error.inj h, ?_, ?_⟩
    · show (g.generateFor os).2.operations = g.operations
      rw [hcall]
      rfl
    · show (g.generateFor os).2.apis = g.apis
      rw [hcall]
      rfl
  · obtain ⟨log, hlog⟩ := exists_generateFor_of_ok hapis
    have hleft : left = { (g.build os).2 with operations := os, apis, log } := hlog
    rw [hleft]
    exact ⟨rfl, rfl⟩
  · rintro g₀ calls hfresh rfl ps apis hbuilt
    obtain ⟨hregular, htemplate⟩ := hfresh.regular.after
    exact carriesInto_generateFor (htemplate.trans hfresh.template) hregular os hbuilt

end Generator

namespace GraphQL

/-- A document whose parent spreads a fragment that is not defined. -/
def Document.unfinished : Document :=
  ⟨[.operation (.sampleParent [.spread "Missing" []])]⟩

end GraphQL

namespace Generator

open GraphQL (Document)

/-- What a call for the parent leaves in a generator that had nothing. -/
def leftByParent (left : Generator) : Bool :=
  decide (left.declared.records.map (·.1) = ["TeamQueryVariablesWithoutId"] ∧
    left.declared.results.map (·.1) = ["TeamQueryResult"] ∧
    left.declared.scalars.used = ["DateTime"])

/-- A call for all operations of a document that fails, and what it leaves. -/
theorem exists_failed_call {document : Document} {e : GenerationError}
    {leaves : Generator → Bool}
    (h : ((create document {}).described.toOption.any fun os =>
      decide (fault? ((create document {}).generateFor os).1 = some e) &&
        leaves ((create document {}).generateFor os).2) = true) :
    ∃ os left, (create document {}).described = .ok os ∧
      (create document {}).generateFor os = (.error e, left) ∧ leaves left = true := by
  obtain ⟨os, hos, hcall⟩ := (Option.any_eq_true _ _).mp h
  rw [Bool.and_eq_true, decide_eq_true_eq] at hcall
  exact ⟨os, _, eq_ok_of_toOption hos, Prod.ext (eq_error_of_fault? hcall.1) rfl, hcall.2⟩

theorem unfinished_call : ∃ os left, (create Document.unfinished {}).described = .ok os ∧
    (create Document.unfinished {}).generateFor os =
      (.error (.unknownFragment "Missing" "team"), left) ∧
    left.operations.map (·.name) = ["team"] ∧ left.apis.map (·.typeName) = ["Sdk", "TeamSdk"] ∧
    left.leftByParent = true := by
  obtain ⟨os, left, hos, hcall, hleft⟩ : ∃ os left,
      (create Document.unfinished {}).described = .ok os ∧
      (create Document.unfinished {}).generateFor os =
        (.error (.unknownFragment "Missing" "team"), left) ∧
      decide (left.operations.map (·.name) = ["team"] ∧
        left.apis.map (·.typeName) = ["Sdk", "TeamSdk"] ∧ left.leftByParent = true) = true :=
    exists_failed_call (by decide +kernel)
  exact ⟨os, left, hos, hcall, of_decide_eq_true hleft⟩

theorem clashing_call : ∃ os left, (create Document.clashing {}).described = .ok os ∧
    (create Document.clashing {}).generateFor os =
      (.error (.build (.clash "viewer" "Viewer" "viewer" "create_raw_sdk")), left) ∧
    left.leftByParent = true :=
  exists_failed_call (by decide +kernel)

theorem declared_ne_of_leftByParent {before left : Generator} (h : left.leftByParent = true)
    (hnew : before.declared = { scalars := before.config.conventions.scalars }) :
    left.declared.records ≠ before.declared.records ∧
    left.declared.results ≠ before.declared.results ∧
    left.declared.scalars.used ≠ before.declared.scalars.used := by
  obtain ⟨hrecords, hresults, hused⟩ := of_decide_eq_true h
  rw [hnew]
  refine ⟨fun heq => ?_, fun heq => ?_, fun heq => ?_⟩
  · rw [heq] at hrecords
    cases hrecords
  · rw [heq] at hresults
    cases hresults
  · rw [heq] at hused
    cases hused

/-- A module was generated that declares the result of the parent, though its type is not
one of those of the APIs, and imports the scalar of the parent. -/
def showsParent (apis : List ScopedApi) (d : Declared) : Bool :=
  decide (apis.map (·.typeName) = ["Sdk"] ∧
    d.results.map (fun r => (r.1, r.2.bases)) = [("TeamQueryResult", ["TeamSdk", "Protocol"])] ∧
    d.scalars.usedImports = ["from datetime import datetime"])

/-- After the call for the unknown fragment there is a text of the module of no operations. -/
theorem unfinished_later {os : List SdkOperation} {left : Generator} {e : GenerationError}
    (hos : (create Document.unfinished {}).described = .ok os)
    (hcall : (create Document.unfinished {}).generateFor os = (.error e, left)) :
    ∃ apis text, ((create Document.unfinished {}).build []).1 = .ok apis ∧
      (left.generateFor []).1 = .ok text ∧
      showsParent apis (left.generateFor []).2.declared = true ∧
      ((create Document.unfinished {}).generateFor []).2.declared.scalars.usedImports = [] := by
  have hrun : ((create Document.unfinished {}).described.toOption.any fun os =>
      let before := create Document.unfinished {}
      let left := (before.generateFor os).2
      let later := (left.build []).2.declared
      (before.build []).1.toOption.any fun apis => showsParent apis later &&
        (decide ((before.build []).2.declared.scalars.usedImports = []) &&
        Code.Checked (left.textOf [] apis later).toByteArray.data.toList)) = true := by
    decide +kernel
  obtain ⟨os', hos', hrun⟩ := (Option.any_eq_true _ _).mp hrun
  obtain rfl : os' = os := Except.ok.inj ((eq_ok_of_toOption hos').symm.trans hos)
  obtain ⟨apis, hapis, hrun⟩ := (Option.any_eq_true _ _).mp hrun
  simp only [hcall, Bool.and_eq_true, decide_eq_true_eq] at hrun
  obtain ⟨hshows, hnone, hchecked⟩ := hrun
  have hleft : ((create Document.unfinished {}).generateFor os').2 = left := congrArg Prod.snd hcall
  have hbuilt := eq_ok_of_toOption hapis
  have hbuilt' := ((create Document.unfinished {}).build_after_eq_ok os' []).mpr hbuilt
  have hsetup := ((create Document.unfinished {}).generateFor_follows os').setup
  rw [hleft] at hbuilt' hsetup
  have hdocuments : ({ left with operations := [] } : Generator).documents = .ok [] := by
    rw [hsetup.documents]
    rfl
  have htext := (generateFor_eq_ok hsetup.template hbuilt').mpr
    ⟨[], hdocuments, Code.isModule_of_checked hchecked, rfl⟩
  refine ⟨apis, _, hbuilt, htext, ?_, ?_⟩
  · rw [generateFor_declared]
    exact hshows
  · rw [generateFor_declared]
    exact hnone

/-- **Traces.** A new generator that fails for an unknown fragment has the operation
and its APIs, its record and result, and the scalar that it uses. A later call for no
operations returns a module that declares the result, which stands on a type that the
module does not declare, and imports the scalar; before it would have returned another
one, without imports. A generator that fails because two methods have one name has no
operations and no APIs, but the record, the result and the scalar of the operation
before them. -/
theorem failed_calls_remain :
    (∃ os left, (create Document.unfinished {}).described = .ok os ∧
      (create Document.unfinished {}).generateFor os =
        (.error (.unknownFragment "Missing" "team"), left) ∧
      let before := create Document.unfinished {}
      left.operations ≠ before.operations ∧ left.apis ≠ before.apis ∧
      left.declared.records ≠ before.declared.records ∧
      left.declared.results ≠ before.declared.results ∧
      left.declared.scalars.used ≠ before.declared.scalars.used ∧
      ∃ apis text, (left.build []).1 = .ok apis ∧ (left.generateFor []).1 = .ok text ∧
        showsParent apis (left.generateFor []).2.declared = true ∧
        (before.generateFor []).1 ≠ .ok text) ∧
    (∃ os left, (create Document.clashing {}).described = .ok os ∧
      (create Document.clashing {}).generateFor os =
        (.error (.build (.clash "viewer" "Viewer" "viewer" "create_raw_sdk")), left) ∧
      let before := create Document.clashing {}
      left.declared.records ≠ before.declared.records ∧
      left.declared.results ≠ before.declared.results ∧
      left.declared.scalars.used ≠ before.declared.scalars.used) := by
  constructor
  · obtain ⟨os, left, hos, hcall, hoperations, hapis, hleft⟩ := unfinished_call
    obtain ⟨apis, text, hbuilt, htext, hshows, hnone⟩ := unfinished_later hos hcall
    have hfresh : (create Document.unfinished {}).Fresh := ⟨rfl, rfl⟩
    have hcarries := carriesInto_generateFor hfresh.template hfresh.regular os hbuilt
    have hfollows := (create Document.unfinished {}).generateFor_follows os
    rw [hcall] at hcarries hfollows
    obtain ⟨hrecords, hresults, hused⟩ := declared_ne_of_leftByParent hleft hfresh.declared
    refine ⟨os, left, hos, hcall, fun h => ?_, fun h => ?_, hrecords, hresults, hused, apis, text,
      hcarries.built, htext, hshows, fun h => ?_⟩
    · rw [h] at hoperations
      cases hoperations
    · rw [h] at hapis
      cases hapis
    · -- the module before has no imports, so the one that is left is not needed
      have hneeded := ((hcarries.text text (.inl htext)).mp (htext.trans h.symm)).1
      have himports := (hfollows.usedImports_eq_iff hbuilt).mpr hneeded
      obtain ⟨-, -, hline⟩ := of_decide_eq_true hshows
      rw [hnone, hline] at himports
      cases himports
  · obtain ⟨os, left, hos, hcall, hleft⟩ := clashing_call
    exact ⟨os, left, hos, hcall, declared_ne_of_leftByParent hleft rfl⟩

/-- When the call for the unknown fragment is made again, it fails again, and what it
left is carried into the module of no operations. -/
theorem unfinished_fails_again : ∃ os left apis,
    (create Document.unfinished {}).generateFor os =
      (.error (.unknownFragment "Missing" "team"), left) ∧
    left.Follows (create Document.unfinished {}) os ∧
    (left.generateFor os).1 = .error (.unknownFragment "Missing" "team") ∧
    (left.generateFor os).2.operations.map (·.name) = ["team"] ∧
    apis.map (·.typeName) = ["Sdk"] ∧ left.CarriesInto (create Document.unfinished {}) [] apis := by
  obtain ⟨os, left, hos, hcall, hnames, -⟩ := unfinished_call
  obtain ⟨apis, -, hbuilt, -, hshows, -⟩ := unfinished_later hos hcall
  obtain ⟨hfollows, -, -, -, ⟨hagain, hoperations, -⟩, -, hcarries⟩ :=
    generateFor_failed (congrArg Prod.fst hcall)
  have hcarries := hcarries (create Document.unfinished {}) [] ⟨rfl, rfl⟩ rfl [] apis hbuilt
  rw [hcall] at hfollows hagain hoperations hcarries
  refine ⟨os, left, apis, hcall, hfollows, hagain, ?_, (of_decide_eq_true hshows).1, hcarries⟩
  rw [hoperations]
  exact hnames

end Generator
end ChainedSdk
