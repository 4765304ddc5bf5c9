/-
# Filters commute with scopes

Filters take operations away and do nothing else: what is left are the operations
whose names all filters keep, as they were and in their order (`runAll_eq_filter`).
So it does not matter in which order filters run.

Nor does it matter whether operations are filtered first and sorted into scopes then,
or the other way round: a scope looks at one operation at a time, as filters do
(`operations_visitAll_runAll`). What can change are the scopes. A chain key is there
as long as one operation has it, be it a parent or a child
(`mem_chainKeys_runAll`), and the root is always there. As leaving out operations
never makes a build fail, the APIs of what is left can be built where those of all
operations can, and each of them is that of its key without the operations that were
dropped.

Key definitions: `NameFilter.keepsAll`.
Key theorems: `NameFilter.runAll_eq_filter`, `Scope.operations_visitAll_runAll`,
`mem_chainKeys_runAll`, `filtering_commutes`.
-/
import ChainedSdk.Generator
import ChainedSdk.Proofs.Independence

namespace ChainedSdk

namespace NameFilter

/-- All filters keep the operation. -/
def keepsAll (fs : List NameFilter) (o : SdkOperation) : Bool :=
  fs.all fun f => f.keeps o.name

/-- **What filters leave** are the operations that all of them keep. -/
theorem runAll_eq_filter : ∀ (fs : List NameFilter) (os : List SdkOperation),
    runAll fs os = os.filter (keepsAll fs)
  | [], os => (List.filter_eq_self.mpr fun _ _ => rfl).symm
  | f :: fs, os => by
    have ih := runAll_eq_filter fs (f.run os)
    unfold runAll at ih ⊢
    rw [List.foldl_cons, ih]
    unfold run
    rw [List.filter_filter]
    refine List.filter_congr fun o _ => ?_
    rw [Bool.and_comm]
    rfl

/-- Filters can run in any order. -/
theorem runAll_perm {fs gs : List NameFilter} (h : fs.Perm gs) (os : List SdkOperation) :
    runAll fs os = runAll gs os := by
  rw [runAll_eq_filter, runAll_eq_filter]
  refine List.filter_congr fun o _ => ?_
  unfold keepsAll
  rw [Bool.eq_iff_iff, List.all_eq_true, List.all_eq_true]
  exact ⟨fun hall f hf => hall f (h.mem_iff.mpr hf), fun hall f hf => hall f (h.mem_iff.mp hf)⟩

end NameFilter

open NameFilter (keepsAll runAll)

/-- The operations that a generator goes on with are those that its filters leave. -/
theorem Generator.classify_eq_ok {g : Generator} {os : List SdkOperation}
    (h : (classifyAll g.config g.document).mapM (describe g.config) = .ok os) :
    g.classify.1 = .ok (runAll g.filters os) := by
  have hdescribed : ∀ rs, (g.report rs).described = .ok os := fun rs => by
    show ((classifyAll g.config g.document).mapM (describe g.config)).mapError _ = _
    rw [h]
    rfl
  unfold classify
  simp only [hdescribed]
  rfl

/-! ### Scopes -/

/-- **A scope of the operations that are left** has the operations of the scope that
are left. -/
theorem Scope.operations_visitAll_runAll {s : Scope} (hs : s.operations = [])
    (fs : List NameFilter) (os : List SdkOperation) :
    (s.visitAll (runAll fs os)).operations = (s.visitAll os).operations.filter (keepsAll fs) := by
  rw [visitAll_eq, visitAll_eq, NameFilter.runAll_eq_filter]
  simp only [hs, List.nil_append]
  exact List.filter_comm _ _ os

section Filters

variable {c : Config} {os : List SdkOperation} {fs : List NameFilter}

/-- A chain key is there as long as a parent or a child of it is. -/
theorem mem_chainKeys_runAll (hos : ∀ o ∈ os, Described c o) {key : String} :
    key ∈ chainKeys (runAll fs os) ↔
      ∃ o ∈ os, keepsAll fs o = true ∧ (o.role = .parent key ∨ o.role = .child key) := by
  have hkey : ∀ o ∈ os, present o.role.key? = some key ↔
      o.role = .parent key ∨ o.role = .child key := by
    intro o ho
    rw [(hos o ho).present_key?]
    cases o.role <;> simp [Role.key?]
  rw [mem_chainKeys, NameFilter.runAll_eq_filter]
  constructor
  · rintro ⟨o, ho, hk⟩
    obtain ⟨hmem, hkept⟩ := List.mem_filter.mp ho
    exact ⟨o, hmem, hkept, (hkey o hmem).mp hk⟩
  · rintro ⟨o, hmem, hkept, hrole⟩
    exact ⟨o, List.mem_filter.mpr ⟨hmem, hkept⟩, (hkey o hmem).mpr hrole⟩

/-- The API of a scope of what is left has the operations of the scope that are left. -/
theorem operations_of_filtered {s : Conventions} {key? : Option String} {a : ScopedApi}
    (h : (buildApi s (runAll fs os) key?).outcome = .ok a) :
    a.operations = (os.filter (Scope.accepts key?)).filter (keepsAll fs) := by
  rw [buildApi_operations h, NameFilter.runAll_eq_filter]
  exact List.filter_comm _ _ os

/-- **Filters commute with scopes.** Of the operations of a document, filters leave
those that all of them keep, in the order of the document and with their roles, in
whatever order the filters are run. The scopes of what is left are the root and the
keys of which a parent or a child is left, and each has the operations that it has in
the whole document, without those that were dropped. So it is for APIs: where those
of the whole document can be built, those of what is left can be, too. -/
theorem filtering_commutes {d : GraphQL.Document} (hd : d.WellNamed)
    (hos : (classifyAll c d).mapM (describe c) = .ok os) {gs : List NameFilter} (hfs : fs.Perm gs) :
    let kept := runAll fs os
    (∀ g : Generator, g.document = d → g.config = c → g.filters = fs ∨ g.filters = gs →
      g.classify.1 = .ok kept) ∧
    kept = os.filter (keepsAll fs) ∧ (∀ o ∈ kept, o.role = classify c o.definition) ∧
    (∀ s : Scope, s.operations = [] →
      (s.visitAll kept).operations = (s.visitAll os).operations.filter (keepsAll fs)) ∧
    (∀ key, key ∈ chainKeys kept ↔
      ∃ o ∈ os, keepsAll fs o = true ∧ (o.role = .parent key ∨ o.role = .child key)) ∧
    ∀ e : Declared, (∀ left, ((buildApis ⟨c, e.scalars⟩ kept).settle e).outcome = .ok left →
        left.map (·.key?) = none :: (chainKeys kept).map some ∧
        ∀ a ∈ left, a.operations = (os.filter (Scope.accepts a.key?)).filter (keepsAll fs)) ∧
      ∀ apis, ((buildApis ⟨c, e.scalars⟩ os).settle e).outcome = .ok apis →
        ∃ left, ((buildApis ⟨c, e.scalars⟩ kept).settle e).outcome = .ok left ∧
          ∀ a ∈ left, ∃ b ∈ apis, b.key? = a.key? ∧
            a.operations = b.operations.filter (keepsAll fs) := by
  intro kept
  have hdesc := described_of_mem hd hos
  have hkept : kept = os.filter (keepsAll fs) := NameFilter.runAll_eq_filter fs os
  have hsub : kept.Sublist os := hkept ▸ List.filter_sublist
  refine ⟨?_, hkept, fun o ho => (hdesc o (hsub.subset ho)).role_eq,
    fun s hs => Scope.operations_visitAll_runAll hs fs os, fun key => mem_chainKeys_runAll hdesc, ?_⟩
  · rintro g rfl rfl (rfl | rfl)
    · exact g.classify_eq_ok hos
    · rw [g.classify_eq_ok hos]
      exact congrArg Except.ok (NameFilter.runAll_perm hfs os).symm
  · refine fun e => ⟨fun left hleft => ?_, fun apis hapis => ?_⟩
    · obtain ⟨hleft, -⟩ := Emit.settle_outcome_eq_ok.mp hleft
      exact ⟨keys_of_buildApis hleft, fun a ha => operations_of_filtered (buildApi_of_mem hleft ha)⟩
    · obtain ⟨hapis, -⟩ := Emit.settle_outcome_eq_ok.mp hapis
      obtain ⟨left, hleft⟩ := exists_buildApis_of_sublist hsub hapis
      refine ⟨left, (settle_buildApis hleft e).1, fun a ha => ?_⟩
      have hscope : a.key? ∈ none :: (chainKeys os).map some := by
        refine scopes_subset hsub ?_
        rw [← keys_of_buildApis hleft]
        exact List.mem_map_of_mem ha
      obtain ⟨b, hb, hkey⟩ := exists_api hapis hscope
      refine ⟨b, hb, hkey, ?_⟩
      rw [operations_of_filtered (buildApi_of_mem hleft ha),
        buildApi_operations (buildApi_of_mem hapis hb), hkey]

end Filters

namespace NameFilter

/-- A filter that drops the parent of the sample, and one that drops an operation of
the root. -/
def sampleFilters : List NameFilter :=
  [{ refuseStart? := some "team" }, { refuseEnd? := some "Create", needStart? := some "" }]

end NameFilter

open GraphQL NameFilter in
/-- In the sample the parent is dropped and its child is left, whichever filter runs
first: its key still has a scope. -/
theorem sample_filtering : ∃ os left, Document.sample.WellNamed ∧
    (classifyAll {} Document.sample).mapM (describe {}) = .ok os ∧
    sampleFilters.Perm sampleFilters.reverse ∧
    ({ Generator.create Document.sample {} with filters := sampleFilters.reverse }).classify.1 =
      .ok (runAll sampleFilters os) ∧
    (runAll sampleFilters os).map (·.name) = ["viewer", "TeamIssues"] ∧
    ((buildApis ⟨{}, .withAliases []⟩ (runAll sampleFilters os)).settle
      { scalars := .withAliases [] }).outcome = .ok left ∧
    left.map (·.key?) = [none, some "team"] := by
  have hrun : (((classifyAll {} Document.sample).mapM (describe {})).toOption.any fun os =>
      decide ((runAll sampleFilters os).map (·.name) = ["viewer", "TeamIssues"]) &&
      (decide (chainKeys (runAll sampleFilters os) = ["team"]) &&
      ((buildApis ⟨{}, .withAliases []⟩ os).settle
        { scalars := .withAliases [] }).outcome.toOption.isSome)) = true := by decide +kernel
  obtain ⟨os, hos, hrun⟩ := (Option.any_eq_true _ _).mp hrun
  simp only [Bool.and_eq_true, decide_eq_true_eq] at hrun
  obtain ⟨hnames, hkeys, hbuilt⟩ := hrun
  obtain ⟨apis, hapis⟩ := Option.isSome_iff_exists.mp hbuilt
  have hos := eq_ok_of_toOption hos
  have hperm : sampleFilters.Perm sampleFilters.reverse := (List.reverse_perm _).symm
  obtain ⟨hclassify, -, -, -, -, hbuild⟩ :=
    filtering_commutes Document.sample_wellNamed hos hperm
  obtain ⟨hscopes, hleft⟩ := hbuild { scalars := .withAliases [] }
  obtain ⟨left, hleft, -⟩ := hleft apis (eq_ok_of_toOption hapis)
  refine ⟨os, left, Document.sample_wellNamed, hos, hperm, hclassify _ rfl rfl (Or.inr rfl), hnames,
    hleft, ?_⟩
  rw [(hscopes left hleft).1, hkeys]
  rfl

end ChainedSdk
