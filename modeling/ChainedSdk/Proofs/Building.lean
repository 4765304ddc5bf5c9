/-
# Building does not look back

While APIs are built it is not looked at which scalars were used before
(`buildApis_withUsed`), nor what is declared: whatever was declared stays, and
what the operations declare by themselves is added under names that are new
(`settle_buildApis`). If the APIs can be built, so can all that they declare,
wherever they are built, since the type of the API that a result stands on has
been named by then (`result_of_mem_effects`).

Key definitions: `Conventions.varied`, `Conventions.withUsed`, `ownDeclared`.
Key theorems: `buildApis_withUsed`, `result_of_mem_effects`, `settle_buildApis`.
-/
import ChainedSdk.Proofs.Imports
import ChainedSdk.Proofs.References

namespace ChainedSdk

open Code (ClassDecl)

/-! ### What is not looked at -/

namespace Conventions

/-- The conventions with another name of the SDK, after other scalars were used. -/
def varied (s : Conventions) (sdkName : String) (used : List String) : Conventions :=
  ⟨{ s.config with sdkName }, { s.scalars with used }⟩

/-- The conventions after other scalars were used. -/
def withUsed (s : Conventions) (used : List String) : Conventions :=
  { s with scalars := { s.scalars with used } }

variable (s : Conventions) (sdkName : String) (used : List String)

theorem refHint_varied : ∀ (t : GraphQL.TypeRef) (nullable : Bool),
    (s.varied sdkName used).refHint nullable t = s.refHint nullable t
  | .nonNull inner, _ => refHint_varied inner false
  | .list item, nullable => by
    unfold refHint
    rw [refHint_varied item true]
  | .named name, nullable => rfl

theorem omitRecord_varied (o : SdkOperation) (name : String) :
    (s.varied sdkName used).omitRecord o name = s.omitRecord o name := by
  have hfield : (s.varied sdkName used).variableField = s.variableField := by
    funext v
    unfold variableField variableHint
    rw [refHint_varied]
  unfold omitRecord
  rw [hfield]
  rfl

theorem declareOmit_varied (o : SdkOperation) :
    (s.varied sdkName used).declareOmit o = s.declareOmit o := by
  unfold declareOmit
  simp only [omitRecord_varied]
  rfl

/-- Arguments depend neither on the name of the SDK nor on the scalars used before. -/
theorem operationArgs_varied (o : SdkOperation) :
    (s.varied sdkName used).operationArgs o = s.operationArgs o := by
  unfold operationArgs
  rw [declareOmit_varied]
  rfl

theorem operationArgs_withUsed (o : SdkOperation) :
    (s.withUsed used).operationArgs o = s.operationArgs o :=
  s.operationArgs_varied s.config.sdkName used o

theorem method_withUsed (o : SdkOperation) (name : String) :
    (s.withUsed used).method o name = s.method o name := by
  unfold method
  rw [operationArgs_withUsed]
  rfl

end Conventions

theorem members_withUsed (s : Scope) (used : List String) (names : List String) :
    ∀ (taken : List (String × SdkOperation)) (os : List SdkOperation),
    Scope.members { s with conventions := s.conventions.withUsed used } names taken os =
      s.members names taken os
  | _, [] => rfl
  | taken, o :: os => by
    unfold Scope.members
    simp only [Conventions.method_withUsed, members_withUsed s used names]

theorem buildApis_withUsed (s : Conventions) (used : List String) (os : List SdkOperation) :
    buildApis (s.withUsed used) os = buildApis s os := by
  have hbuild : ∀ t : Scope, Scope.build { t with conventions := t.conventions.withUsed used } =
      t.build := by
    intro t
    unfold Scope.build
    simp only [members_withUsed]
    rfl
  have hvisit : ∀ (os : List SdkOperation) (t : Scope),
      Scope.visitAll { t with conventions := t.conventions.withUsed used } os =
        { t.visitAll os with conventions := (t.visitAll os).conventions.withUsed used } := by
    intro os t
    rw [Scope.visitAll_eq, Scope.visitAll_eq]
  have hapi : buildApi (s.withUsed used) os = buildApi s os := by
    funext key?
    have hscope : ∀ functionName typeName,
        (Scope.visitAll ⟨s.withUsed used, key?, functionName, typeName, []⟩ os).build =
          (Scope.visitAll ⟨s, key?, functionName, typeName, []⟩ os).build := fun functionName typeName =>
      (congrArg Scope.build (hvisit os ⟨s, key?, functionName, typeName, []⟩)).trans (hbuild _)
    unfold buildApi Scope.empty
    simp only [bind_assoc, pure_bind, hscope]
    rfl
  unfold buildApis
  rw [hapi]

/-! ### What operations declare -/

section Declarations

variable {s : Conventions} {os : List SdkOperation} {apis : List ScopedApi}

/-- What APIs declare is declared by a method of one of the operations. -/
theorem method_of_mem_effects (h : (buildApis s os).outcome = .ok apis) {e : Effect BuildError}
    (he : e.Declares) (hm : e ∈ (buildApis s os).effects) : ∃ o ∈ os, ∃ args,
      (s.operationArgs o).outcome = .ok args ∧ (e ∈ (s.operationArgs o).effects ∨
        ∃ key result, present o.role.parentKey? = some key ∧
          e = .result result (s.resultDeclaration o key result)) := by
  obtain ⟨a, ha, o, ho, hm⟩ := (declares_buildApis_iff h he).mp hm
  have hbuilt := buildApi_of_mem h ha
  obtain ⟨f, hf⟩ := exists_method hbuilt ho
  have hmethod := method_of_mem hbuilt hf
  obtain ⟨args, returns, body, hargs, -⟩ := Conventions.method_outcome_eq_ok.mp hmethod
  rw [buildApi_operations hbuilt] at ho
  refine ⟨o, List.mem_of_mem_filter ho, args, hargs, ?_⟩
  rcases (Conventions.mem_method_effects hmethod he).mp hm with hm | ⟨key, result, hkey, -, hm⟩
  · exact Or.inl hm
  · exact Or.inr ⟨key, result, hkey, hm⟩

theorem record_of_mem_effects (h : (buildApis s os).outcome = .ok apis) {d : ClassDecl}
    (hm : .record d ∈ (buildApis s os).effects) : ∃ o name, d = s.omitRecord o name := by
  obtain ⟨o, -, args, hargs, hm | ⟨_, _, -, hm⟩⟩ := method_of_mem_effects h declares_record hm
  · obtain ⟨record, hd, -⟩ := (Conventions.mem_operationArgs_effects hargs declares_record).mp hm
    cases hd
    exact ⟨o, record, rfl⟩
  · cases hm

/-- **Results can be declared.** The declaration of a result is worked out from
the name of the type of an API that is built, too. -/
theorem result_of_mem_effects (h : (buildApis s os).outcome = .ok apis) {name : String}
    {declaration : Except BuildError ClassDecl}
    (hm : .result name declaration ∈ (buildApis s os).effects) :
    ∃ o key apiType, declaration = .ok (s.resultProtocol o key name apiType) := by
  obtain ⟨o, ho, args, hargs, hm | ⟨key, result, hkey, hm⟩⟩ :=
    method_of_mem_effects h declares_result hm
  · obtain ⟨record, hd, -⟩ := (Conventions.mem_operationArgs_effects hargs declares_result).mp hm
    cases hd
  · injection hm with hname hdecl
    subst hname
    have hchain : key ∈ chainKeys os := by
      refine mem_chainKeys.mpr ⟨o, ho, ?_⟩
      cases hr : o.role with
      | parent k => rw [hr] at hkey; exact hkey
      | root => rw [hr] at hkey; cases hkey
      | child k => rw [hr] at hkey; cases hkey
    obtain ⟨api, hapi, hak⟩ :=
      exists_api h (List.mem_cons_of_mem _ (List.mem_map.mpr ⟨key, hchain, rfl⟩))
    have htype := (api_names (buildApi_of_mem h hapi)).2.1
    rw [hak] at htype
    refine ⟨o, key, api.typeName, ?_⟩
    rw [hdecl]
    unfold Conventions.resultDeclaration
    rw [htype]
    rfl

/-- What the APIs of operations declare by themselves. -/
def ownDeclared (s : Conventions) (os : List SdkOperation) : Declared :=
  ((buildApis s os).settle { scalars := s.scalars }).declared

/-- **What is declared where something is declared already** stays, and what the
operations declare by themselves is added. -/
theorem settle_buildApis (h : (buildApis s os).outcome = .ok apis) (d : Declared) :
    ((buildApis s os).settle d).outcome = .ok apis ∧
    ((buildApis s os).settle d).declared.records =
      Assoc.addAll d.records (ownDeclared s os).records ∧
    ((buildApis s os).settle d).declared.results =
      Assoc.addAll d.results (ownDeclared s os).results ∧
    ∃ names, ((buildApis s os).settle d).declared.scalars = d.scalars.markAll names ∧
      (ownDeclared s os).scalars = s.scalars.markAll names := by
  have hresults : ∀ name declaration, .result name declaration ∈ (buildApis s os).effects →
      ∃ c, declaration = .ok c := by
    intro name declaration hm
    obtain ⟨o, key, apiType, hd⟩ := result_of_mem_effects h hm
    exact ⟨_, hd⟩
  have hsettle := fun d : Declared => Emit.settle_of_results hresults d
  obtain ⟨hrecords, hresults, hscalars⟩ := Declared.absorbAll_eq_ok (hsettle d).2
  obtain ⟨hrecords', hresults', hscalars'⟩ :=
    Declared.absorbAll_eq_ok (hsettle { scalars := s.scalars }).2
  refine ⟨(hsettle d).1.trans h, ?_, ?_, _, hscalars, hscalars'⟩
  · unfold ownDeclared
    rw [hrecords, hrecords', Assoc.addAll_addAll_nil]
  · unfold ownDeclared
    rw [hresults, hresults', Assoc.addAll_addAll_nil]

theorem ownDeclared_nodup (h : (buildApis s os).outcome = .ok apis) :
    ((ownDeclared s os).records.map (·.1)).Nodup ∧ ((ownDeclared s os).results.map (·.1)).Nodup := by
  obtain ⟨-, hrecords, hresults, -⟩ := settle_buildApis h { scalars := s.scalars }
  have hown : ((buildApis s os).settle { scalars := s.scalars }).declared = ownDeclared s os := rfl
  rw [hown] at hrecords hresults
  rw [hrecords, hresults]
  exact ⟨Assoc.addAll_nodup List.nodup_nil, Assoc.addAll_nodup List.nodup_nil⟩

/-- What was declared before comes first, and of the rest only what has a new name
is declared. -/
theorem settle_buildApis_eq_append (h : (buildApis s os).outcome = .ok apis) (d : Declared) :
    ((buildApis s os).settle d).declared.records =
      d.records ++ (ownDeclared s os).records.filter (fun r => r.1 ∉ d.records.map (·.1)) ∧
    ((buildApis s os).settle d).declared.results =
      d.results ++ (ownDeclared s os).results.filter (fun r => r.1 ∉ d.results.map (·.1)) := by
  obtain ⟨-, hrecords, hresults, -⟩ := settle_buildApis h d
  obtain ⟨hnodup, hnodup'⟩ := ownDeclared_nodup h
  rw [hrecords, hresults, Assoc.addAll_eq_append, Assoc.addAll_of_nodup hnodup,
    Assoc.addAll_eq_append d.results, Assoc.addAll_of_nodup hnodup']
  exact ⟨rfl, rfl⟩

end Declarations

end ChainedSdk
