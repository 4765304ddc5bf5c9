/-
# References resolve

What methods refer to is found out while they are built, in the API of the
root; what they refer to is declared elsewhere: the APIs of the chain keys are
built after that of the root, and records and results are declared once under
each name, whoever comes first. This file shows that the two sides agree. A
parent calls the function of the API of its key with the arguments that the
function takes, and resolves to the type declared for it, which stands on the
type of that API; every record that a parameter has as its type is declared; and
nothing is declared that no method refers to (`references_resolve`).

That the type declared under the name of a parent's result is its own needs an
argument: two parents whose results have one name would have methods of one
name, and the API of the root could not have been built
(`eq_of_resultType_eq`).

Key definitions: `ScopedApi.methods`, `ScopedApi.functions`, `Chained`.
Key theorems: `eq_of_resultType_eq`, `body_of_parent`, `result_of_parent`,
`chained_of_parent`, `references_resolve`.
-/
import ChainedSdk.Generator
import ChainedSdk.Proofs.Layout
import ChainedSdk.Proofs.Synthesis
import ChainedSdk.Proofs.Templates

namespace ChainedSdk

open Code (TypeExpr Expr FunctionDef ClassDecl)

namespace ScopedApi

/-- The operations of an API and their methods. -/
def methods (a : ScopedApi) : List (SdkOperation × FunctionDef) :=
  a.operations.zip a.function.nested

/-- The functions in the declarations of an API: its own, those of its methods,
and those that its protocol promises. -/
def functions (a : ScopedApi) : List FunctionDef :=
  a.function :: (a.function.nested ++ a.protocol.methods)

end ScopedApi

/-- The method of an operation calls the function of an API with the arguments
that the function takes, in their order, and resolves to the type declared for
the operation, which has what the API has besides the result of the
operation. -/
structure Chained (c : Config) (declared : Declared) (o : SdkOperation) (f : FunctionDef)
    (api : ScopedApi) : Prop where
  function : api.function.name = api.functionName
  protocol : api.protocol.name = api.typeName
  params : api.function.params.map (·.name) = [c.idName, c.requesterName, c.wrapperName]
  call : f.chainedCall? = some (api.functionName, api.function.params.map fun p => .name p.name)
  result : ∃ name decl, f.signature.returns? = some (.named name) ∧
    Assoc.get? name declared.results = some decl ∧ decl.bases = [api.typeName, "Protocol"] ∧
    (decl.fields.find? (·.name = "data")).map (·.type) =
      some (.optional (.named (c.namespacedType o.resultType)))

section References

variable {c : Config} {os : List SdkOperation} {scalars : ScalarRegistry} {apis : List ScopedApi}

/-! ### The methods of APIs -/

theorem api_names {s : Conventions} {key? : Option String} {a : ScopedApi}
    (h : (buildApi s os key?).outcome = .ok a) :
    s.config.apiFunctionName key? = .ok a.functionName ∧
    s.config.apiTypeName key? = .ok a.typeName ∧
    a.function.name = a.functionName ∧ a.protocol.name = a.typeName := by
  obtain ⟨functionName, typeName, ms, hf, ht, -, rfl⟩ := buildApi_outcome_eq_ok.mp h
  exact ⟨hf, ht, rfl, rfl⟩

/-- The methods of an API are built for its operations. -/
theorem method_of_mem {s : Conventions} {key? : Option String} {a : ScopedApi}
    (h : (buildApi s os key?).outcome = .ok a) {o : SdkOperation} {f : FunctionDef}
    (hm : (o, f) ∈ a.methods) :
    (s.method o (Scope.innerName (a.function.params.map (·.name)) (methodName o))).outcome = .ok f :=
  List.forall₂_zip (methods_of_buildApi h) hm

theorem exists_method {s : Conventions} {key? : Option String} {a : ScopedApi}
    (h : (buildApi s os key?).outcome = .ok a) {o : SdkOperation} (ho : o ∈ a.operations) :
    ∃ f, (o, f) ∈ a.methods := by
  obtain ⟨i, hi, rfl⟩ := List.getElem_of_mem ho
  have hlen := (methods_of_buildApi h).length_eq
  have hzip : i < a.methods.length := by
    unfold ScopedApi.methods
    rw [List.length_zip]
    omega
  refine ⟨a.function.nested[i], ?_⟩
  have hget : a.methods[i] = (a.operations[i], a.function.nested[i]) := List.getElem_zip
  rw [← hget]
  exact List.getElem_mem hzip

theorem exists_operation {s : Conventions} {key? : Option String} {a : ScopedApi}
    (h : (buildApi s os key?).outcome = .ok a) {f : FunctionDef} (hf : f ∈ a.function.nested) :
    ∃ o, (o, f) ∈ a.methods := by
  obtain ⟨i, hi, rfl⟩ := List.getElem_of_mem hf
  have hlen := (methods_of_buildApi h).length_eq
  have hzip : i < a.methods.length := by
    unfold ScopedApi.methods
    rw [List.length_zip]
    omega
  refine ⟨a.operations[i], ?_⟩
  have hget : a.methods[i] = (a.operations[i], a.function.nested[i]) := List.getElem_zip
  rw [← hget]
  exact List.getElem_mem hzip

/-- The function of the API of a chain key takes the id, the requester and the
wrapper. -/
theorem params_of_chain_api {s : Conventions} {key : String} {a : ScopedApi}
    (hnames : [s.config.idName, s.config.requesterName, s.config.wrapperName].Nodup)
    (hkey : present (some key) = some key) (h : (buildApi s os (some key)).outcome = .ok a) :
    a.function.params.map (·.name) =
      [s.config.idName, s.config.requesterName, s.config.wrapperName] := by
  obtain ⟨functionName, typeName, ms, -, -, -, rfl⟩ := buildApi_outcome_eq_ok.mp h
  show (ArgList.ofArgs (Scope.collected s os (some key) functionName typeName).givenArgs).params.map
    (·.name) = _
  rw [params_names]
  have hgiven : ∃ id requester wrapper : Arg,
      (Scope.collected s os (some key) functionName typeName).givenArgs =
        [id, requester, wrapper].map some ∧ id.name = s.config.idName ∧
      requester.name = s.config.requesterName ∧ wrapper.name = s.config.wrapperName ∧
      id.isOptional = false ∧ requester.isOptional = false ∧ wrapper.isOptional = true := by
    unfold Scope.givenArgs Scope.collected
    simp only [hkey]
    exact ⟨_, _, _, rfl, rfl, rfl, rfl, rfl, rfl, rfl⟩
  obtain ⟨id, requester, wrapper, hgiven, hid, hrequester, hwrapper, oid, orequester, owrapper⟩ :=
    hgiven
  rw [hgiven, ofArgs_of_nodup (by simpa [hid, hrequester, hwrapper] using hnames)]
  simp [ArgList.ofOrdered, ArgList.names, oid, orequester, owrapper, hid, hrequester, hwrapper]

/-- The parameters of an API's own function are no records. -/
theorem recordNames_api {s : Conventions} {key? : Option String} {a : ScopedApi}
    (h : (buildApi s os key?).outcome = .ok a) : a.function.recordNames = [] := by
  obtain ⟨functionName, typeName, ms, -, -, -, rfl⟩ := buildApi_outcome_eq_ok.mp h
  refine List.flatMap_eq_nil_iff.mpr fun p hp => ?_
  obtain ⟨a, ha, rfl⟩ := arg_of_mem_params hp
  obtain ⟨name, hname⟩ : ∃ name, a.type = .named name := by
    unfold Scope.givenArgs at ha
    simp only [List.mem_cons, List.not_mem_nil, or_false, Option.some.injEq] at ha
    rcases ha with ha | rfl | rfl
    · obtain ⟨_, _, rfl⟩ := Option.map_eq_some_iff.mp ha.symm
      exact Conventions.typeHint_eq_named _ _
    · exact ⟨_, rfl⟩
    · exact ⟨_, rfl⟩
  exact Conventions.recordNames_param_of_named hname

/-- What the protocol of an API promises refers to the records that its
methods refer to. -/
theorem recordNames_stub {s : Conventions} {key? : Option String} {a : ScopedApi}
    (h : (buildApi s os key?).outcome = .ok a) {g : FunctionDef} (hg : g ∈ a.protocol.methods) :
    ∃ f ∈ a.function.nested, g.recordNames = f.recordNames := by
  obtain ⟨ms, -, hnested, -, hstubs⟩ := members_of_buildApi h
  rw [hstubs] at hg
  obtain ⟨m, hm, rfl⟩ := List.mem_map.mp hg
  rw [hnested]
  exact ⟨m.function, List.mem_map.mpr ⟨m, hm, rfl⟩, rfl⟩

/-! ### Two parents with one result -/

/-- **Parents with one result.** Two parents in one API, the results of which
have one name, are the same operation. -/
theorem eq_of_resultType_eq {s : Conventions} {key? : Option String} {a : ScopedApi}
    (hresult : c.resultTypeTemplate = ({} : Config).resultTypeTemplate)
    (h : (buildApi s os key?).outcome = .ok a) {o p : SdkOperation} (ho : o ∈ a.operations)
    (hp : p ∈ a.operations) (hdo : Described c o) (hdp : Described c p)
    (hko : present o.role.childKey? = none) (hkp : present p.role.childKey? = none)
    (heq : o.resultType = p.resultType) : o = p := by
  have hname := lowerFirst_eq_of_resultType_eq hresult hdo hdp heq
  have hmethod : methodName o = methodName p := by
    unfold methodName
    rw [hko, hkp, hname]
  exact List.inj_on_of_nodup_map (methodNames_nodup h) ho hp hmethod

/-! ### What is declared -/

/-- The names of the arguments of methods and APIs differ. -/
def Config.ArgumentsDiffer (c : Config) : Prop :=
  [c.idName, c.variablesName, c.optionsName, c.requesterName, c.wrapperName].Nodup

instance (c : Config) : Decidable c.ArgumentsDiffer := by
  unfold Config.ArgumentsDiffer
  infer_instance

theorem Config.ArgumentsDiffer.method (h : c.ArgumentsDiffer) :
    [c.idName, c.variablesName, c.optionsName].Nodup :=
  List.Nodup.sublist (by simp) h

theorem Config.ArgumentsDiffer.api (h : c.ArgumentsDiffer) :
    [c.idName, c.requesterName, c.wrapperName].Nodup := by
  unfold Config.ArgumentsDiffer at h
  refine List.Nodup.sublist ?_ h
  exact .cons_cons _ (.cons _ (.cons _ (.refl _)))

/-- What is declared while APIs are built is the records that are types of
parameters of their methods, and what their parents resolve to. -/
theorem mem_buildApis_effects (hargs : c.ArgumentsDiffer)
    (h : (buildApis ⟨c, scalars⟩ os).outcome = .ok apis) {e : Effect BuildError} (he : e.Declares) :
    e ∈ (buildApis ⟨c, scalars⟩ os).effects ↔ ∃ a ∈ apis, ∃ o f, (o, f) ∈ a.methods ∧
      ((∃ record ∈ f.recordNames, e = .record (Conventions.omitRecord ⟨c, scalars⟩ o record)) ∨
      ∃ key result, present o.role.parentKey? = some key ∧
        c.chainResultName o.resultType = .ok result ∧
        e = .result result (Conventions.resultDeclaration ⟨c, scalars⟩ o key result)) := by
  have hmethod : ∀ {a : ScopedApi}, a ∈ apis → ∀ {o : SdkOperation} {f : FunctionDef},
      (o, f) ∈ a.methods → (e ∈ (Conventions.method ⟨c, scalars⟩ o
        (Scope.innerName (a.function.params.map (·.name)) (methodName o))).effects ↔
      (∃ record ∈ f.recordNames, e = .record (Conventions.omitRecord ⟨c, scalars⟩ o record)) ∨
      ∃ key result, present o.role.parentKey? = some key ∧
        c.chainResultName o.resultType = .ok result ∧
        e = .result result (Conventions.resultDeclaration ⟨c, scalars⟩ o key result)) := by
    intro a ha o f hf
    have hm := method_of_mem (buildApi_of_mem h ha) hf
    rw [Conventions.mem_method_effects hm he,
      Conventions.mem_operationArgs_effects_iff hargs.method hm he]
  rw [declares_buildApis_iff h he]
  constructor
  · rintro ⟨a, ha, o, ho, hm⟩
    obtain ⟨f, hf⟩ := exists_method (buildApi_of_mem h ha) ho
    exact ⟨a, ha, o, f, hf, (hmethod ha hf).mp hm⟩
  · rintro ⟨a, ha, o, f, hf, hm⟩
    exact ⟨a, ha, o, (List.of_mem_zip hf).1, (hmethod ha hf).mpr hm⟩

/-- **The records declared** are those that are types of parameters. -/
theorem mem_records_iff (hargs : c.ArgumentsDiffer)
    (h : ((buildApis ⟨c, scalars⟩ os).settle { scalars }).outcome = .ok apis) {name : String} :
    name ∈ ((buildApis ⟨c, scalars⟩ os).settle { scalars }).declared.records.map (·.1) ↔
      ∃ a ∈ apis, ∃ f ∈ a.function.nested, name ∈ f.recordNames := by
  obtain ⟨hbuilt, habsorb⟩ := Emit.settle_outcome_eq_ok.mp h
  have hkeys : name ∈ ((buildApis ⟨c, scalars⟩ os).effects.filterMap Effect.record?).map (·.1) ↔
      ∃ d, .record d ∈ (buildApis ⟨c, scalars⟩ os).effects ∧ d.name = name := by
    constructor
    · intro hm
      obtain ⟨x, hx, rfl⟩ := List.mem_map.mp hm
      obtain ⟨e, he, hex⟩ := List.mem_filterMap.mp hx
      cases e <;> cases hex
      exact ⟨_, he, rfl⟩
    · rintro ⟨d, hd, rfl⟩
      exact List.mem_map.mpr ⟨(d.name, d), List.mem_filterMap.mpr ⟨_, hd, rfl⟩, rfl⟩
  rw [(Declared.absorbAll_eq_ok habsorb).1, Assoc.mem_keys_addAll, hkeys]
  constructor
  · rintro (hm | ⟨d, hd, rfl⟩)
    · cases hm
    · obtain ⟨a, ha, o, f, hf, hm⟩ := (mem_buildApis_effects hargs hbuilt declares_record).mp hd
      rcases hm with ⟨record, hrecord, he⟩ | ⟨_, _, -, -, he⟩
      · cases he
        exact ⟨a, ha, f, (List.of_mem_zip hf).2, hrecord⟩
      · cases he
  · rintro ⟨a, ha, f, hf, hm⟩
    obtain ⟨o, hof⟩ := exists_operation (buildApi_of_mem hbuilt ha) hf
    exact Or.inr ⟨_, (mem_buildApis_effects hargs hbuilt declares_record).mpr
      ⟨a, ha, o, f, hof, Or.inl ⟨name, hm, rfl⟩⟩, rfl⟩

/-- Every record declared is that of a method that takes it. -/
theorem method_of_mem_records (hargs : c.ArgumentsDiffer)
    (h : ((buildApis ⟨c, scalars⟩ os).settle { scalars }).outcome = .ok apis) {r : String × ClassDecl}
    (hr : r ∈ ((buildApis ⟨c, scalars⟩ os).settle { scalars }).declared.records) :
    ∃ a ∈ apis, ∃ o f, (o, f) ∈ a.methods ∧ r.1 ∈ f.recordNames ∧
      r.2 = Conventions.omitRecord ⟨c, scalars⟩ o r.1 := by
  obtain ⟨hbuilt, habsorb⟩ := Emit.settle_outcome_eq_ok.mp h
  rw [(Declared.absorbAll_eq_ok habsorb).1] at hr
  obtain ⟨e, he, her⟩ := List.mem_filterMap.mp ((Assoc.mem_addAll hr).resolve_left (by simp))
  cases e with
  | record d =>
    cases her
    obtain ⟨a, ha, o, f, hf, hm⟩ := (mem_buildApis_effects hargs hbuilt declares_record).mp he
    rcases hm with ⟨record, hrecord, hd⟩ | ⟨_, _, -, -, hd⟩
    · cases hd
      exact ⟨a, ha, o, f, hf, hrecord, rfl⟩
    · cases hd
  | log _ => cases her
  | scalar _ => cases her
  | result _ _ => cases her

/-- Every result declared is what a parent resolves to. -/
theorem parent_of_mem_results (hargs : c.ArgumentsDiffer)
    (h : ((buildApis ⟨c, scalars⟩ os).settle { scalars }).outcome = .ok apis) {r : String × ClassDecl}
    (hr : r ∈ ((buildApis ⟨c, scalars⟩ os).settle { scalars }).declared.results) :
    ∃ a ∈ apis, ∃ o f key, (o, f) ∈ a.methods ∧ present o.role.parentKey? = some key ∧
      c.chainResultName o.resultType = .ok r.1 ∧
      Conventions.resultDeclaration ⟨c, scalars⟩ o key r.1 = .ok r.2 := by
  obtain ⟨hbuilt, habsorb⟩ := Emit.settle_outcome_eq_ok.mp h
  rw [(Declared.absorbAll_eq_ok habsorb).2.1] at hr
  have hr := (Assoc.mem_addAll hr).resolve_left (by simp)
  obtain ⟨e, he, hres⟩ := List.mem_filterMap.mp hr
  have heq : e = .result r.1 (.ok r.2) := by
    unfold Effect.result? at hres
    split at hres
    · cases hres
      rfl
    · cases hres
  subst heq
  obtain ⟨a, ha, o, f, hf, hm⟩ := (mem_buildApis_effects hargs hbuilt declares_result).mp he
  rcases hm with ⟨_, -, he⟩ | ⟨key, result, hkey, hresult, he⟩
  · cases he
  · injection he with hname hdecl
    rw [← hname] at hresult hdecl
    exact ⟨a, ha, o, f, key, hf, hkey, hresult, hdecl.symm⟩

/-- A parent is in the API of the root. -/
theorem key?_of_parent {a : ScopedApi} (h : (buildApis ⟨c, scalars⟩ os).outcome = .ok apis)
    (ha : a ∈ apis) {o : SdkOperation} (ho : o ∈ a.operations) (hk : o.role.childKey? = none) :
    a.key? = none :=
  ((mem_operations_iff h ha).mp ho).2.symm.trans hk

theorem childKey?_of_parentKey? {r : Role} {key : String} (h : present r.parentKey? = some key) :
    r.childKey? = none := by
  cases r with
  | child k => cases h
  | _ => rfl

/-- **What a parent resolves to is its own.** The type declared under the name
of the result of a parent is what is declared for that parent. -/
theorem get?_results_of_parent (hargs : c.ArgumentsDiffer)
    (hresult : c.resultTypeTemplate = ({} : Config).resultTypeTemplate)
    (hchain : c.chainResultTemplate = ({} : Config).chainResultTemplate)
    (hos : ∀ o ∈ os, Described c o)
    (h : ((buildApis ⟨c, scalars⟩ os).settle { scalars }).outcome = .ok apis) {a : ScopedApi}
    (ha : a ∈ apis) {o : SdkOperation} {f : FunctionDef} (hf : (o, f) ∈ a.methods) {key name : String}
    (hkey : present o.role.parentKey? = some key)
    (hname : c.chainResultName o.resultType = .ok name) :
    ∃ decl, Assoc.get? name ((buildApis ⟨c, scalars⟩ os).settle { scalars }).declared.results =
        some decl ∧ Conventions.resultDeclaration ⟨c, scalars⟩ o key name = .ok decl := by
  obtain ⟨hbuilt, habsorb⟩ := Emit.settle_outcome_eq_ok.mp h
  have heffect : Effect.result name (Conventions.resultDeclaration ⟨c, scalars⟩ o key name) ∈
      (buildApis ⟨c, scalars⟩ os).effects :=
    (mem_buildApis_effects hargs hbuilt declares_result).mpr
      ⟨a, ha, o, f, hf, Or.inr ⟨key, name, hkey, hname, rfl⟩⟩
  obtain ⟨⟨n, decl⟩, hr, rfl⟩ := List.mem_map.mp (Declared.result_mem_of_absorbAll habsorb heffect)
  have hnodup : (((buildApis ⟨c, scalars⟩ os).settle { scalars }).declared.results.map
      (·.1)).Nodup := by
    rw [(Declared.absorbAll_eq_ok habsorb).2.1]
    exact Assoc.addAll_nodup List.nodup_nil
  refine ⟨decl, Assoc.get?_of_mem hnodup hr, ?_⟩
  -- the type may have been declared for another parent, but then that is `o`
  obtain ⟨b, hb, p, g, key', hg, hkey', hname', hdecl⟩ := parent_of_mem_results hargs h hr
  have ho := (List.of_mem_zip hf).1
  have hp := (List.of_mem_zip hg).1
  have hko := childKey?_of_parentKey? hkey
  have hkp := childKey?_of_parentKey? hkey'
  have hab : b = a := eq_of_key? hbuilt hb ha
    ((key?_of_parent hbuilt hb hp hkp).trans (key?_of_parent hbuilt ha ho hko).symm)
  subst hab
  have hsub : ∀ q ∈ b.operations, Described c q := fun q hq =>
    hos q ((mem_operations_iff hbuilt hb).mp hq).1
  have hsame : o.resultType = p.resultType := by
    rw [chainResultName_of_default hchain] at hname hname'
    exact String.append_left_inj _ |>.mp (Except.ok.inj (hname.trans hname'.symm))
  have hop : o = p := eq_of_resultType_eq hresult (buildApi_of_mem hbuilt hb) ho hp (hsub o ho)
    (hsub p hp) (by rw [hko]; rfl) (by rw [hkp]; rfl) hsame
  subst hop
  rw [hkey] at hkey'
  cases hkey'
  exact hdecl

/-! ### References -/

theorem isName_of_mem_chainKeys (hos : ∀ o ∈ os, Described c o) {key : String}
    (h : key ∈ chainKeys os) : GraphQL.isName key = true := by
  obtain ⟨o, ho, hkey⟩ := mem_chainKeys.mp h
  rw [(hos o ho).present_key?] at hkey
  exact (hos o ho).isName_key hkey

/-- The API of a parent's key is built. -/
theorem exists_api_of_parent (hos : ∀ o ∈ os, Described c o)
    (h : (buildApis ⟨c, scalars⟩ os).outcome = .ok apis) {o : SdkOperation} (ho : o ∈ os)
    {key : String} (hr : o.role = .parent key) : ∃ api ∈ apis, api.key? = some key := by
  refine exists_api h (List.mem_cons_of_mem _ (List.mem_map.mpr ⟨key, ?_, rfl⟩))
  refine mem_chainKeys.mpr ⟨o, ho, ?_⟩
  rw [(hos o ho).present_key?, hr]
  rfl

theorem mem_of_mem_methods {s : Conventions} (h : (buildApis s os).outcome = .ok apis) {a : ScopedApi}
    (ha : a ∈ apis) {o : SdkOperation} {f : FunctionDef} (hf : (o, f) ∈ a.methods) : o ∈ os :=
  ((mem_operations_iff h ha).mp (List.of_mem_zip hf).1).1

/-- The body of a parent's method is chained to the API of its key. -/
theorem body_of_parent (hos : ∀ o ∈ os, Described c o)
    (h : (buildApis ⟨c, scalars⟩ os).outcome = .ok apis) {a api : ScopedApi} (ha : a ∈ apis)
    {o : SdkOperation} {f : FunctionDef} (hf : (o, f) ∈ a.methods) {key : String}
    (hr : o.role = .parent key) (hapi : api ∈ apis) (hkey : api.key? = some key) :
    ∃ result, f.body = Conventions.chainedBody ⟨c, scalars⟩ o api.functionName result := by
  have hparent : present o.role.parentKey? = some key := by
    rw [(hos o (mem_of_mem_methods h ha hf)).present_parentKey?, hr]
    rfl
  have hname := (api_names (buildApi_of_mem h hapi)).1
  obtain ⟨args, returns, body, -, -, hbody, rfl⟩ :=
    Conventions.method_outcome_eq_ok.mp (method_of_mem (buildApi_of_mem h ha) hf)
  have hbody := Conventions.body_outcome_eq_ok.mp hbody
  rw [hparent] at hbody
  obtain ⟨callee, result, hcallee, -, rfl⟩ := hbody
  rw [hkey] at hname
  cases hname.symm.trans hcallee
  exact ⟨result, rfl⟩

/-- The method of a parent returns the result of the parent. -/
theorem returns_of_parent {o : SdkOperation} {key name inner : String} {f : FunctionDef}
    (hf : ((⟨c, scalars⟩ : Conventions).method o inner).outcome = .ok f)
    (hkey : present o.role.parentKey? = some key)
    (hname : c.chainResultName o.resultType = .ok name) :
    f.signature.returns? = some (.named name) := by
  obtain ⟨args, returns, body, -, hreturns, -, rfl⟩ := Conventions.method_outcome_eq_ok.mp hf
  have hreturns := Conventions.resultType_outcome_eq_ok.mp hreturns
  rw [hkey] at hreturns
  obtain ⟨name, hname', rfl⟩ := hreturns
  cases hname.symm.trans (Conventions.declareResult_outcome_eq_ok.mp hname')
  rfl

/-- What a parent resolves to is declared for it, and stands on the type of the API of
its key. -/
theorem result_of_parent (hargs : c.ArgumentsDiffer)
    (hresult : c.resultTypeTemplate = ({} : Config).resultTypeTemplate)
    (hchain : c.chainResultTemplate = ({} : Config).chainResultTemplate)
    (hos : ∀ o ∈ os, Described c o)
    (h : ((buildApis ⟨c, scalars⟩ os).settle { scalars }).outcome = .ok apis) {a api : ScopedApi}
    (ha : a ∈ apis) {o : SdkOperation} {f : FunctionDef} (hf : (o, f) ∈ a.methods) {key : String}
    (hr : o.role = .parent key) (hapi : api ∈ apis) (hkey : api.key? = some key) :
    ∃ name, f.signature.returns? = some (.named name) ∧
      Assoc.get? name ((buildApis ⟨c, scalars⟩ os).settle { scalars }).declared.results =
        some (Conventions.resultProtocol ⟨c, scalars⟩ o key name api.typeName) := by
  obtain ⟨hbuilt, -⟩ := Emit.settle_outcome_eq_ok.mp h
  have hparent : present o.role.parentKey? = some key := by
    rw [(hos o (mem_of_mem_methods hbuilt ha hf)).present_parentKey?, hr]
    rfl
  have hname := chainResultName_of_default hchain o.resultType
  obtain ⟨decl, hget, hdecl⟩ :=
    get?_results_of_parent hargs hresult hchain hos h ha hf hparent hname
  have htype := (api_names (buildApi_of_mem hbuilt hapi)).2.1
  rw [hkey] at htype
  unfold Conventions.resultDeclaration at hdecl
  rw [htype] at hdecl
  cases hdecl
  exact ⟨_, returns_of_parent (method_of_mem (buildApi_of_mem hbuilt ha) hf) hparent hname, hget⟩

/-- **Parents.** The method of a parent is chained to the API of its key. -/
theorem chained_of_parent (hargs : c.ArgumentsDiffer)
    (hresult : c.resultTypeTemplate = ({} : Config).resultTypeTemplate)
    (hchain : c.chainResultTemplate = ({} : Config).chainResultTemplate)
    (hos : ∀ o ∈ os, Described c o)
    (h : ((buildApis ⟨c, scalars⟩ os).settle { scalars }).outcome = .ok apis) {a api : ScopedApi}
    (ha : a ∈ apis) {o : SdkOperation} {f : FunctionDef} (hf : (o, f) ∈ a.methods) {key : String}
    (hr : o.role = .parent key) (hapi : api ∈ apis) (hkey : api.key? = some key) :
    Chained c ((buildApis ⟨c, scalars⟩ os).settle { scalars }).declared o f api := by
  obtain ⟨hbuilt, -⟩ := Emit.settle_outcome_eq_ok.mp h
  have hbapi := buildApi_of_mem hbuilt hapi
  rw [hkey] at hbapi
  obtain ⟨-, -, hfname, hpname⟩ := api_names hbapi
  have hpresent := present_of_mem_chainKeys (mem_chainKeys_of_mem hbuilt hapi hkey)
  have hparams := params_of_chain_api hargs.api hpresent hbapi
  have hnames : api.function.params.map (fun p => Expr.name p.name) =
      [.name c.idName, .name c.requesterName, .name c.wrapperName] := by
    have hcomp : api.function.params.map (fun p => Expr.name p.name) =
        (api.function.params.map (·.name)).map Expr.name := by simp
    rw [hcomp, hparams]
    rfl
  obtain ⟨result, hbody⟩ := body_of_parent hos hbuilt ha hf hr hapi hkey
  obtain ⟨name, hreturns, hget⟩ :=
    result_of_parent hargs hresult hchain hos h ha hf hr hapi hkey
  refine ⟨hfname, hpname, hparams, ?_, name, _, hreturns, hget, rfl, rfl⟩
  unfold FunctionDef.chainedCall?
  rw [hbody, hnames]
  rfl

/-- An operation has a method in the API of its scope. -/
theorem exists_method_of_scope {s : Conventions} (h : (buildApis s os).outcome = .ok apis)
    {o : SdkOperation} (ho : o ∈ os)
    (hk : o.role.childKey? ∈ none :: (chainKeys os).map some) :
    ∃ a ∈ apis, ∃ f, (o, f) ∈ a.methods := by
  obtain ⟨a, ha, hkey⟩ := exists_api h hk
  obtain ⟨f, hf⟩ :=
    exists_method (buildApi_of_mem h ha) ((mem_operations_iff h ha).mpr ⟨ho, hkey.symm⟩)
  exact ⟨a, ha, f, hf⟩

/-- A parent has a method in the root API. -/
theorem exists_method_of_parent (hbuilt : (buildApis ⟨c, scalars⟩ os).outcome = .ok apis)
    {o : SdkOperation} (ho : o ∈ os) {key : String} (hr : o.role = .parent key) :
    ∃ a ∈ apis, ∃ f, (o, f) ∈ a.methods := by
  refine exists_method_of_scope hbuilt ho ?_
  rw [hr]
  exact List.mem_cons_self

/-- A record that any function of an API names is named by one of its methods. -/
theorem exists_nested_of_recordNames {a : ScopedApi} {key? : Option String}
    (ha : (buildApi ⟨c, scalars⟩ os key?).outcome = .ok a) {f : FunctionDef}
    (hf : f ∈ a.functions) {name : String} (hm : name ∈ f.recordNames) :
    ∃ g ∈ a.function.nested, name ∈ g.recordNames := by
  rcases List.mem_cons.mp hf with rfl | hf
  · rw [recordNames_api ha] at hm
    cases hm
  · rcases List.mem_append.mp hf with hf | hf
    · exact ⟨f, hf, hm⟩
    · obtain ⟨g, hg, hfg⟩ := recordNames_stub ha hf
      exact ⟨g, hg, hfg ▸ hm⟩

/-- The result of a parent stands on the type of the API of the parent's key. -/
theorem bases_of_parent (hos : ∀ o ∈ os, Described c o)
    (hbuilt : (buildApis ⟨c, scalars⟩ os).outcome = .ok apis) {o : SdkOperation} (ho : o ∈ os)
    {key name : String} (hkey : present o.role.parentKey? = some key) {d : Code.ClassDecl}
    (hdecl : Conventions.resultDeclaration ⟨c, scalars⟩ o key name = .ok d) :
    ∃ a ∈ apis, d.bases = [a.protocol.name, "Protocol"] := by
  have hrole : o.role = .parent key := by
    rw [(hos o ho).present_parentKey?] at hkey
    cases hr : o.role <;> rw [hr] at hkey <;> cases hkey
    rfl
  obtain ⟨api, hapi, hak⟩ := exists_api_of_parent hos hbuilt ho hrole
  have hnames := api_names (buildApi_of_mem hbuilt hapi)
  rw [hak] at hnames
  refine ⟨api, hapi, ?_⟩
  unfold Conventions.resultDeclaration at hdecl
  rw [hnames.2.1] at hdecl
  rw [← Except.ok.inj hdecl, hnames.2.2.2]
  rfl

/-- **References resolve.** Every parent has a method, and the method of a
parent is chained to the API of its key. Every record that is the type of a
parameter is declared. Every record and every result that is declared is
referred to by a method. Every result stands on the type of one of the APIs,
and in the module all APIs come before the results. -/
theorem references_resolve (hargs : c.ArgumentsDiffer)
    (hresult : c.resultTypeTemplate = ({} : Config).resultTypeTemplate)
    (hchain : c.chainResultTemplate = ({} : Config).chainResultTemplate)
    (hos : ∀ o ∈ os, Described c o) {declared : Declared} {log : List LogRecord}
    (h : (buildApis ⟨c, scalars⟩ os).settle { scalars } = ⟨.ok apis, declared, log⟩) :
    (∀ o ∈ os, ∀ key, o.role = .parent key → ∃ a ∈ apis, ∃ f, (o, f) ∈ a.methods ∧
      ∃ api ∈ apis, api.key? = some key ∧ Chained c declared o f api) ∧
    (∀ a ∈ apis, ∀ f ∈ a.functions, ∀ name ∈ f.recordNames, name ∈ declared.records.map (·.1)) ∧
    (∀ name ∈ declared.records.map (·.1), ∃ a ∈ apis, ∃ f ∈ a.function.nested,
      name ∈ f.recordNames) ∧
    (∀ name ∈ declared.results.map (·.1), ∃ a ∈ apis, ∃ f ∈ a.function.nested,
      f.signature.returns? = some (.named name)) ∧
    (∀ r ∈ declared.results, ∃ a ∈ apis, r.2.bases = [a.protocol.name, "Protocol"]) ∧
    ∀ (g : Generator) (documents : List Code.Statement), g.apis = apis → g.declared = declared →
      ∃ before, (g.sdkModule documents).text = before ++
        SdkModule.blocks (apis.map fun a => Code.render a.declarations) ++
        SdkModule.blocks (declared.results.map fun r => Code.render [.classDecl r.2]) := by
  have hok : ((buildApis ⟨c, scalars⟩ os).settle { scalars }).outcome = .ok apis := by rw [h]
  have hdeclared : ((buildApis ⟨c, scalars⟩ os).settle { scalars }).declared = declared := by rw [h]
  obtain ⟨hbuilt, -⟩ := Emit.settle_outcome_eq_ok.mp hok
  have hrecords : ∀ name, _ ↔ ∃ a ∈ apis, ∃ f ∈ a.function.nested, name ∈ f.recordNames :=
    fun _ => mem_records_iff hargs hok
  have hparents := fun r => parent_of_mem_results hargs hok (r := r)
  rw [hdeclared] at hrecords hparents
  have hof : ∀ {a : ScopedApi}, a ∈ apis → ∀ {o : SdkOperation}, o ∈ a.operations → o ∈ os := by
    intro a ha o ho
    rw [buildApi_operations (buildApi_of_mem hbuilt ha)] at ho
    exact List.mem_of_mem_filter ho
  refine ⟨?_, ?_, fun name hm => (hrecords name).mp hm, ?_, ?_, ?_⟩
  · intro o ho key hr
    obtain ⟨a, ha, f, hf⟩ := exists_method_of_parent hbuilt ho hr
    obtain ⟨api, hapi, hkey⟩ := exists_api_of_parent hos hbuilt ho hr
    refine ⟨a, ha, f, hf, api, hapi, hkey, ?_⟩
    rw [← hdeclared]
    exact chained_of_parent hargs hresult hchain hos hok ha hf hr hapi hkey
  · intro a ha f hf name hm
    exact (hrecords name).mpr ⟨a, ha, exists_nested_of_recordNames (buildApi_of_mem hbuilt ha) hf hm⟩
  · intro name hm
    obtain ⟨r, hr, rfl⟩ := List.mem_map.mp hm
    obtain ⟨a, ha, o, f, key, hf, hkey, hname, -⟩ := hparents r hr
    exact ⟨a, ha, f, (List.of_mem_zip hf).2,
      returns_of_parent (method_of_mem (buildApi_of_mem hbuilt ha) hf) hkey hname⟩
  · intro r hr
    obtain ⟨a, ha, o, f, key, hf, hkey, -, hdecl⟩ := hparents r hr
    exact bases_of_parent hos hbuilt (hof ha (List.of_mem_zip hf).1) hkey hdecl
  · rintro g documents rfl rfl
    rw [SdkModule.text_eq]
    exact ⟨_, rfl⟩

end References

open GraphQL in
/-- In the sample the parent is chained to the API with the child, the variables
of which lack the id. -/
theorem sample_references : ∃ os apis declared log, Config.ArgumentsDiffer {} ∧
    (∀ o ∈ os, Described {} o) ∧
    (buildApis ⟨{}, .withAliases []⟩ os).settle { scalars := .withAliases [] } =
      ⟨.ok apis, declared, log⟩ ∧
    declared.records.map (·.1) = ["TeamIssuesQueryVariablesWithoutId"] ∧
    declared.results.map (·.1) = ["TeamQueryResult"] ∧
    (∀ o ∈ os, ∀ key, o.role = .parent key → ∃ a ∈ apis, ∃ f, (o, f) ∈ a.methods ∧
      ∃ api ∈ apis, api.key? = some key ∧ Chained {} declared o f api) ∧
    ∀ r ∈ declared.results, ∃ a ∈ apis, r.2.bases = [a.protocol.name, "Protocol"] := by
  have hrun : (((classifyAll {} Document.sample).mapM (describe {})).toOption.any fun os =>
      let built := (buildApis ⟨{}, .withAliases []⟩ os).settle { scalars := .withAliases [] }
      built.outcome.toOption.isSome &&
        decide (built.declared.records.map (·.1) = ["TeamIssuesQueryVariablesWithoutId"]) &&
        decide (built.declared.results.map (·.1) = ["TeamQueryResult"])) = true := by decide +kernel
  obtain ⟨os, hos, hrun⟩ := (Option.any_eq_true _ _).mp hrun
  simp only [Bool.and_eq_true, decide_eq_true_eq] at hrun
  obtain ⟨⟨hbuilt, hrecords⟩, hresults⟩ := hrun
  obtain ⟨apis, hapis⟩ := Option.isSome_iff_exists.mp hbuilt
  have hdesc := described_of_mem Document.sample_wellNamed (eq_ok_of_toOption hos)
  cases hsettle : (buildApis ⟨{}, .withAliases []⟩ os).settle { scalars := .withAliases [] } with
  | mk outcome declared log =>
    rw [hsettle] at hapis hrecords hresults
    cases eq_ok_of_toOption hapis
    obtain ⟨hparents, -, -, -, hbases, -⟩ := references_resolve (by decide) rfl rfl hdesc hsettle
    exact ⟨os, apis, declared, log, by decide, hdesc, hsettle, hrecords, hresults, hparents, hbases⟩

end ChainedSdk
