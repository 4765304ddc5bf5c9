/-
# What the result of a parent carries

A parent returns one object, which is merged from two: the response, with the
attributes `status`, `data` and `error`, and what the function of the API of its key
returns, with the methods of the API. Of two attributes with one name the later one
counts (`Assoc.get?_ofList_append`), so every method is there, and an attribute of the
response is there unless a method has its name (`get?_attributes_of_parent`).

The type that is declared for the result promises the attributes of the response with
types of their own, and nothing looks whether a method has one of these names. A child
has such a method exactly if what follows the key in its name is `Status`, `Data` or
`Error`, or if its key and its name both are one of these words
(`takesAttribute_iff`). So nothing is lost exactly if no child of the key is named
like that (`chained_result_iff`); of `team` and `teamStatus` the result of the first
has a method where the status is promised (`lost_status`).

Key definitions: `Response.attributeNames`, `Code.Entry.attributes`,
`Code.FunctionDef.attributes`, `SdkOperation.TakesAttribute`, `Promising`.
Key theorems: `takesAttribute_iff`, `get?_attributes_of_parent`, `chained_result_iff`.
-/
import ChainedSdk.Proofs.Building
import ChainedSdk.Proofs.MethodNames
import ChainedSdk.Response

namespace ChainedSdk

open Code (Expr Entry FunctionDef ClassDecl)

/-- The names of the attributes of a response. -/
def Response.attributeNames : List String := ["status", "data", "error"]

namespace Code

variable {α : Type}

/-- The attributes that an entry gives to an object. An expression comes to a
`value`, and `vars` are the attributes of an object that it comes to. -/
def Entry.attributes (value : Expr → α) (vars : Expr → List (String × α)) :
    Entry → List (String × α)
  | .property key e => [(key, value e)]
  | .spread e _ => vars e

/-- The attributes of the object that a function returns. -/
def FunctionDef.attributes (f : FunctionDef) (value : Expr → α) (vars : Expr → List (String × α)) :
    List (String × α) :=
  mergeAttributes (f.entries.map (Entry.attributes value vars))

end Code

/-- The call of the function of an API in the method of a parent. -/
def ScopedApi.call (a : ScopedApi) (c : Config) : Expr :=
  .call (.name a.functionName) [.name c.idName, .name c.requesterName, .name c.wrapperName]

/-- The name of a child starts with its key and goes on with the name of an
attribute of responses, or it is such a name and the key is, too. -/
def SdkOperation.TakesAttribute (o : SdkOperation) (key : String) : Prop :=
  Text.lowerFirst (stripStart o.name key) ∈ Response.attributeNames ∨
    stripStart o.name key = "" ∧ Text.lowerFirst o.name ∈ Response.attributeNames

/-- A method of an operation returns a type that stands on the type of an API and
has the attributes of a response: the status, the data of the operation, and the
error. It is declared under its name unless that was taken before. -/
structure Promising (c : Config) (before declared : Declared) (o : SdkOperation) (f : FunctionDef)
    (api : ScopedApi) (name : String) (decl : ClassDecl) : Prop where
  returns : f.signature.returns? = some (.named name)
  declared : name ∉ before.results.map (·.1) → Assoc.get? name declared.results = some decl
  bases : decl.bases = [api.typeName, "Protocol"]
  names : decl.fields.map (·.name) = Response.attributeNames
  types : decl.fields.map (·.type) = [.named c.statusType,
    .optional (.named (c.namespacedType o.resultType)), .optional (.named "Exception")]

section ChainedResults

variable {c : Config} {os : List SdkOperation} {apis : List ScopedApi} {o : SdkOperation}
  {key : String}

/-! ### Methods with names of attributes -/

theorem attributeNames_isWord : ∀ w ∈ Response.attributeNames, Text.IsWord w := by
  decide

/-- **Children that take an attribute.** -/
theorem takesAttribute_iff (ho : GraphQL.isName o.name = true)
    (hkey : present o.role.childKey? = some key) :
    methodName o ∈ Response.attributeNames ↔ o.TakesAttribute key := by
  have hword : ∀ w ∈ Response.attributeNames, methodName o = w ↔
      Text.lowerFirst (stripStart o.name key) = w ∨
      stripStart o.name key = "" ∧ Text.lowerFirst o.name = w := fun w hw =>
    (methodName_eq_word_iff ho (attributeNames_isWord w hw)).trans
      (methodStem_eq_word_iff ho (attributeNames_isWord w hw) hkey)
  unfold SdkOperation.TakesAttribute
  constructor
  · intro hm
    rcases (hword _ hm).mp rfl with hrest | ⟨hempty, hwhole⟩
    · exact Or.inl (hrest ▸ hm)
    · exact Or.inr ⟨hempty, hwhole ▸ hm⟩
  · rintro (hm | ⟨hempty, hm⟩)
    · exact (hword _ hm).mpr (Or.inl rfl) ▸ hm
    · exact (hword _ hm).mpr (Or.inr ⟨hempty, rfl⟩) ▸ hm

/-! ### What a parent returns -/

/-- What the function of an API returns has the methods of the API. -/
theorem attributes_of_api {s : Conventions} {key? : Option String} {api : ScopedApi}
    (h : (buildApi s os key?).outcome = .ok api) {α : Type} (value : Expr → α)
    (vars : Expr → List (String × α)) :
    (api.function.attributes value vars).map (·.1) = api.operations.map methodName := by
  obtain ⟨ms, hms, -, hentries, -⟩ := members_of_buildApi h
  have hnames : ms.map (·.name) = api.operations.map methodName :=
    (map_eq_of_forall₂ (fun _ _ hm => hm.1.symm) hms).symm
  have hflat : (api.function.entries.map (Entry.attributes value vars)).flatten =
      ms.map fun m => (m.name, value (.name m.function.name)) := by
    rw [hentries, List.map_map, ← List.flatMap_def]
    exact List.map_eq_flatMap.symm
  have hkeys : (ms.map fun m => (m.name, value (.name m.function.name))).map (·.1) =
      api.operations.map methodName := by
    rw [List.map_map, ← hnames]
    rfl
  unfold FunctionDef.attributes mergeAttributes
  rw [hflat, Assoc.ofList_of_nodup, hkeys]
  rw [hkeys]
  exact methodNames_nodup h

section Parent

variable {d : Declared} {a api : ScopedApi} {f : FunctionDef}

/-- What a parent returns is merged from the response and the API of its key. -/
theorem entries_of_parent (hos : ∀ o ∈ os, Described c o) {scalars : ScalarRegistry}
    (h : (buildApis ⟨c, scalars⟩ os).outcome = .ok apis) (ha : a ∈ apis) (hf : (o, f) ∈ a.methods)
    (hr : o.role = .parent key) (hapi : api ∈ apis) (hkey : api.key? = some key) :
    f.entries = [.spread (.name c.responseName) false, .spread (api.call c) false] := by
  obtain ⟨result, hbody⟩ := body_of_parent hos h ha hf hr hapi hkey
  unfold FunctionDef.entries
  rw [hbody]
  rfl

/-- **What a parent returns** has all that the API of its key returns, and what the
response has under other names. -/
theorem get?_attributes_of_parent {s : Conventions} {key? : Option String} {α : Type}
    {value value' : Expr → α} {vars vars' : Expr → List (String × α)}
    (hentries : f.entries = [.spread (.name c.responseName) false, .spread (api.call c) false])
    (hb : (buildApi s os key?).outcome = .ok api)
    (hresponse : (vars (.name c.responseName)).map (·.1) = Response.attributeNames)
    (hapi : vars (api.call c) = api.function.attributes value' vars') (name : String) :
    Assoc.get? name (f.attributes value vars) =
      if name ∈ api.operations.map methodName then Assoc.get? name (vars (api.call c))
      else Assoc.get? name (vars (.name c.responseName)) := by
  have hkeys : (vars (api.call c)).map (·.1) = api.operations.map methodName := by
    rw [hapi]
    exact attributes_of_api hb value' vars'
  have hmerged : f.attributes value vars =
      Assoc.ofList (vars (.name c.responseName) ++ vars (api.call c)) := by
    unfold FunctionDef.attributes mergeAttributes
    rw [hentries]
    simp [Entry.attributes]
  have hnodup : ((vars (api.call c)).map (·.1)).Nodup := hkeys ▸ methodNames_nodup hb
  have hresponse : ((vars (.name c.responseName)).map (·.1)).Nodup := by
    rw [hresponse]
    decide
  rw [hmerged, Assoc.get?_ofList_append, Assoc.ofList_of_nodup hnodup,
    Assoc.ofList_of_nodup hresponse]
  by_cases hm : name ∈ api.operations.map methodName
  · obtain ⟨x, hx⟩ := Option.isSome_iff_exists.mp (Assoc.has_iff_mem.mpr (hkeys ▸ hm))
    rw [if_pos hm, hx, Option.some_or]
  · rw [if_neg hm, Assoc.get?_of_notMem (hkeys ▸ hm), Option.none_or]

/-- The type declared for the result of a parent. -/
theorem exists_promising (hargs : c.ArgumentsDiffer)
    (hresult : c.resultTypeTemplate = ({} : Config).resultTypeTemplate)
    (hchain : c.chainResultTemplate = ({} : Config).chainResultTemplate)
    (hos : ∀ o ∈ os, Described c o)
    (h : (buildApis ⟨c, d.scalars⟩ os).outcome = .ok apis) (ha : a ∈ apis) (hf : (o, f) ∈ a.methods)
    (hr : o.role = .parent key) (hapi : api ∈ apis) (hkey : api.key? = some key) :
    ∃ name decl,
      Promising c d ((buildApis ⟨c, d.scalars⟩ os).settle d).declared o f api name decl := by
  have hown : ((buildApis ⟨c, d.scalars⟩ os).settle { scalars := d.scalars }).outcome = .ok apis :=
    (settle_buildApis h _).1
  obtain ⟨name, hreturns, hget⟩ :=
    result_of_parent hargs hresult hchain hos hown ha hf hr hapi hkey
  refine ⟨name, Conventions.resultProtocol ⟨c, d.scalars⟩ o key name api.typeName, hreturns, ?_,
    rfl, rfl, rfl⟩
  intro hnew
  obtain ⟨-, hresults⟩ := settle_buildApis_eq_append h d
  have hnodup := (ownDeclared_nodup h).2
  have hmem := Assoc.mem_of_get? hget
  rw [hresults, Assoc.get?_append, Assoc.get?_of_notMem hnew, Option.none_or]
  refine Assoc.get?_of_mem (hnodup.sublist (List.filter_sublist.map _)) ?_
  exact List.mem_filter.mpr ⟨hmem, decide_eq_true hnew⟩

/-- **What a chained result loses.** A parent returns the response merged with the
methods of the API of its key, and the type declared for that promises both. Every
method is there, and so is what the response has under other names. Nothing is lost
exactly if no child of the key takes the name of an attribute. -/
theorem chained_result_iff (hargs : c.ArgumentsDiffer)
    (hresult : c.resultTypeTemplate = ({} : Config).resultTypeTemplate)
    (hchain : c.chainResultTemplate = ({} : Config).chainResultTemplate)
    (hos : ∀ o ∈ os, Described c o)
    (h : ((buildApis ⟨c, d.scalars⟩ os).settle d).outcome = .ok apis) (ho : o ∈ os)
    (hr : o.role = .parent key) :
    ∃ a ∈ apis, ∃ f, (o, f) ∈ a.methods ∧ ∃ api ∈ apis, api.key? = some key ∧
      (∃ name decl,
        Promising c d ((buildApis ⟨c, d.scalars⟩ os).settle d).declared o f api name decl) ∧
      (∀ {α : Type} (value value' : Expr → α) (vars vars' : Expr → List (String × α)),
        (vars (.name c.responseName)).map (·.1) = Response.attributeNames →
        vars (api.call c) = api.function.attributes value' vars' →
        (vars (api.call c)).map (·.1) = api.operations.map methodName ∧
        ∀ name, Assoc.get? name (f.attributes value vars) =
          if name ∈ api.operations.map methodName then Assoc.get? name (vars (api.call c))
          else Assoc.get? name (vars (.name c.responseName))) ∧
      (Response.attributeNames.Disjoint (api.operations.map methodName) ↔
        ∀ p ∈ api.operations, ¬p.TakesAttribute key) := by
  obtain ⟨hbuilt, -⟩ := Emit.settle_outcome_eq_ok.mp h
  obtain ⟨a, ha, f, hf⟩ := exists_method_of_parent hbuilt ho hr
  obtain ⟨api, hapi, hkey⟩ := exists_api_of_parent hos hbuilt ho hr
  have hb := buildApi_of_mem hbuilt hapi
  have hentries := entries_of_parent hos hbuilt ha hf hr hapi hkey
  refine ⟨a, ha, f, hf, api, hapi, hkey,
    exists_promising hargs hresult hchain hos hbuilt ha hf hr hapi hkey, ?_, ?_⟩
  · intro α value value' vars vars' hresponse hcall
    refine ⟨?_, get?_attributes_of_parent hentries hb hresponse hcall⟩
    rw [hcall]
    exact attributes_of_api hb value' vars'
  · have hchild : ∀ p ∈ api.operations, methodName p ∈ Response.attributeNames ↔
        p.TakesAttribute key := by
      intro p hp
      obtain ⟨hmem, hk⟩ := (mem_operations_iff hbuilt hapi).mp hp
      refine takesAttribute_iff (hos p hmem).isName_name ?_
      rw [hk, hkey]
      exact present_of_mem_chainKeys (mem_chainKeys_of_mem hbuilt hapi hkey)
    constructor
    · intro hdisjoint p hp htakes
      exact hdisjoint ((hchild p hp).mpr htakes) (List.mem_map.mpr ⟨p, hp, rfl⟩)
    · intro hnone w hw hm
      obtain ⟨p, hp, rfl⟩ := List.mem_map.mp hm
      exact hnone p hp ((hchild p hp).mp hw)

end Parent

end ChainedResults

open GraphQL in
/-- In the sample the result of the parent loses nothing. -/
theorem sample_chained_result : ∃ os apis o api, Config.ArgumentsDiffer {} ∧
    (∀ o ∈ os, Described {} o) ∧
    ((buildApis ⟨{}, .withAliases []⟩ os).settle { scalars := .withAliases [] }).outcome = .ok apis ∧
    o ∈ os ∧ o.role = .parent "team" ∧ api ∈ apis ∧ api.key? = some "team" ∧
    api.operations.map (·.name) = ["TeamIssues"] ∧
    Response.attributeNames.Disjoint (api.operations.map methodName) := by
  have hrun : (((classifyAll {} Document.sample).mapM (describe {})).toOption.any fun os =>
      (os.any fun o => o.role = .parent "team") && (((buildApis ⟨{}, .withAliases []⟩ os).settle
        { scalars := .withAliases [] }).outcome.toOption.any fun apis => apis.all fun api =>
          api.key? = none || api.operations.map (·.name) = ["TeamIssues"])) = true := by
    decide +kernel
  obtain ⟨os, hos, hrun⟩ := (Option.any_eq_true _ _).mp hrun
  obtain ⟨hparent, hbuilt⟩ := Bool.and_eq_true_iff.mp hrun
  obtain ⟨o, ho, hr⟩ := List.any_eq_true.mp hparent
  obtain ⟨apis, hapis, hnames⟩ := (Option.any_eq_true _ _).mp hbuilt
  have hdesc := described_of_mem Document.sample_wellNamed (eq_ok_of_toOption hos)
  obtain ⟨-, -, -, -, api, hapi, hkey, -, -, hdisjoint⟩ := chained_result_iff
    (d := { scalars := .withAliases [] }) (by decide) rfl rfl hdesc (eq_ok_of_toOption hapis) ho
    (of_decide_eq_true hr)
  have hname : api.operations.map (·.name) = ["TeamIssues"] := by
    simpa [hkey] using List.all_eq_true.mp hnames api hapi
  refine ⟨os, apis, o, api, by decide, hdesc, eq_ok_of_toOption hapis, ho, of_decide_eq_true hr, hapi,
    hkey, hname, hdisjoint.mpr ?_⟩
  intro p hp
  have hp : p.name ∈ api.operations.map (·.name) := List.mem_map.mpr ⟨p, hp, rfl⟩
  rw [hname, List.mem_singleton] at hp
  unfold SdkOperation.TakesAttribute
  rw [hp]
  decide

namespace GraphQL

/-- A parent and a child of its key, the method of which is named `status`. -/
def Document.teamStatus : Document := ⟨[
  .operation ⟨.query, some "team", [.sampleId], [], [.field none "team" [] [] []]⟩,
  .operation ⟨.query, some "teamStatus", [.sampleId], [], [.field none "team" [] [] []]⟩]⟩

end GraphQL

open GraphQL in
/-- **A lost status.** The result of the parent is declared to have the attributes of
the response, but the method of the child takes the place of the status. -/
theorem lost_status : ∃ os apis declared log root api o f, (∀ o ∈ os, Described {} o) ∧
    (buildApis ⟨{}, .withAliases []⟩ os).settle { scalars := .withAliases [] } =
      ⟨.ok apis, declared, log⟩ ∧
    (Assoc.get? "TeamQueryResult" declared.results).map (fun decl => decl.fields.map (·.name)) =
      some Response.attributeNames ∧
    root ∈ apis ∧ api ∈ apis ∧ api.key? = some "team" ∧ api.operations.map methodName = ["status"] ∧
    (o, f) ∈ root.methods ∧ o.role = .parent "team" ∧
    f.attributes (fun _ => "")
        (fun
          | .name _ => Response.attributeNames.map fun name => (name, "response")
          | _ => api.function.attributes (fun _ => "method") fun _ => []) =
      [("status", "method"), ("data", "response"), ("error", "response")] ∧
    ¬Response.attributeNames.Disjoint (api.operations.map methodName) := by
  have hrun : (((classifyAll {} Document.teamStatus).mapM (describe {})).toOption.any fun os =>
      let built := (buildApis ⟨{}, .withAliases []⟩ os).settle { scalars := .withAliases [] }
      decide ((Assoc.get? "TeamQueryResult" built.declared.results).map
        (fun decl => decl.fields.map (·.name)) = some Response.attributeNames) &&
      (built.outcome.toOption.any fun apis => apis.any fun root => apis.any fun api =>
        api.key? = some "team" && (api.operations.map methodName = ["status"] &&
        (root.methods.any fun m => m.1.role = .parent "team" && m.2.attributes (fun _ => "")
          (fun
            | .name _ => Response.attributeNames.map fun name => (name, "response")
            | _ => api.function.attributes (fun _ => "method") fun _ => []) =
          [("status", "method"), ("data", "response"), ("error", "response")])))) = true := by
    decide +kernel
  obtain ⟨os, hos, hrun⟩ := (Option.any_eq_true _ _).mp hrun
  simp only [Bool.and_eq_true, decide_eq_true_eq] at hrun
  obtain ⟨hfields, hbuilt⟩ := hrun
  obtain ⟨apis, hapis, hrun⟩ := (Option.any_eq_true _ _).mp hbuilt
  obtain ⟨root, hroot, hrun⟩ := List.any_eq_true.mp hrun
  obtain ⟨api, hapi, hrun⟩ := List.any_eq_true.mp hrun
  simp only [Bool.and_eq_true, decide_eq_true_eq] at hrun
  obtain ⟨hkey, hmethods, hrun⟩ := hrun
  obtain ⟨⟨o, f⟩, hf, hrun⟩ := List.any_eq_true.mp hrun
  simp only [Bool.and_eq_true, decide_eq_true_eq] at hrun
  have hwell : Document.teamStatus.WellNamed := by decide +kernel
  cases hsettle : (buildApis ⟨{}, .withAliases []⟩ os).settle { scalars := .withAliases [] } with
  | mk outcome declared log =>
    rw [hsettle] at hfields hapis
    cases eq_ok_of_toOption hapis
    refine ⟨os, apis, declared, log, root, api, o, f, described_of_mem hwell (eq_ok_of_toOption hos),
      hsettle, hfields, hroot, hapi, hkey, hmethods, hf, hrun.1, hrun.2, ?_⟩
    rw [hmethods]
    exact fun hdisjoint => hdisjoint (List.mem_cons_self : "status" ∈ _) List.mem_cons_self

end ChainedSdk
