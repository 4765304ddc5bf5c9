/-
# Which API a name stands for

The functions and the protocols of all APIs are declared in one module, where of
several declarations of one name the last one counts. The two names of an API are
made from its chain key, and nothing looks whether another API has them.

Under the default templates the key stands in the name of the function as it is,
so the functions of two keys never have one name; but the root has a name of its
own, `create_raw_sdk`, which is also made from the key `raw` (`functionName_eq_iff`).
In the name of the protocol the key has a capital letter, so the protocols of two
keys have one name if the keys differ in the case of the first letter only
(`typeName_eq_iff`). So a name leads to the API it was given to unless it is that
of the root's function and `raw` is a key, or that of the protocol of a key and
another key comes after it which differs in the case of its first letter
(`scope_names_iff`). In particular a parent always calls the function that is meant:
the function lost is the root's. What a parent resolves to can stand on the
protocol of another key, though (`overwritten_scopes`).

Key definitions: `ScopedApi.ofFunction?`, `ScopedApi.ofType?`,
`Config.DefaultScopeNames`.
Key theorems: `functionName_eq_iff`, `typeName_eq_iff`, `scope_names_iff`.
-/
import ChainedSdk.Proofs.Protocols

namespace ChainedSdk

namespace ScopedApi

/-- The API whose function a name stands for, where APIs are declared in order. -/
def ofFunction? (apis : List ScopedApi) (name : String) : Option ScopedApi :=
  apis.reverse.find? (·.functionName = name)

/-- The API whose protocol a name stands for, where APIs are declared in order. -/
def ofType? (apis : List ScopedApi) (name : String) : Option ScopedApi :=
  apis.reverse.find? (·.typeName = name)

end ScopedApi

open ScopedApi (ofFunction? ofType?)

/-- The names of APIs are made as they are by default. -/
structure Config.DefaultScopeNames (c : Config) : Prop where
  functionTemplate : c.apiFunctionTemplate = ({} : Config).apiFunctionTemplate
  rootFunction : c.apiRootFunction = ({} : Config).apiRootFunction
  typeTemplate : c.apiTypeTemplate = ({} : Config).apiTypeTemplate
  rootType : c.apiRootType = ({} : Config).apiRootType

section ScopeNames

variable {c : Config} {os : List SdkOperation} {scalars : ScalarRegistry} {apis : List ScopedApi}

/-! ### The names of one API -/

/-- The names of the root. -/
theorem root_names (hc : c.DefaultScopeNames) (h : (buildApis ⟨c, scalars⟩ os).outcome = .ok apis)
    {a : ScopedApi} (ha : a ∈ apis) (hkey : a.key? = none) :
    a.functionName = "create_raw_sdk" ∧ a.typeName = "Sdk" := by
  have hnames := api_names (buildApi_of_mem h ha)
  rw [hkey] at hnames
  obtain ⟨hfunction, htype, -, -⟩ := hnames
  have hroot : c.apiFunctionName none = .ok c.apiRootFunction := rfl
  have hrootType : c.apiTypeName none = .ok c.apiRootType := rfl
  rw [hroot, hc.rootFunction] at hfunction
  rw [hrootType, hc.rootType] at htype
  exact ⟨(Except.ok.inj hfunction).symm, (Except.ok.inj htype).symm⟩

/-- The names of the API of a key. -/
theorem chain_names (hc : c.DefaultScopeNames)
    (h : (buildApis ⟨c, scalars⟩ os).outcome = .ok apis) {a : ScopedApi} (ha : a ∈ apis)
    {key : String} (hkey : a.key? = some key) :
    a.functionName = "create_" ++ key ++ "_sdk" ∧ a.typeName = Text.upperFirst key ++ "Sdk" := by
  have hpresent := present_of_mem_chainKeys (mem_chainKeys_of_mem h ha hkey)
  have hnames := api_names (buildApi_of_mem h ha)
  rw [hkey] at hnames
  obtain ⟨hfunction, htype, -, -⟩ := hnames
  rw [show (⟨c, scalars⟩ : Conventions).config = c from rfl] at hfunction htype
  rw [apiFunctionName_of_default hc.functionTemplate hpresent] at hfunction
  rw [apiTypeName_of_default hc.typeTemplate hpresent] at htype
  exact ⟨(Except.ok.inj hfunction).symm, (Except.ok.inj htype).symm⟩

/-! ### Two APIs -/

theorem functionName_key_inj {k l : String} :
    "create_" ++ k ++ "_sdk" = "create_" ++ l ++ "_sdk" ↔ k = l := by
  rw [String.append_left_inj, String.append_right_inj]

theorem rootFunction_eq_iff {key : String} :
    "create_raw_sdk" = "create_" ++ key ++ "_sdk" ↔ key = "raw" := by
  have hraw : "create_raw_sdk" = "create_" ++ "raw" ++ "_sdk" := by decide
  rw [hraw, functionName_key_inj, eq_comm]

/-- **Functions of one name.** The functions of two APIs have one name if one of
them is the root and the other is that of the key `raw`. -/
theorem functionName_eq_iff (hc : c.DefaultScopeNames)
    (h : (buildApis ⟨c, scalars⟩ os).outcome = .ok apis) {a b : ScopedApi} (ha : a ∈ apis)
    (hb : b ∈ apis) (hab : a.key? ≠ b.key?) : a.functionName = b.functionName ↔
      (a.key? = none ∧ b.key? = some "raw") ∨ (a.key? = some "raw" ∧ b.key? = none) := by
  cases hka : a.key? with
  | none =>
    cases hkb : b.key? with
    | none => exact absurd (hka.trans hkb.symm) hab
    | some l =>
      rw [(root_names hc h ha hka).1, (chain_names hc h hb hkb).1, rootFunction_eq_iff]
      simp
  | some k =>
    rw [(chain_names hc h ha hka).1]
    cases hkb : b.key? with
    | none =>
      rw [(root_names hc h hb hkb).1, eq_comm, rootFunction_eq_iff]
      simp
    | some l =>
      have hkl : k ≠ l := by
        rintro rfl
        exact hab (hka.trans hkb.symm)
      rw [(chain_names hc h hb hkb).1, functionName_key_inj]
      simp [hkl]

/-- **Protocols of one name.** The protocols of two APIs have one name if the APIs
have keys that differ in the case of the first letter. -/
theorem typeName_eq_iff (hc : c.DefaultScopeNames) (hos : ∀ o ∈ os, Described c o)
    (h : (buildApis ⟨c, scalars⟩ os).outcome = .ok apis) {a b : ScopedApi} (ha : a ∈ apis)
    (hb : b ∈ apis) (hab : a.key? ≠ b.key?) : a.typeName = b.typeName ↔
      ∃ k l, a.key? = some k ∧ b.key? = some l ∧ Text.upperFirst k = Text.upperFirst l := by
  -- the type of the root is the ending of the other types, and keys are not empty
  have hroot : ∀ {x : ScopedApi}, x ∈ apis → ∀ {key : String}, x.key? = some key →
      x.typeName ≠ "Sdk" := by
    intro x hx key hkey heq
    obtain ⟨d, ds, hd, hstart, -⟩ :=
      GraphQL.isName_iff.mp (isName_of_mem_chainKeys hos (mem_chainKeys_of_mem h hx hkey))
    have hlt := GraphQL.isNamePart_lt (GraphQL.isNamePart_of_isNameStart hstart)
    rw [(chain_names hc h hx hkey).2] at heq
    have hlength := congrArg (fun s : String => s.toList.length) heq
    simp [Text.upperFirst_toList hd hlt] at hlength
  cases hka : a.key? with
  | none =>
    cases hkb : b.key? with
    | none => exact absurd (hka.trans hkb.symm) hab
    | some l =>
      rw [(root_names hc h ha hka).2]
      simpa using (hroot hb hkb).symm
  | some k =>
    cases hkb : b.key? with
    | none =>
      rw [(root_names hc h hb hkb).2]
      simpa using hroot ha hka
    | some l =>
      rw [(chain_names hc h ha hka).2, (chain_names hc h hb hkb).2, String.append_left_inj]
      simp

/-! ### Where names lead -/

theorem ofFunction?_cons (root : ScopedApi) (chained : List ScopedApi) (name : String) :
    ofFunction? (root :: chained) name = (ofFunction? chained name).or
      (if root.functionName = name then some root else none) := by
  unfold ofFunction?
  rw [List.reverse_cons, List.find?_append]
  by_cases hn : root.functionName = name
  · simp [hn]
  · simp [hn]

/-- The APIs of the chain keys follow that of the root. -/
theorem exists_root_chained (h : (buildApis ⟨c, scalars⟩ os).outcome = .ok apis) :
    ∃ root chained, apis = root :: chained ∧ root.key? = none ∧
      chained.map (·.key?) = (chainKeys os).map some :=
  List.map_eq_cons_iff.mp (keys_of_buildApis h)

/-- The functions of the chain keys differ in their names. -/
theorem functionNames_chained_nodup (hc : c.DefaultScopeNames)
    {root : ScopedApi} {chained : List ScopedApi}
    (h : (buildApis ⟨c, scalars⟩ os).outcome = .ok (root :: chained))
    (hkeys : chained.map (·.key?) = (chainKeys os).map some) :
    (chained.map (·.functionName)).Nodup := by
  have hnodup : (chained.map (·.key?)).Nodup := by
    rw [hkeys]
    exact (chainKeys_nodup os).map fun _ _ => Option.some.inj
  have hne : ∀ x ∈ chained, x.key? ≠ none := by
    intro x hx hnone
    have hm : x.key? ∈ (chainKeys os).map some := hkeys ▸ List.mem_map.mpr ⟨x, hx, rfl⟩
    simp [hnone] at hm
  rw [List.nodup_map_iff_inj_on hnodup.of_map]
  intro x hx y hy hxy
  by_contra hdiffer
  have hkey : x.key? ≠ y.key? := fun heq => hdiffer (List.inj_on_of_nodup_map hnodup hx hy heq)
  rcases (functionName_eq_iff hc h (List.mem_cons_of_mem _ hx) (List.mem_cons_of_mem _ hy)
    hkey).mp hxy with hroot | hroot
  · exact hne x hx hroot.1
  · exact hne y hy hroot.2

/-- **The function a name stands for.** The functions of all chain keys are declared
after that of the root and differ from each other, so only the root's can be
lost. -/
theorem ofFunction?_eq_some_iff (hc : c.DefaultScopeNames)
    (h : (buildApis ⟨c, scalars⟩ os).outcome = .ok apis) {a : ScopedApi} (ha : a ∈ apis) :
    ofFunction? apis a.functionName = some a ↔ ¬(a.key? = none ∧ "raw" ∈ chainKeys os) := by
  obtain ⟨root, chained, rfl, hroot, hkeys⟩ := exists_root_chained h
  have hnames := functionNames_chained_nodup hc h hkeys
  have hmem : ∀ b ∈ chained, ∃ key ∈ chainKeys os, b.key? = some key := by
    intro b hb
    obtain ⟨key, hkey, heq⟩ := List.mem_map.mp (hkeys ▸ List.mem_map.mpr ⟨b, hb, rfl⟩)
    exact ⟨key, hkey, heq.symm⟩
  have hlast : ∀ b ∈ chained, ofFunction? chained b.functionName = some b :=
    (find?_reverse_eq_iff_nodup hnames.of_map).mpr hnames
  rw [ofFunction?_cons]
  rcases List.mem_cons.mp ha with rfl | hchained
  · -- a function of a key with the name of the root's is that of the key `raw`
    have hraw : ∀ b ∈ chained, b.functionName = a.functionName ↔ b.key? = some "raw" := by
      intro b hb
      obtain ⟨key, -, hbk⟩ := hmem b hb
      rw [functionName_eq_iff hc h (List.mem_cons_of_mem _ hb) ha (by simp [hbk, hroot])]
      simp [hbk, hroot]
    by_cases hkey : "raw" ∈ chainKeys os
    · obtain ⟨b, hb, hbk⟩ := List.mem_map.mp (hkeys ▸ List.mem_map.mpr ⟨"raw", hkey, rfl⟩)
      have hne : b ≠ a := by
        rintro rfl
        cases hroot.symm.trans hbk
      rw [← (hraw b hb).mpr hbk, hlast b hb]
      simp [hroot, hkey, hne]
    · have hnone : ofFunction? chained a.functionName = none := by
        refine List.find?_eq_none.mpr fun b hb heq => hkey ?_
        have hb := List.mem_reverse.mp hb
        exact mem_chainKeys_of_mem h (List.mem_cons_of_mem _ hb)
          ((hraw b hb).mp (of_decide_eq_true heq))
      simp [hnone, hkey]
  · obtain ⟨key, -, hak⟩ := hmem a hchained
    simp [hlast a hchained, hak]

/-- The protocols of APIs differ in their names exactly if their keys with a capital
letter do. -/
theorem typeNames_nodup_iff (hc : c.DefaultScopeNames) (hos : ∀ o ∈ os, Described c o)
    (h : (buildApis ⟨c, scalars⟩ os).outcome = .ok apis) :
    (apis.map (·.typeName)).Nodup ↔ ((chainKeys os).map Text.upperFirst).Nodup := by
  rw [List.nodup_map_iff_inj_on (keys_nodup h).of_map, List.nodup_map_iff_inj_on (chainKeys_nodup os)]
  constructor
  · intro hinj k hk l hl hkl
    obtain ⟨a, ha, hak⟩ := exists_api h (List.mem_cons_of_mem _ (List.mem_map.mpr ⟨k, hk, rfl⟩))
    obtain ⟨b, hb, hbl⟩ := exists_api h (List.mem_cons_of_mem _ (List.mem_map.mpr ⟨l, hl, rfl⟩))
    by_contra hne
    have hab : a.key? ≠ b.key? := by simpa [hak, hbl] using hne
    have hname := (typeName_eq_iff hc hos h ha hb hab).mpr ⟨k, l, hak, hbl, hkl⟩
    exact hab (congrArg _ (hinj a ha b hb hname))
  · intro hinj a ha b hb hname
    by_contra hne
    have hab : a.key? ≠ b.key? := fun heq => hne (eq_of_key? h ha hb heq)
    obtain ⟨k, l, hak, hbl, hkl⟩ := (typeName_eq_iff hc hos h ha hb hab).mp hname
    have hk := mem_chainKeys_of_mem h ha hak
    have hl := mem_chainKeys_of_mem h hb hbl
    exact hab (by rw [hak, hbl, hinj k hk l hl hkl])

/-- A parent calls the function of the API of its key. -/
theorem callee_of_parent (hos : ∀ o ∈ os, Described c o)
    (h : (buildApis ⟨c, scalars⟩ os).outcome = .ok apis) {a : ScopedApi} (ha : a ∈ apis)
    {o : SdkOperation} {f : Code.FunctionDef} (hf : (o, f) ∈ a.methods) {key : String}
    (hr : o.role = .parent key) : ∃ api ∈ apis, api.key? = some key ∧
      f.chainedCall?.map (·.1) = some api.functionName := by
  obtain ⟨api, hapi, hkey⟩ := exists_api_of_parent hos h (mem_of_mem_methods h ha hf) hr
  obtain ⟨result, hbody⟩ := body_of_parent hos h ha hf hr hapi hkey
  refine ⟨api, hapi, hkey, ?_⟩
  unfold Code.FunctionDef.chainedCall?
  rw [hbody]
  rfl

/-- **Names of scopes.** Of two APIs the functions have one name only if one is the
root and the other is that of the key `raw`, and the protocols only if the keys
differ in the case of the first letter. All names differ exactly if neither
happens, and then each leads to the API it was given to. A parent calls the function
of the API of its key in any case. -/
theorem scope_names_iff (hc : c.DefaultScopeNames) (hos : ∀ o ∈ os, Described c o) {d : Declared}
    (h : ((buildApis ⟨c, d.scalars⟩ os).settle d).outcome = .ok apis) :
    (∀ a ∈ apis, ∀ b ∈ apis, a.key? ≠ b.key? → (a.functionName = b.functionName ↔
      (a.key? = none ∧ b.key? = some "raw") ∨ (a.key? = some "raw" ∧ b.key? = none))) ∧
    (∀ a ∈ apis, ∀ b ∈ apis, a.key? ≠ b.key? → (a.typeName = b.typeName ↔
      ∃ k l, a.key? = some k ∧ b.key? = some l ∧ Text.upperFirst k = Text.upperFirst l)) ∧
    ((∀ a ∈ apis, ofFunction? apis a.functionName = some a ∧ ofType? apis a.typeName = some a) ↔
      "raw" ∉ chainKeys os ∧ ((chainKeys os).map Text.upperFirst).Nodup) ∧
    ∀ a ∈ apis, ∀ o f, (o, f) ∈ a.methods → ∀ key, o.role = .parent key →
      ∃ callee api, f.chainedCall?.map (·.1) = some callee ∧
        ofFunction? apis callee = some api ∧ api.key? = some key := by
  obtain ⟨hbuilt, -⟩ := Emit.settle_outcome_eq_ok.mp h
  have hfunctions := fun {a : ScopedApi} => ofFunction?_eq_some_iff (a := a) hc hbuilt
  have htypes : (∀ a ∈ apis, ofType? apis a.typeName = some a) ↔
      ((chainKeys os).map Text.upperFirst).Nodup :=
    (find?_reverse_eq_iff_nodup (keys_nodup hbuilt).of_map).trans (typeNames_nodup_iff hc hos hbuilt)
  refine ⟨fun a ha b hb => functionName_eq_iff hc hbuilt ha hb,
    fun a ha b hb => typeName_eq_iff hc hos hbuilt ha hb, ?_, ?_⟩
  · rw [← htypes]
    constructor
    · intro hall
      obtain ⟨root, hroot, hnone⟩ := exists_api hbuilt (List.mem_cons_self : none ∈ _)
      have hraw := (hfunctions hroot).mp (hall root hroot).1
      exact ⟨fun hm => hraw ⟨hnone, hm⟩, fun a ha => (hall a ha).2⟩
    · rintro ⟨hraw, hall⟩ a ha
      exact ⟨(hfunctions ha).mpr fun hlost => hraw hlost.2, hall a ha⟩
  · intro a ha o f hf key hr
    obtain ⟨api, hapi, hkey, hcallee⟩ := callee_of_parent hos hbuilt ha hf hr
    refine ⟨api.functionName, api, hcallee, (hfunctions hapi).mpr ?_, hkey⟩
    rintro ⟨hnone, -⟩
    cases hkey.symm.trans hnone

end ScopeNames

open GraphQL in
/-- In the sample every name leads to the API it was given to. -/
theorem sample_scope_names : ∃ os apis, Config.DefaultScopeNames {} ∧ (∀ o ∈ os, Described {} o) ∧
    ((buildApis ⟨{}, .withAliases []⟩ os).settle { scalars := .withAliases [] }).outcome = .ok apis ∧
    apis.map (·.functionName) = ["create_raw_sdk", "create_team_sdk"] ∧
    apis.map (·.typeName) = ["Sdk", "TeamSdk"] ∧
    ∀ a ∈ apis, ofFunction? apis a.functionName = some a ∧ ofType? apis a.typeName = some a := by
  have hrun : (((classifyAll {} Document.sample).mapM (describe {})).toOption.any fun os =>
      chainKeys os = ["team"] && (((buildApis ⟨{}, .withAliases []⟩ os).settle
        { scalars := .withAliases [] }).outcome.toOption.any fun apis =>
          apis.map (·.functionName) = ["create_raw_sdk", "create_team_sdk"] &&
            apis.map (·.typeName) = ["Sdk", "TeamSdk"])) = true := by
    decide +kernel
  obtain ⟨os, hos, hrun⟩ := (Option.any_eq_true _ _).mp hrun
  simp only [Bool.and_eq_true, decide_eq_true_eq] at hrun
  obtain ⟨hkeys, hbuilt⟩ := hrun
  obtain ⟨apis, hapis, hrun⟩ := (Option.any_eq_true _ _).mp hbuilt
  simp only [Bool.and_eq_true, decide_eq_true_eq] at hrun
  have hdefault : Config.DefaultScopeNames {} := ⟨rfl, rfl, rfl, rfl⟩
  have hdesc := described_of_mem Document.sample_wellNamed (eq_ok_of_toOption hos)
  obtain ⟨-, -, hlead, -⟩ := scope_names_iff hdefault hdesc (eq_ok_of_toOption hapis)
  refine ⟨os, apis, hdefault, hdesc, eq_ok_of_toOption hapis, hrun.1, hrun.2, hlead.mpr ?_⟩
  rw [hkeys]
  simp

namespace GraphQL

/-- A parent whose key is in the name of the root's function, a parent, and a child
of a key that differs from that of the parent in the case of the first letter. -/
def Document.rawAndTeams : Document := ⟨[
  .operation ⟨.query, some "raw", [.sampleId], [], [.field none "raw" [] [] []]⟩,
  .operation ⟨.query, some "team", [.sampleId], [], [.field none "team" [] [] []]⟩,
  .operation ⟨.query, some "TeamMembers", [.sampleId], [], [.field none "Team" [] [] []]⟩]⟩

end GraphQL

open GraphQL in
/-- **Overwritten scopes.** The function of the key `raw` replaces that of the root,
and the protocol of the key `Team` replaces that of the key `team`, on which the
result of the parent stands. -/
theorem overwritten_scopes : ∃ os apis declared log, (∀ o ∈ os, Described {} o) ∧
    (buildApis ⟨{}, .withAliases []⟩ os).settle { scalars := .withAliases [] } =
      ⟨.ok apis, declared, log⟩ ∧
    apis.map (·.key?) = [none, some "raw", some "team", some "Team"] ∧
    apis.map (·.functionName) =
      ["create_raw_sdk", "create_raw_sdk", "create_team_sdk", "create_Team_sdk"] ∧
    apis.map (·.typeName) = ["Sdk", "RawSdk", "TeamSdk", "TeamSdk"] ∧
    (ofFunction? apis "create_raw_sdk").map (·.key?) = some (some "raw") ∧
    (ofType? apis "TeamSdk").map (·.key?) = some (some "Team") ∧
    (Assoc.get? "TeamQueryResult" declared.results).map (·.bases) = some ["TeamSdk", "Protocol"] ∧
    ¬((apis.map (·.functionName)).Nodup ∧ (apis.map (·.typeName)).Nodup) := by
  have hrun : (((classifyAll {} Document.rawAndTeams).mapM (describe {})).toOption.any fun os =>
      let built := (buildApis ⟨{}, .withAliases []⟩ os).settle { scalars := .withAliases [] }
      decide ((Assoc.get? "TeamQueryResult" built.declared.results).map (·.bases) =
        some ["TeamSdk", "Protocol"]) && (built.outcome.toOption.any fun apis =>
        apis.map (·.key?) = [none, some "raw", some "team", some "Team"] &&
        (apis.map (·.functionName) =
          ["create_raw_sdk", "create_raw_sdk", "create_team_sdk", "create_Team_sdk"] &&
        (apis.map (·.typeName) = ["Sdk", "RawSdk", "TeamSdk", "TeamSdk"] &&
        ((ofFunction? apis "create_raw_sdk").map (·.key?) = some (some "raw") &&
        (ofType? apis "TeamSdk").map (·.key?) = some (some "Team")))))) = true := by
    decide +kernel
  obtain ⟨os, hos, hrun⟩ := (Option.any_eq_true _ _).mp hrun
  simp only [Bool.and_eq_true, decide_eq_true_eq] at hrun
  obtain ⟨hbases, hbuilt⟩ := hrun
  obtain ⟨apis, hapis, hrun⟩ := (Option.any_eq_true _ _).mp hbuilt
  simp only [Bool.and_eq_true, decide_eq_true_eq] at hrun
  obtain ⟨hkeys, hfunctions, htypes, hroot, hteam⟩ := hrun
  have hwell : Document.rawAndTeams.WellNamed := by decide +kernel
  cases hsettle : (buildApis ⟨{}, .withAliases []⟩ os).settle { scalars := .withAliases [] } with
  | mk outcome declared log =>
    rw [hsettle] at hbases hapis
    cases eq_ok_of_toOption hapis
    refine ⟨os, apis, declared, log, described_of_mem hwell (eq_ok_of_toOption hos), hsettle, hkeys,
      hfunctions, htypes, hroot, hteam, hbases, ?_⟩
    rw [hfunctions]
    simp

end ChainedSdk
