/-
# What an API returns, and what its protocol promises

For each operation of an API, in order, its protocol promises a method, its
function declares the method of the operation, and the object it returns has an
entry (`promised_of_buildApi`). The promise and the method agree on everything
but the object the method is called on. The entry has the name of the promise,
but it refers to the function by the name that the function has inside the API,
where of several functions of one name the last one counts.

That name is the name of the method, or that with an underscore before it if a
parameter has the name of the method. So the names of the functions differ
unless two methods are named like a parameter and like that parameter with an
underscore before it (`nested_names_nodup_iff`); and each entry leads to the
function of its own operation exactly if the names differ (`conforms_iff`). Of
`teamId` and `team_id` in the API of `team`, one method is named `id` like the
parameter, the other is named `_id`, and both entries lead to the second one
(`shadowed_entry`).

Key definitions: `Code.FunctionDef.resolve?`, `ScopedApi.Promised`,
`ScopedApi.Conforms`, `ScopedApi.Shadowing`.
Key theorems: `find?_reverse_eq_iff_nodup`, `promised_of_buildApi`,
`nested_names_nodup_iff`, `conforms_iff`.
-/
import ChainedSdk.Proofs.References

namespace ChainedSdk

open Code (Entry FunctionDef)

namespace Code.FunctionDef

/-- The function that a name stands for at the end of a function's body: of
several of one name that were declared in it the last one. -/
def resolve? (f : FunctionDef) (name : String) : Option FunctionDef :=
  f.nested.reverse.find? (·.name = name)

end Code.FunctionDef

namespace ScopedApi

/-- What the protocol of an API promises for its `i`-th operation is a method
with the name of the operation's; its function declares the method of the
operation, which agrees with the promise; and what it returns refers to that
method by name. -/
structure Promised (a : ScopedApi) (s : Conventions) (i : Nat) (o : SdkOperation)
    (stub f : FunctionDef) : Prop where
  promise : a.protocol.methods[i]? = some stub
  method : a.function.nested[i]? = some f
  synthesised : (s.method o f.name).outcome = .ok f
  entry : a.function.entries[i]? = some (.property (methodName o) (.name f.name))
  name : stub.name = methodName o
  async : stub.signature.async = f.signature.async
  returns : stub.signature.returns? = f.signature.returns?
  params : stub.params = { name := "self" } :: f.params

/-- The object that an API's function returns is what its protocol promises: for
each operation, the name in its entry leads to the method of that operation. -/
def Conforms (a : ScopedApi) (s : Conventions) : Prop :=
  ∀ i o, a.operations[i]? = some o →
    ∃ stub f, a.Promised s i o stub f ∧ a.function.resolve? f.name = some f

/-- A method of the API is named like a parameter around it, and another one like
that parameter with an underscore before it. -/
def Shadowing (a : ScopedApi) : Prop :=
  ∃ o ∈ a.operations, ∃ p ∈ a.operations,
    methodName o ∈ a.function.params.map (·.name) ∧
    methodName p ∉ a.function.params.map (·.name) ∧ methodName p = "_" ++ methodName o

end ScopedApi

/-! ### The last one of a name -/

/-- **The last one counts.** Where all elements of a list differ, each of them is
the last one of its key exactly if the keys differ too. -/
theorem find?_reverse_eq_iff_nodup {α κ : Type} [DecidableEq κ] {key : α → κ} {xs : List α}
    (hn : xs.Nodup) : (∀ x ∈ xs, xs.reverse.find? (fun y => key y = key x) = some x) ↔
      (xs.map key).Nodup := by
  rw [List.nodup_map_iff_inj_on hn]
  constructor
  · intro h x hx y hy hxy
    have hlast := h x hx
    rw [hxy, h y hy] at hlast
    exact (Option.some.inj hlast).symm
  · intro h x hx
    cases hf : xs.reverse.find? (fun y => key y = key x) with
    | none =>
      have hnone := List.find?_eq_none.mp hf x (List.mem_reverse.mpr hx)
      simp at hnone
    | some y =>
      have hy : y ∈ xs := List.mem_reverse.mp (List.mem_of_find?_eq_some hf)
      have hkey : key y = key x := by simpa using List.find?_some hf
      rw [h y hy x hx hkey]

/-! ### Operations with documents of one name -/

theorem lowerFirst_stripStart_eq {s t key : String} (hs : GraphQL.isName s = true)
    (ht : GraphQL.isName t = true) (hkey : key ≠ "") (h : Text.upperFirst s = Text.upperFirst t) :
    Text.lowerFirst (stripStart s key) = Text.lowerFirst (stripStart t key) := by
  obtain ⟨c, d, cs, hsl, htl, -, -, hcd⟩ := Text.exists_tail_of_upperFirst_eq hs ht h
  have hstarts : startsIgnoringCase s key = startsIgnoringCase t key := by
    unfold startsIgnoringCase
    rw [hsl, htl, List.map_cons, List.map_cons, hcd]
  unfold stripStart
  rw [hstarts]
  split
  · obtain ⟨n, hn⟩ : ∃ n, key.toList.length = n + 1 := by
      cases hk : key.toList with
      | nil => exact absurd (String.toList_injective (by rw [hk]; rfl)) hkey
      | cons k ks => exact ⟨_, rfl⟩
    rw [hsl, htl, hn, List.drop_succ_cons, List.drop_succ_cons]
  · exact Text.lowerFirst_eq_of_upperFirst_eq hs ht h

/-- Operations of one scope whose names differ in the case of the first letter
have methods of one name. -/
theorem methodName_congr {o p : SdkOperation} (ho : GraphQL.isName o.name = true)
    (hp : GraphQL.isName p.name = true) (hk : o.role.childKey? = p.role.childKey?)
    (h : Text.upperFirst o.name = Text.upperFirst p.name) : methodName o = methodName p := by
  have hwhole := Text.lowerFirst_eq_of_upperFirst_eq ho hp h
  unfold methodName
  rw [hk, hwhole]
  cases hkey : present p.role.childKey? with
  | none => rfl
  | some key =>
    have hne : key ≠ "" := by
      have hfilter := (Option.filter_eq_some_iff.mp hkey).2
      exact of_decide_eq_true hfilter
    simp only [lowerFirst_stripStart_eq ho hp hne h]

theorem namespacedDocument_inj {c : Config} {x y : String}
    (h : c.namespacedDocument x = c.namespacedDocument y) : x = y := by
  unfold Config.namespacedDocument at h
  split at h
  · exact (String.append_right_inj _).mp h
  · exact h

/-! ### The methods of one API -/

section Api

variable {s : Conventions} {os : List SdkOperation} {key? : Option String} {a : ScopedApi}

/-- **Promises.** An API has as many promises, methods and entries as operations,
and for each operation they belong together. -/
theorem promised_of_buildApi (h : (buildApi s os key?).outcome = .ok a) :
    a.protocol.methods.length = a.operations.length ∧
    a.function.nested.length = a.operations.length ∧
    a.function.entries.length = a.operations.length ∧
    ∀ i o, a.operations[i]? = some o → ∃ stub f, a.Promised s i o stub f := by
  obtain ⟨ms, hms, hnested, hentries, hstubs⟩ := members_of_buildApi h
  have hlen := hms.length_eq
  rw [hnested, hentries, hstubs]
  refine ⟨by simp [hlen], by simp [hlen], by simp [hlen], fun i o ho => ?_⟩
  obtain ⟨hi, rfl⟩ := List.getElem?_eq_some_iff.mp ho
  have him : i < ms.length := hlen ▸ hi
  obtain ⟨hname, hmethod⟩ := hms.get hi him
  have hget : ms[i]? = some ms[i] := List.getElem?_eq_getElem him
  have hinner := Conventions.name_of_method hmethod
  refine ⟨ms[i].stub, ms[i].function, ?_, ?_, ?_, ?_, hname, rfl, rfl, rfl⟩
  · rw [hstubs, List.getElem?_map, hget]
    rfl
  · rw [hnested, List.getElem?_map, hget]
    rfl
  · rw [List.get_eq_getElem, List.get_eq_getElem] at hmethod hinner
    rw [hinner]
    exact hmethod
  · rw [hentries, List.getElem?_map, hget]
    show some (Entry.property ms[i].name _) = _
    rw [show ms[i].name = methodName a.operations[i] from hname]

/-- The names of the functions inside an API. -/
theorem nested_names (h : (buildApi s os key?).outcome = .ok a) :
    a.function.nested.map (·.name) = a.operations.map fun o =>
      Scope.innerName (a.function.params.map (·.name)) (methodName o) := by
  refine (map_eq_of_forall₂ ?_ (methods_of_buildApi h)).symm
  intro o f hf
  exact (Conventions.name_of_method hf).symm

theorem innerName_eq_iff {names : List String} {m n : String} :
    Scope.innerName names m = Scope.innerName names n ↔
      m = n ∨ (m ∈ names ∧ n ∉ names ∧ n = "_" ++ m) ∨ (n ∈ names ∧ m ∉ names ∧ m = "_" ++ n) := by
  unfold Scope.innerName
  by_cases hm : m ∈ names
  · by_cases hn : n ∈ names
    · simp [hm, hn]
    · have hne : m ≠ n := fun e => hn (e ▸ hm)
      simp [hm, hn, hne, eq_comm]
  · by_cases hn : n ∈ names
    · have hne : m ≠ n := fun e => hm (e ▸ hn)
      simp [hm, hn, hne]
    · simp [hm, hn]

/-- **Two functions of one name.** The functions inside an API have different names
unless a parameter shadows one of their methods and another method has the name
that is made for it. -/
theorem nested_names_nodup_iff (h : (buildApi s os key?).outcome = .ok a) :
    (a.function.nested.map (·.name)).Nodup ↔ ¬a.Shadowing := by
  have hmethods := methodNames_nodup h
  have hinj := List.inj_on_of_nodup_map hmethods
  rw [nested_names h, List.nodup_map_iff_inj_on hmethods.of_map]
  constructor
  · rintro hall ⟨o, ho, p, hp, hin, hout, heq⟩
    have hop : o = p := hall o ho p hp (innerName_eq_iff.mpr (Or.inr (Or.inl ⟨hin, hout, heq⟩)))
    exact hout (hop ▸ hin)
  · intro hno o ho p hp hop
    rcases innerName_eq_iff.mp hop with heq | hshadow | hshadow
    · exact hinj ho hp heq
    · exact absurd ⟨o, ho, p, hp, hshadow⟩ hno
    · exact absurd ⟨p, hp, o, ho, hshadow⟩ hno

/-- The methods of different operations of an API are different, since they send
different documents. -/
theorem nested_nodup (hdoc : s.config.documentTemplate = ({} : Config).documentTemplate)
    (hos : ∀ o ∈ os, Named s.config o) (h : (buildApi s os key?).outcome = .ok a) :
    a.function.nested.Nodup := by
  have hdocuments : a.function.nested.map (·.document?) = a.operations.map fun o =>
      some (s.config.namespacedDocument o.documentName) := by
    refine (map_eq_of_forall₂ ?_ (methods_of_buildApi h)).symm
    intro o f hf
    exact (Conventions.document?_of_method hf).symm
  have hmethods := methodNames_nodup h
  apply List.Nodup.of_map (·.document?)
  rw [hdocuments, List.nodup_map_iff_inj_on hmethods.of_map]
  intro o ho p hp hop
  refine List.inj_on_of_nodup_map hmethods ho hp ?_
  rw [buildApi_operations h, List.mem_filter, Scope.accepts_eq] at ho hp
  obtain ⟨hno, kind, hko⟩ := hos o ho.1
  obtain ⟨hnp, kind', hkp⟩ := hos p hp.1
  have hname := namespacedDocument_inj (Option.some.inj hop)
  unfold SdkOperation.documentName at hname
  rw [document_of_default hdoc hko, document_of_default hdoc hkp] at hname
  exact methodName_congr hno hnp
    ((of_decide_eq_true ho.2).trans (of_decide_eq_true hp.2).symm)
    ((String.append_left_inj _).mp hname)

/-- **An API keeps its promises** exactly if its functions have different names,
and that is unless a method is named like a parameter and another one like that
parameter with an underscore before it. Its promises and methods agree in any
case. -/
theorem conforms_iff (hdoc : s.config.documentTemplate = ({} : Config).documentTemplate)
    (hos : ∀ o ∈ os, Named s.config o) (h : (buildApi s os key?).outcome = .ok a) :
    (a.protocol.methods.length = a.operations.length ∧
      a.function.nested.length = a.operations.length ∧
      a.function.entries.length = a.operations.length ∧
      ∀ i o, a.operations[i]? = some o → ∃ stub f, a.Promised s i o stub f) ∧
    (a.Conforms s ∧ (a.function.nested.map (·.name)).Nodup ↔ ¬a.Shadowing) ∧
    (a.Conforms s ↔ ¬a.Shadowing) := by
  have hpromised := promised_of_buildApi h
  have hlast : (∀ f ∈ a.function.nested, a.function.resolve? f.name = some f) ↔
      (a.function.nested.map (·.name)).Nodup :=
    find?_reverse_eq_iff_nodup (nested_nodup hdoc hos h)
  have hconforms : a.Conforms s ↔ (a.function.nested.map (·.name)).Nodup := by
    rw [← hlast]
    constructor
    · intro hall f hf
      obtain ⟨i, hi, rfl⟩ := List.getElem_of_mem hf
      have ho := List.getElem?_eq_getElem (hpromised.2.1 ▸ hi : i < a.operations.length)
      obtain ⟨stub, f, hp, hresolve⟩ := hall i _ ho
      have hfi : a.function.nested[i] = f :=
        Option.some.inj ((List.getElem?_eq_getElem hi).symm.trans hp.method)
      rw [hfi]
      exact hresolve
    · intro hall i o ho
      obtain ⟨stub, f, hp⟩ := hpromised.2.2.2 i o ho
      exact ⟨stub, f, hp, hall f (List.mem_of_getElem? hp.method)⟩
  have hnames := nested_names_nodup_iff h
  refine ⟨hpromised, ?_, hconforms.trans hnames⟩
  rw [hconforms, and_self, hnames]

end Api

namespace GraphQL

/-- Two children of one key, the methods of which are named `id` and `_id`. -/
def Document.twoIds : Document := ⟨[
  .operation ⟨.query, some "teamId", [.sampleId], [], [.field none "team" [] [] []]⟩,
  .operation ⟨.query, some "team_id", [.sampleId], [], [.field none "team" [] [] []]⟩]⟩

end GraphQL

open GraphQL in
/-- The API of the sample keeps its promises. -/
theorem sample_conforms : ∃ os a, (∀ o ∈ os, Named {} o) ∧
    (buildApi ⟨{}, .withAliases []⟩ os (some "team")).outcome = .ok a ∧
    a.operations.map methodName = ["issues"] ∧ a.Conforms ⟨{}, .withAliases []⟩ := by
  have hrun : (((classifyAll {} Document.sample).mapM (describe {})).toOption.any fun os =>
      (buildApi ⟨{}, .withAliases []⟩ os (some "team")).outcome.toOption.any fun a =>
        a.operations.map methodName = ["issues"] &&
          a.function.params.map (·.name) = ["id", "requester", "wrapper"]) = true := by
    decide +kernel
  obtain ⟨os, hos, hrun⟩ := (Option.any_eq_true _ _).mp hrun
  obtain ⟨a, ha, hrun⟩ := (Option.any_eq_true _ _).mp hrun
  simp only [Bool.and_eq_true, decide_eq_true_eq] at hrun
  have hnamed : ∀ o ∈ os, Named {} o := fun o ho =>
    (described_of_mem Document.sample_wellNamed (eq_ok_of_toOption hos) o ho).named
  have hbuilt := eq_ok_of_toOption ha
  refine ⟨os, a, hnamed, hbuilt, hrun.1, (conforms_iff rfl hnamed hbuilt).2.2.mpr ?_⟩
  rintro ⟨o, ho, p, -, hin, -, -⟩
  have hm : methodName o ∈ a.operations.map methodName := List.mem_map.mpr ⟨o, ho, rfl⟩
  rw [hrun.1, List.mem_singleton] at hm
  rw [hrun.2, hm] at hin
  simp at hin

open GraphQL in
/-- **A shadowed entry.** Of the two children of `team`, the method of the first
one is named like the parameter `id`, so it becomes `_id` inside the API, where
the second one has that name too and replaces it: what is promised as `id` sends
the document of the other operation. -/
theorem shadowed_entry : ∃ os a, (∀ o ∈ os, Named {} o) ∧
    (buildApi ⟨{}, .withAliases []⟩ os (some "team")).outcome = .ok a ∧
    a.protocol.methods.map (·.name) = ["id", "_id"] ∧
    a.function.nested.map (·.name) = ["_id", "_id"] ∧
    a.function.nested.map (·.document?) = [some "TeamIdDocument", some "Team_idDocument"] ∧
    (a.function.resolve? "_id").map (·.document?) = some (some "Team_idDocument") ∧
    ¬a.Conforms ⟨{}, .withAliases []⟩ := by
  have hrun : (((classifyAll {} Document.twoIds).mapM (describe {})).toOption.any fun os =>
      (buildApi ⟨{}, .withAliases []⟩ os (some "team")).outcome.toOption.any fun a =>
        a.operations.length = 2 &&
        (a.protocol.methods.map (·.name) = ["id", "_id"] &&
        (a.function.nested.map (·.name) = ["_id", "_id"] &&
        (a.function.nested.map (·.document?) = [some "TeamIdDocument", some "Team_idDocument"] &&
        (a.function.resolve? "_id").map (·.document?) = some (some "Team_idDocument"))))) = true := by
    decide +kernel
  obtain ⟨os, hos, hrun⟩ := (Option.any_eq_true _ _).mp hrun
  obtain ⟨a, ha, hrun⟩ := (Option.any_eq_true _ _).mp hrun
  simp only [Bool.and_eq_true, decide_eq_true_eq] at hrun
  obtain ⟨hlength, hstubs, hnames, hdocuments, hlast⟩ := hrun
  have hwell : Document.twoIds.WellNamed := by decide +kernel
  have hnamed : ∀ o ∈ os, Named {} o := fun o ho =>
    (described_of_mem hwell (eq_ok_of_toOption hos) o ho).named
  refine ⟨os, a, hnamed, eq_ok_of_toOption ha, hstubs, hnames, hdocuments, hlast, ?_⟩
  intro hconforms
  obtain ⟨stub, f, hp, hresolve⟩ :=
    hconforms 0 a.operations[0] (List.getElem?_eq_getElem (by omega))
  -- the first function is named `_id` and sends the first document
  have hname := congrArg (·[0]?) hnames
  have hdocument := congrArg (·[0]?) hdocuments
  simp only [List.getElem?_map, hp.method, Option.map_some, List.getElem?_cons_zero,
    Option.some.injEq] at hname hdocument
  rw [hname] at hresolve
  rw [hresolve, Option.map_some, hdocument] at hlast
  simp at hlast

end ChainedSdk
