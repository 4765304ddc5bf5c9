/-
# Names that methods capture

The methods of an API are declared inside of its function. There they stand before
names of the module and built-in ones, so a method with a name that the function or
another method means globally takes its place: of an operation `cast`, the call of
`cast` in what the function returns is a call of the method.

What an API means globally are `cast`, its own type and that of sets of operations, the
document of each of its operations, and for each parent among these also `vars`, the
type that it resolves to and the function of the API of its key
(`mem_globalNames_iff`). The names of types and documents have a capital letter, and
the name of a method has none (`Text.small_methodName`). So methods capture nothing but
`cast`, and where there is a parent, `vars` and the function that it calls
(`captured_iff`). A parameter has no name of a method: where a method would be named
like one, it gets a low line before its name. Nothing does that for the other names
(`captured_names`).

Key definitions: `Code.Expr.names`, `Code.FunctionDef.outerNames`,
`ScopedApi.globalNames`, `SdkOperation.Captures`.
Key theorems: `mem_globalNames_iff`, `captured_iff`.
-/
import ChainedSdk.Proofs.MethodNames
import ChainedSdk.Proofs.ScopeNames

namespace ChainedSdk

open Code (Expr Entry Statement FunctionDef)

/-! ### The names that code refers to -/

namespace Code

mutual

/-- The names that an expression refers to. -/
def Expr.names : Expr → List String
  | .name id => [id]
  | .literal _ => []
  | .call func args => func.names ++ namesOfAll args
  | .lambda body => body.names
  | .await value => value.names
  | .object entries maker? => maker?.toList ++ entryNames maker?.isSome entries

/-- The names that expressions refer to. -/
def namesOfAll : List Expr → List String
  | [] => []
  | e :: rest => e.names ++ namesOfAll rest

/-- The names that an entry refers to. Into an object with a constructor another
one is spread by its attributes, which `vars` tells. -/
def Entry.names (made : Bool) : Entry → List String
  | .property _ value => value.names
  | .spread value _ => (if made then ["vars"] else []) ++ value.names

/-- The names that entries refer to. -/
def entryNames (made : Bool) : List Entry → List String
  | [] => []
  | e :: rest => e.names made ++ entryNames made rest

end

/-- The names that a statement refers to, unless it is a declaration. -/
def Statement.names : Statement → List String
  | .ret value => value.names
  | .assign _ value => value.names
  | _ => []

/-- The name that a statement assigns to. -/
def Statement.target? : Statement → Option String
  | .assign target _ => some target
  | _ => none

namespace FunctionDef

/-- The names that are a function's own: its parameters, and what it assigns. -/
def ownNames (f : FunctionDef) : List String :=
  f.params.map (·.name) ++ f.body.filterMap Statement.target?

/-- The names that a function refers to and that are not its own. -/
def outerNames (f : FunctionDef) : List String :=
  (f.body.flatMap Statement.names).filter (· ∉ f.ownNames)

/-- The names that a function refers to in what it returns, apart from the values
of the entries, which are functions that it declares. -/
def frameNames (f : FunctionDef) : List String :=
  match f.body.getLast? with
  | some (.ret (.call func [type, .object _ maker?])) => func.names ++ type.names ++ maker?.toList
  | _ => []

end FunctionDef
end Code

/-- **The names that an API means globally**: its function and the methods inside refer
to them, and they are not their own and not parameters around. -/
def ScopedApi.globalNames (a : ScopedApi) : List String :=
  (a.function.frameNames ++ a.function.nested.flatMap FunctionDef.outerNames).filter
    (· ∉ a.function.params.map (·.name))

/-- The method of an operation has a name that is meant globally, among the methods of
`os`. -/
def SdkOperation.Captures (o : SdkOperation) (os : List SdkOperation) : Prop :=
  o.methodStem = "cast" ∨ ∃ p ∈ os, ∃ key, p.role = .parent key ∧
    (o.methodStem = "vars" ∨ methodName o = "create_" ++ key ++ "_sdk")

/-! ### What methods mean globally -/

section Names

variable {s : Conventions} {o : SdkOperation} {scalars : ScalarRegistry}

theorem names_requesterCall (o : SdkOperation) :
    (Conventions.requesterCall ⟨{}, scalars⟩ o).names = ["wrapper", "requester", o.documentName]
      ++ (Conventions.requesterArgs ⟨{}, scalars⟩ o).names ++ ["options"] := by
  simp [Conventions.requesterCall, Expr.names, Code.namesOfAll, Config.namespacedDocument, present]

theorem names_chainedBody (o : SdkOperation) (callee result : String) :
    (Conventions.chainedBody ⟨{}, scalars⟩ o callee result).flatMap Statement.names
      = (Conventions.requesterCall ⟨{}, scalars⟩ o).names
        ++ ["cast", result, "OperationSet", "vars", "response", "vars", callee, "id", "requester",
          "wrapper"] := by
  simp [Conventions.chainedBody, Statement.names, Expr.names, Code.namesOfAll, Code.entryNames,
    Entry.names]

/-- The names of the generated code that are parameters or assigned to. -/
def localNames : List String :=
  ["id", "variables", "options", "response", "requester", "wrapper"]

theorem small_of_mem_localNames : ∀ n ∈ localNames, Text.Small n := by
  decide

theorem head?_of_mem_localNames :
    ∀ n ∈ localNames, n.toList.head? ≠ some 'c' ∧ n.toList.head? ≠ some '_' := by
  decide

/-- The arguments of a method have all names that the variables are passed by, but for
the id of a child. -/
theorem mem_names_requesterArgs {args : List Arg} {x : String}
    (hargs : (Conventions.operationArgs ⟨{}, scalars⟩ o).outcome = .ok args)
    (hx : x ∈ (Conventions.requesterArgs ⟨{}, scalars⟩ o).names) :
    x ∈ args.map (·.name) ∨ x = "id" ∧ (present o.role.childKey?).isSome = true := by
  have hargs := Conventions.operationArgs_outcome_eq_ok.mp hargs
  unfold Conventions.requesterArgs at hx
  rw [← Conventions.namedVariable?_isSome] at hx
  cases hv : o.definition.namedVariable? ({} : Config).idName with
  | none =>
    simp only [hv] at hargs hx
    by_cases hempty : o.definition.declared.isEmpty = true
    · simp [hempty, Expr.names, Code.entryNames] at hx
    · have hx : x = "variables" := by simpa [hempty, Expr.names] using hx
      rw [if_neg hempty] at hargs
      exact .inl (by simp [hargs, hx, Conventions.wholeArg])
  | some v =>
    simp only [hv] at hargs hx
    obtain ⟨more, rfl, hmore⟩ := hargs
    have hx : x = "id" ∨ o.definition.declaresOther "id" = true ∧ x = "variables" := by
      by_cases hother : o.definition.declaresOther "id" = true
      · simpa [hother, Expr.names, Code.entryNames, Entry.names] using hx
      · simpa [hother, Expr.names, Code.entryNames, Entry.names] using hx
    rcases hx with rfl | ⟨hother, rfl⟩
    · by_cases hchild : (present o.role.childKey?).isSome = true
      · exact .inr ⟨rfl, hchild⟩
      · exact .inl (by simp [hchild, Conventions.idArg])
    · rw [if_pos hother] at hmore
      obtain ⟨d, -, rfl⟩ := hmore
      exact .inl (by simp [Conventions.recordArg])

/-- A parent passes the id. -/
theorem id_mem_names_requesterArgs {key : String} (hd : Described {} o)
    (hr : o.role = .parent key) :
    "id" ∈ (Conventions.requesterArgs ⟨{}, scalars⟩ o).names := by
  have hid : o.definition.hasId {} = true := by
    rw [hd.role_eq] at hr
    exact (classify_eq_parent_iff.mp hr).2.1
  have hdeclares : o.definition.declares "id" = true := by
    obtain ⟨v, hv, hid⟩ := List.any_eq_true.mp hid
    refine List.any_eq_true.mpr ⟨v, hv, ?_⟩
    simp only [GraphQL.VariableDefinition.isId, Bool.and_eq_true] at hid
    exact hid.1
  unfold Conventions.requesterArgs
  simp [hdeclares, Expr.names, Code.entryNames, Entry.names]

/-- The names that are a method's own are those of its arguments, that of the options,
and, if it is that of a parent, that of the response. -/
theorem mem_ownNames {name x : String} {args : List Arg} {returns : Code.TypeExpr}
    {body : List Statement}
    (hargs : (Conventions.operationArgs ⟨{}, scalars⟩ o).outcome = .ok args) :
    x ∈ (Conventions.methodOf ⟨{}, scalars⟩ o name args returns body).ownNames ↔
      x ∈ args.map (·.name) ∨ x = "options" ∨ x ∈ body.filterMap Statement.target? := by
  have hdiffer : ["id", "variables", "options"].Nodup := by
    decide
  have hparams : x ∈ ((Conventions.methodOf ⟨{}, scalars⟩ o name args returns body).params).map
      (·.name) ↔ x ∈ (args ++ [Conventions.optionsArg ⟨{}, scalars⟩]).map (·.name) := by
    rw [List.mem_map, List.mem_map]
    constructor
    · rintro ⟨p, hp, rfl⟩
      obtain ⟨a, ha, rfl⟩ := (Conventions.mem_params_methodOf hdiffer hargs).mp hp
      exact ⟨a, ha, (param_name a).symm⟩
    · rintro ⟨a, ha, rfl⟩
      exact ⟨a.param, (Conventions.mem_params_methodOf hdiffer hargs).mpr ⟨a, ha, rfl⟩, param_name a⟩
  have hbody : (Conventions.methodOf ⟨{}, scalars⟩ o name args returns body).body = body := rfl
  rw [FunctionDef.ownNames, List.mem_append, hparams, hbody, List.map_append, List.mem_append,
    or_assoc]
  simp [Conventions.optionsArg]

/-- What the method of a parent means globally, besides its document. -/
def SdkOperation.chainedNames (o : SdkOperation) (key : String) : List String :=
  ["cast", o.resultType ++ "Result", "OperationSet", "vars", "create_" ++ key ++ "_sdk"]

/-- The names in the body of a method, and those that it assigns to. -/
theorem mem_names_body {body : List Statement} {x : String} (hd : Described {} o)
    (hbody : (Conventions.body ⟨{}, scalars⟩ o).outcome = .ok body) :
    (x ∈ body.flatMap Statement.names ↔ x ∈ (Conventions.requesterCall ⟨{}, scalars⟩ o).names ∨
      ∃ key, o.role = .parent key ∧
        (x ∈ o.chainedNames key ∨ x ∈ ["response", "id", "requester", "wrapper"])) ∧
    (x ∈ body.filterMap Statement.target? ↔ ∃ key, o.role = .parent key ∧ x = "response") := by
  have hbody := Conventions.body_outcome_eq_ok.mp hbody
  rw [hd.present_parentKey?] at hbody
  cases hr : o.role with
  | root | child key =>
    rw [hr] at hbody
    subst hbody
    simp [Statement.names, Statement.target?]
  | parent key =>
    rw [hr] at hbody
    obtain ⟨callee, result, hcallee, hresult, rfl⟩ := hbody
    have hkey : present (some key) = some key :=
      GraphQL.present_of_isName (hd.isName_key (by rw [hr]; rfl))
    rw [apiFunctionName_of_default rfl hkey] at hcallee
    rw [Conventions.declareResult_outcome_eq_ok, chainResultName_of_default rfl] at hresult
    cases hcallee
    cases hresult
    refine ⟨?_, ?_⟩
    · rw [names_chainedBody, List.mem_append]
      refine or_congr_right ?_
      simp only [Role.parent.injEq, exists_eq_left', SdkOperation.chainedNames, List.mem_cons,
        List.not_mem_nil, or_false]
      tauto
    · simp [Conventions.chainedBody, Statement.target?]

theorem not_small_documentName (hd : Described {} o) : ¬Text.Small o.documentName := by
  rw [SdkOperation.documentName, document_of_default rfl hd.operationNames_eq, Text.small_append]
  exact fun hs => absurd hs.2 (by decide)

theorem notMem_localNames_of_not_small {x : String} (h : ¬Text.Small x) : x ∉ localNames :=
  fun hm => h (small_of_mem_localNames x hm)

theorem notMem_localNames_of_chained {key x : String} (hx : x ∈ o.chainedNames key) :
    x ∉ localNames := by
  simp only [SdkOperation.chainedNames, List.mem_cons, List.not_mem_nil, or_false] at hx
  rcases hx with rfl | rfl | rfl | rfl | rfl
  · decide
  · exact notMem_localNames_of_not_small fun hs => absurd (Text.small_append.mp hs).2 (by decide)
  · decide
  · decide
  · exact fun hm => (head?_of_mem_localNames _ hm).1 (by simp)

/-- **What a method means globally**: its document, and, if it is that of a parent, what
it takes to merge the response with the API of its key. Where the method stands, the
`around` are parameters. -/
theorem mem_outerNames_iff {name x : String} {f : FunctionDef} (hd : Described {} o)
    (hf : (Conventions.method ⟨{}, scalars⟩ o name).outcome = .ok f) {around : List String}
    (haround : "requester" ∈ around ∧ "wrapper" ∈ around)
    (hid : (present o.role.childKey?).isSome = true → "id" ∈ around)
    (hlocal : ∀ n ∈ around, n ∈ localNames) :
    x ∈ f.outerNames ∧ x ∉ around ↔
      x = o.documentName ∨ ∃ key, o.role = .parent key ∧ x ∈ o.chainedNames key := by
  obtain ⟨args, returns, body, hargs, -, hbody, rfl⟩ := Conventions.method_outcome_eq_ok.mp hf
  obtain ⟨hnames, htargets⟩ := mem_names_body (x := x) hd hbody
  have hown : x ∈ (Conventions.methodOf ⟨{}, scalars⟩ o name args returns body).ownNames ↔ _ :=
    mem_ownNames hargs
  rw [htargets] at hown
  have houter : x ∈ (Conventions.methodOf ⟨{}, scalars⟩ o name args returns body).outerNames ↔
      x ∈ body.flatMap Statement.names ∧
        x ∉ (Conventions.methodOf ⟨{}, scalars⟩ o name args returns body).ownNames := by
    rw [FunctionDef.outerNames, List.mem_filter, decide_eq_true_eq]
    rfl
  rw [houter, hnames, hown]
  constructor
  · rintro ⟨⟨hx, hnot⟩, haway⟩
    simp only [not_or] at hnot
    -- the names that are passed on are parameters of the method or of the function around it
    have hpassed : x ∉ (Conventions.requesterArgs ⟨{}, scalars⟩ o).names := by
      intro hx
      rcases mem_names_requesterArgs hargs hx with hx | ⟨rfl, hchild⟩
      · exact hnot.1 hx
      · exact haway (hid hchild)
    rcases hx with hx | ⟨key, hr, hx | hx⟩
    · rw [names_requesterCall] at hx
      simp only [List.mem_append, List.mem_cons, List.not_mem_nil, or_false] at hx
      rcases hx with ((rfl | rfl | hx) | hx) | rfl
      · exact absurd haround.2 haway
      · exact absurd haround.1 haway
      · exact .inl hx
      · exact absurd hx hpassed
      · exact absurd rfl hnot.2.1
    · exact .inr ⟨key, hr, hx⟩
    · simp only [List.mem_cons, List.not_mem_nil, or_false] at hx
      rcases hx with rfl | rfl | rfl | rfl
      · exact absurd ⟨key, hr, rfl⟩ hnot.2.2
      · exact absurd (id_mem_names_requesterArgs hd hr) hpassed
      · exact absurd haround.1 haway
      · exact absurd haround.2 haway
  · intro hx
    have hnotLocal : x ∉ localNames := by
      rcases hx with rfl | ⟨key, -, hx⟩
      · exact notMem_localNames_of_not_small (not_small_documentName hd)
      · exact notMem_localNames_of_chained hx
    refine ⟨⟨?_, ?_⟩, fun hx => hnotLocal (hlocal x hx)⟩
    · rcases hx with rfl | ⟨key, hr, hx⟩
      · exact .inl (by simp [names_requesterCall])
      · exact .inr ⟨key, hr, .inl hx⟩
    · rintro (hx | rfl | ⟨key, -, rfl⟩)
      · have hsub := (Conventions.operationArgs_names hargs).subset hx
        exact hnotLocal ((show ["id", "variables"] ⊆ localNames by decide) hsub)
      · exact hnotLocal (by decide)
      · exact hnotLocal (by decide)

end Names

/-! ### What an API means globally -/

section Api

variable {os : List SdkOperation} {scalars : ScalarRegistry} {apis : List ScopedApi}
  {a : ScopedApi} {o : SdkOperation} {f : FunctionDef}

/-- The parameters of an API's function: the requester and the wrapper, and before them
the id if the API has a key. -/
theorem params_of_api (h : (buildApis ⟨{}, scalars⟩ os).outcome = .ok apis) (ha : a ∈ apis) :
    a.function.params.map (·.name) =
      (if a.key?.isSome then ["id"] else []) ++ ["requester", "wrapper"] := by
  have hbuilt := buildApi_of_mem h ha
  cases hkey : a.key? with
  | none =>
    rw [hkey] at hbuilt
    obtain ⟨functionName, typeName, ms, -, -, -, rfl⟩ := buildApi_outcome_eq_ok.mp hbuilt
    rfl
  | some key =>
    rw [hkey] at hbuilt
    exact params_of_chain_api (show ["id", "requester", "wrapper"].Nodup by decide)
      (present_of_mem_chainKeys (mem_chainKeys_of_mem h ha hkey)) hbuilt

/-- What an API's function returns refers to `cast`, to the API's type and to that of
sets of operations, besides its entries. -/
theorem frameNames_of_api (h : (buildApis ⟨{}, scalars⟩ os).outcome = .ok apis) (ha : a ∈ apis) :
    a.function.frameNames = ["cast", a.typeName, "OperationSet"] := by
  obtain ⟨functionName, typeName, ms, -, -, -, hapi⟩ :=
    buildApi_outcome_eq_ok.mp (buildApi_of_mem h ha)
  rw [hapi]
  unfold FunctionDef.frameNames Scope.api Scope.apiFunction
  simp only [List.getLast?_append]
  rfl

/-- The type of an API has a capital letter in its name. -/
theorem not_small_typeName (h : (buildApis ⟨{}, scalars⟩ os).outcome = .ok apis) (ha : a ∈ apis) :
    ¬Text.Small a.typeName := by
  have hc : ({} : Config).DefaultScopeNames := ⟨rfl, rfl, rfl, rfl⟩
  cases hkey : a.key? with
  | none =>
    rw [(root_names hc h ha hkey).2]
    decide
  | some key =>
    rw [(chain_names hc h ha hkey).2, Text.small_append]
    exact fun hs => absurd hs.2 (by decide)

theorem params_subset_localNames (h : (buildApis ⟨{}, scalars⟩ os).outcome = .ok apis)
    (ha : a ∈ apis) : ∀ n ∈ a.function.params.map (·.name), n ∈ localNames := by
  rw [params_of_api h ha]
  cases a.key? with
  | none => decide
  | some key =>
    show ∀ n ∈ ["id", "requester", "wrapper"], n ∈ localNames
    decide

/-- **What an API means globally**: `cast`, its type and that of sets of operations, and
what its methods mean globally. -/
theorem mem_globalNames_iff (hos : ∀ o ∈ os, Described {} o)
    (h : (buildApis ⟨{}, scalars⟩ os).outcome = .ok apis) (ha : a ∈ apis) {x : String} :
    x ∈ a.globalNames ↔ x ∈ ["cast", a.typeName, "OperationSet"] ∨ ∃ o ∈ a.operations,
      x = o.documentName ∨ ∃ key, o.role = .parent key ∧ x ∈ o.chainedNames key := by
  have hlocal := params_subset_localNames h ha
  have hframe : x ∈ ["cast", a.typeName, "OperationSet"] → x ∉ a.function.params.map (·.name) := by
    intro hx hm
    have hsmall := small_of_mem_localNames x (hlocal x hm)
    simp only [List.mem_cons, List.not_mem_nil, or_false] at hx
    rcases hx with rfl | rfl | rfl
    · exact absurd (hlocal _ hm) (by decide)
    · exact not_small_typeName h ha hsmall
    · exact absurd hsmall (by decide)
  have hmethod : ∀ {o f}, (o, f) ∈ a.methods →
      (x ∈ f.outerNames ∧ x ∉ a.function.params.map (·.name) ↔
        x = o.documentName ∨ ∃ key, o.role = .parent key ∧ x ∈ o.chainedNames key) := by
    intro o f hf
    obtain ⟨ho, hkey⟩ := (mem_operations_iff h ha).mp (List.of_mem_zip hf).1
    refine mem_outerNames_iff (hos o ho) (method_of_mem (buildApi_of_mem h ha) hf) ?_ ?_ hlocal
    · rw [params_of_api h ha]
      exact ⟨by simp, by simp⟩
    · intro hchild
      rw [params_of_api h ha, ← hkey, if_pos]
      · simp
      · exact Option.isSome_of_isSome_filter _ _ hchild
  rw [ScopedApi.globalNames, List.mem_filter, decide_eq_true_eq, List.mem_append,
    frameNames_of_api h ha, List.mem_flatMap]
  constructor
  · rintro ⟨hx | ⟨f, hf, hx⟩, hout⟩
    · exact .inl hx
    · obtain ⟨o, hof⟩ := exists_operation (buildApi_of_mem h ha) hf
      exact .inr ⟨o, (List.of_mem_zip hof).1, (hmethod hof).mp ⟨hx, hout⟩⟩
  · rintro (hx | ⟨o, ho, hx⟩)
    · exact ⟨.inl hx, hframe hx⟩
    · obtain ⟨f, hof⟩ := exists_method (buildApi_of_mem h ha) ho
      obtain ⟨hx, hout⟩ := (hmethod hof).mpr hx
      exact ⟨.inr ⟨f, (List.of_mem_zip hof).2, hx⟩, hout⟩

/-! ### What methods capture -/

/-- The name of a method inside an API's function is not that of a parameter. -/
theorem innerName_notMem {names : List String} (hnames : ∀ n ∈ names, n ∈ localNames) (m : String) :
    Scope.innerName names m ∉ names := by
  unfold Scope.innerName
  by_cases hm : m ∈ names
  · rw [if_pos (by simpa using hm)]
    intro hlow
    exact (head?_of_mem_localNames _ (hnames _ hlow)).2 (by simp)
  · rwa [if_neg (by simpa using hm)]

/-- A name that is not that of a parameter and does not start with a low line is that of
a method inside exactly if the method has it. -/
theorem innerName_eq_iff_of_notMem {names : List String} {m w : String} (hw : w ∉ names)
    (hhead : w.toList.head? ≠ some '_') : Scope.innerName names m = w ↔ m = w := by
  unfold Scope.innerName
  by_cases hm : m ∈ names
  · rw [if_pos (by simpa using hm)]
    constructor
    · rintro rfl
      simp at hhead
    · rintro rfl
      exact absurd hm hw
  · rw [if_neg (by simpa using hm)]

/-- A name inside has no capital letter. -/
theorem small_innerName {names : List String} {m : String} (hm : Text.Small m) :
    Text.Small (Scope.innerName names m) := by
  unfold Scope.innerName
  split
  · exact Text.small_append.mpr ⟨by decide, hm⟩
  · exact hm

/-- What has no capital letter and is meant globally. -/
theorem mem_globalNames_iff_of_small (hos : ∀ o ∈ os, Described {} o)
    (h : (buildApis ⟨{}, scalars⟩ os).outcome = .ok apis) (ha : a ∈ apis) {x : String}
    (hx : Text.Small x) : x ∈ a.globalNames ↔ x = "cast" ∨
      ∃ p ∈ a.operations, ∃ key, p.role = .parent key ∧
        (x = "vars" ∨ x = "create_" ++ key ++ "_sdk") := by
  have hcapital : ∀ {y : String}, ¬Text.Small y → x ≠ y := fun hy he => hy (he ▸ hx)
  have htype : x ≠ a.typeName := hcapital (not_small_typeName h ha)
  have hset : x ≠ "OperationSet" := hcapital (by decide)
  have hdocument : ∀ p ∈ a.operations, x ≠ p.documentName := fun p hp =>
    hcapital (not_small_documentName (hos p ((mem_operations_iff h ha).mp hp).1))
  have hresult : ∀ p : SdkOperation, x ≠ p.resultType ++ "Result" := fun p =>
    hcapital fun hs => absurd (Text.small_append.mp hs).2 (by decide)
  rw [mem_globalNames_iff hos h ha]
  simp only [SdkOperation.chainedNames, List.mem_cons, List.not_mem_nil, or_false, htype, hset,
    hresult, false_or]
  constructor
  · rintro (hx | ⟨p, hp, hx | ⟨key, hr, hx | hx⟩⟩)
    · exact .inl hx
    · exact absurd hx (hdocument p hp)
    · exact .inl hx
    · exact .inr ⟨p, hp, key, hr, hx⟩
  · rintro (hx | ⟨p, hp, key, hr, hx⟩)
    · exact .inl hx
    · exact .inr ⟨p, hp, .inr ⟨key, hr, .inr hx⟩⟩

/-- **Captured names.** No method inside the function of an API has the name of a
parameter. Its name is one that the API means globally exactly if it is `cast`, or, where
an operation of the API is a parent, `vars` or the function of the API of its key. So
nothing is captured exactly if no operation of the API is named like that. -/
theorem captured_iff (hos : ∀ o ∈ os, Described {} o)
    (h : (buildApis ⟨{}, scalars⟩ os).outcome = .ok apis) (ha : a ∈ apis) :
    (∀ f ∈ a.function.nested, f.name ∉ a.function.params.map (·.name)) ∧
    (∀ o f, (o, f) ∈ a.methods → (f.name ∈ a.globalNames ↔ o.Captures a.operations)) ∧
    ((∀ f ∈ a.function.nested, f.name ∉ a.globalNames) ↔
      ∀ o ∈ a.operations, ¬o.Captures a.operations) := by
  have hbuilt := buildApi_of_mem h ha
  have hlocal := params_subset_localNames h ha
  have hname : ∀ {o f}, (o, f) ∈ a.methods →
      f.name = Scope.innerName (a.function.params.map (·.name)) (methodName o) := fun hof =>
    Conventions.name_of_method (method_of_mem hbuilt hof)
  have hcaptures : ∀ o f, (o, f) ∈ a.methods →
      (f.name ∈ a.globalNames ↔ o.Captures a.operations) := by
    intro o f hof
    have ho := (hos o (mem_of_mem_methods h ha hof)).isName_name
    have hinner : ∀ {w : String}, w ∉ localNames → w.toList.head? ≠ some '_' →
        (f.name = w ↔ methodName o = w) := by
      intro w hw hhead
      rw [hname hof]
      exact innerName_eq_iff_of_notMem (fun hm => hw (hlocal w hm)) hhead
    have hword : ∀ {w : String}, w ∉ localNames → w.toList.head? ≠ some '_' → Text.IsWord w →
        (f.name = w ↔ o.methodStem = w) := fun hw hhead hword =>
      (hinner hw hhead).trans (methodName_eq_word_iff ho hword)
    have hcallee : ∀ key, f.name = "create_" ++ key ++ "_sdk" ↔
        methodName o = "create_" ++ key ++ "_sdk" := fun key =>
      hinner (fun hm => (head?_of_mem_localNames _ hm).1 (by simp)) (by simp)
    have hsmall : Text.Small f.name := by
      rw [hname hof]
      exact small_innerName (Text.small_methodName ho)
    rw [mem_globalNames_iff_of_small hos h ha hsmall, SdkOperation.Captures,
      hword (w := "cast") (by decide) (by decide) (by decide)]
    simp only [hword (w := "vars") (by decide) (by decide) (by decide), hcallee]
  refine ⟨fun f hf => ?_, hcaptures, ?_⟩
  · obtain ⟨o, hof⟩ := exists_operation hbuilt hf
    rw [hname hof]
    exact innerName_notMem hlocal _
  · constructor
    · intro hnone o ho hcaptured
      obtain ⟨f, hof⟩ := exists_method hbuilt ho
      exact hnone f (List.of_mem_zip hof).2 ((hcaptures o f hof).mpr hcaptured)
    · intro hnone f hf hm
      obtain ⟨o, hof⟩ := exists_operation hbuilt hf
      exact hnone o (List.of_mem_zip hof).1 ((hcaptures o f hof).mp hm)

end Api

open GraphQL in
/-- In the sample nothing is captured. -/
theorem sample_captured : ∃ os apis, (∀ o ∈ os, Described {} o) ∧
    (buildApis ⟨{}, .withAliases []⟩ os).outcome = .ok apis ∧
    apis.map (fun a => a.function.nested.map (·.name)) =
      [["team", "viewer", "issue_create"], ["issues"]] ∧
    ∀ a ∈ apis, ∀ f ∈ a.function.nested, f.name ∉ a.globalNames := by
  have hrun : (((classifyAll {} Document.sample).mapM (describe {})).toOption.any fun os =>
      (buildApis ⟨{}, .withAliases []⟩ os).outcome.toOption.any fun apis =>
        apis.map (fun a => a.function.nested.map (·.name)) =
          [["team", "viewer", "issue_create"], ["issues"]] &&
        apis.all fun a => a.operations.all fun o => o.methodStem ∉ ["cast", "vars"] &&
          (methodName o).toList.head? ≠ some 'c') = true := by
    decide +kernel
  obtain ⟨os, hos, hrun⟩ := (Option.any_eq_true _ _).mp hrun
  obtain ⟨apis, hapis, hrun⟩ := (Option.any_eq_true _ _).mp hrun
  simp only [Bool.and_eq_true, decide_eq_true_eq, List.all_eq_true] at hrun
  have hdesc := described_of_mem Document.sample_wellNamed (eq_ok_of_toOption hos)
  refine ⟨os, apis, hdesc, eq_ok_of_toOption hapis, hrun.1, fun a ha => ?_⟩
  refine (captured_iff hdesc (eq_ok_of_toOption hapis) ha).2.2.mpr fun o ho => ?_
  obtain ⟨hstem, hhead⟩ := hrun.2 a ha o ho
  rintro (hcast | ⟨p, -, key, -, hvars | hcallee⟩)
  · simp [hcast] at hstem
  · simp [hvars] at hstem
  · simp [hcallee] at hhead

namespace GraphQL

/-- A parent, and three operations named like what the generated code uses. -/
def Document.namedLikeUses : Document := ⟨[
  .operation ⟨.query, some "cast", [], [], [.field none "cast" [] [] []]⟩,
  .operation ⟨.query, some "team", [.sampleId], [], [.field none "team" [] [] []]⟩,
  .operation ⟨.query, some "vars", [], [], [.field none "vars" [] [] []]⟩,
  .operation ⟨.query, some "createTeamSdk", [], [], [.field none "createTeamSdk" [] [] []]⟩]⟩

end GraphQL

open GraphQL in
/-- **Captured calls.** The root API has methods `cast`, `vars` and `create_team_sdk`,
which are names that its function and the method of the parent mean globally. -/
theorem captured_names : ∃ os apis a, (∀ o ∈ os, Described {} o) ∧
    (buildApis ⟨{}, .withAliases []⟩ os).outcome = .ok apis ∧ a ∈ apis ∧ a.key? = none ∧
    a.function.nested.map (·.name) = ["cast", "team", "vars", "create_team_sdk"] ∧
    (∀ name ∈ ["cast", "vars", "create_team_sdk"], name ∈ a.globalNames) ∧
    ¬∀ f ∈ a.function.nested, f.name ∉ a.globalNames := by
  have hrun : (((classifyAll {} Document.namedLikeUses).mapM (describe {})).toOption.any fun os =>
      (buildApis ⟨{}, .withAliases []⟩ os).outcome.toOption.any fun apis => apis.any fun a =>
        a.key? = none &&
        (a.function.nested.map (·.name) = ["cast", "team", "vars", "create_team_sdk"] &&
          ["cast", "vars", "create_team_sdk"].all a.globalNames.contains)) = true := by
    decide +kernel
  obtain ⟨os, hos, hrun⟩ := (Option.any_eq_true _ _).mp hrun
  obtain ⟨apis, hapis, hrun⟩ := (Option.any_eq_true _ _).mp hrun
  obtain ⟨a, ha, hrun⟩ := List.any_eq_true.mp hrun
  simp only [Bool.and_eq_true, decide_eq_true_eq, List.all_eq_true, List.contains_iff_mem] at hrun
  obtain ⟨hkey, hnames, hglobal⟩ := hrun
  have hwell : Document.namedLikeUses.WellNamed := by decide +kernel
  refine ⟨os, apis, a, described_of_mem hwell (eq_ok_of_toOption hos), eq_ok_of_toOption hapis, ha,
    hkey, hnames, hglobal, fun hnone => ?_⟩
  have hcast : "cast" ∈ a.function.nested.map (·.name) := by
    rw [hnames]
    exact List.mem_cons_self
  obtain ⟨f, hf, hname⟩ := List.mem_map.mp hcast
  exact hnone f hf (hname ▸ hglobal "cast" List.mem_cons_self)

end ChainedSdk
