/-
# Signatures and bodies agree

The arguments of a method, the variables that it sends, its body, and the parameters
of the function around it are each worked out by themselves, from the role of the
operation and from which variables it declares. They agree. What is sent is the id
if it is declared, and the other variables if there are any
(`Conventions.mem_names_requesterArgs_iff`); so are the arguments, but for the id of
a child (`Conventions.mem_argNames_iff`), which is a parameter of the function
around it (`Scope.mem_params_around`).

So a body refers to no name that is not bound (`method_binds`): whatever is not meant
globally is a parameter of the method, or one of the function around it that the
method does not hide, or has been assigned to before. Nor does a method have a
parameter that it does not use. And the variables may be missing where they are
spread exactly if their parameter is nothing by default.

Key definitions: `Code.Bound`, `Code.FunctionDef.sent?`, `Conventions.Means`,
`Config.NamesDiffer`.
Key theorems: `Conventions.mem_names_requesterArgs_iff`,
`Conventions.mem_argNames_iff`, `Conventions.bound_body`, `method_binds`.
-/
import ChainedSdk.Proofs.Capture

namespace ChainedSdk

open Code (Expr Entry Statement FunctionDef Param)

namespace Code

/-- The entries of an object. -/
def Expr.entries : Expr → List Entry
  | .object entries _ => entries
  | _ => []

/-- The variables that a call of the requester in the wrapper sends. -/
def Expr.sent? : Expr → Option Expr
  | .call _ [.lambda (.call _ (_ :: sent :: _))] => some sent
  | _ => none

/-- The variables that a function sends first. -/
def FunctionDef.sent? (f : FunctionDef) : Option Expr :=
  match f.body with
  | .ret call :: _ => call.sent?
  | .assign _ (.await call) :: _ => call.sent?
  | _ => none

/-- Every name that the statements refer to is meant globally, or is known, or was
assigned to by a statement before. -/
def Bound (global : String → Prop) : List String → List Statement → Prop
  | _, [] => True
  | known, st :: rest =>
    (∀ x ∈ st.names, global x ∨ x ∈ known) ∧ Bound global (known ++ st.target?.toList) rest

end Code

/-- The names of the arguments of methods and APIs and of the response differ. -/
def Config.NamesDiffer (c : Config) : Prop :=
  [c.idName, c.variablesName, c.optionsName, c.requesterName, c.wrapperName, c.responseName].Nodup

instance (c : Config) : Decidable c.NamesDiffer := by
  unfold Config.NamesDiffer
  infer_instance

theorem Config.NamesDiffer.arguments {c : Config} (h : c.NamesDiffer) : c.ArgumentsDiffer := by
  unfold Config.NamesDiffer at h
  refine List.Nodup.sublist ?_ h
  exact .cons_cons _ (.cons_cons _ (.cons_cons _ (.cons_cons _ (.cons_cons _ (.cons _ .slnil)))))

/-- What a method means globally: its document, and if it is that of a parent, what it
takes to merge the response with the API of its key. -/
def Conventions.Means (s : Conventions) (o : SdkOperation) (x : String) : Prop :=
  x = s.config.namespacedDocument o.documentName ∨ ∃ key, o.role = .parent key ∧
    (x ∈ ["cast", "vars", s.config.operationSetType] ∨
      s.config.chainResultName o.resultType = .ok x ∨
      s.config.apiFunctionName (some key) = .ok x)

/-! ### Variables that are declared -/

namespace GraphQL.Operation

variable {o : Operation} {name : String}

/-- Where no variable has the name, all variables are others. -/
theorem declaresOther_iff_of_not_declares (h : o.declares name = false) :
    o.declaresOther name = true ↔ o.declared ≠ [] := by
  unfold declares at h
  unfold declaresOther
  rw [List.any_eq_false] at h
  rw [List.any_eq_true]
  constructor
  · rintro ⟨v, hv, -⟩
    exact List.ne_nil_of_mem hv
  · intro hsome
    obtain ⟨v, hv⟩ := List.exists_mem_of_ne_nil _ hsome
    have hother : ¬v.name = name := by simpa using h v hv
    exact ⟨v, hv, by simpa using hother⟩

theorem declares_of_hasId {c : Config} (h : o.hasId c = true) : o.declares c.idName = true := by
  obtain ⟨v, hv, hid⟩ := List.any_eq_true.mp h
  unfold VariableDefinition.isId at hid
  rw [Bool.and_eq_true] at hid
  exact List.any_eq_true.mpr ⟨v, hv, hid.1⟩

end GraphQL.Operation

/-! ### What is sent, and the arguments -/

namespace Conventions

variable {s : Conventions} {o : SdkOperation} {x : String}

/-- **What is sent** is the id if it is declared, and the other variables if there are
any. -/
theorem mem_names_requesterArgs_iff : x ∈ (s.requesterArgs o).names ↔
    x = s.config.idName ∧ o.definition.declares s.config.idName = true ∨
    x = s.config.variablesName ∧ o.definition.declaresOther s.config.idName = true := by
  unfold requesterArgs
  by_cases hid : o.definition.declares s.config.idName = true
  · rw [if_pos hid]
    by_cases hother : o.definition.declaresOther s.config.idName = true
    · simp [hid, hother, Expr.names, Code.entryNames, Entry.names]
    · simp [hid, hother, Expr.names, Code.entryNames, Entry.names]
  · rw [if_neg hid]
    have hall := GraphQL.Operation.declaresOther_iff_of_not_declares (Bool.eq_false_iff.mpr hid)
    by_cases hempty : o.definition.declared.isEmpty = true
    · have hnone : o.definition.declared = [] := List.isEmpty_iff.mp hempty
      simp [hid, hall, hnone, Expr.names, Code.entryNames]
    · have hsome : o.definition.declared ≠ [] := fun h => hempty (List.isEmpty_iff.mpr h)
      simp [hid, hall, hsome, Expr.names]

/-- The variables are sent exactly if there are others than the id, or any where there is
no id. -/
theorem variables_mem_requesterArgs_iff (h : s.config.NamesDiffer) :
    s.config.variablesName ∈ (s.requesterArgs o).names ↔
      o.definition.declaresOther s.config.idName = true ∨
      o.definition.declares s.config.idName = false ∧ o.definition.declared ≠ [] := by
  have hdiffer := h.arguments.method
  simp only [List.nodup_cons, List.mem_cons, not_or] at hdiffer
  rw [mem_names_requesterArgs_iff]
  constructor
  · rintro (⟨hname, -⟩ | ⟨-, hother⟩)
    · exact absurd hname.symm hdiffer.1.1
    · exact Or.inl hother
  · rintro (hother | ⟨hid, hsome⟩)
    · exact Or.inr ⟨rfl, hother⟩
    · exact Or.inr ⟨rfl, (GraphQL.Operation.declaresOther_iff_of_not_declares hid).mpr hsome⟩

/-- **The arguments for the variables** have the names of what is sent, but for the id
of a child. -/
theorem mem_argNames_iff {args : List Arg} (h : (s.operationArgs o).outcome = .ok args) :
    x ∈ args.map (·.name) ↔
      x = s.config.idName ∧ o.definition.declares s.config.idName = true ∧
        present o.role.childKey? = none ∨
      x = s.config.variablesName ∧ o.definition.declaresOther s.config.idName = true := by
  have hargs := operationArgs_outcome_eq_ok.mp h
  rw [← namedVariable?_isSome]
  cases hv : o.definition.namedVariable? s.config.idName with
  | none =>
    have hnot : o.definition.declares s.config.idName = false := by
      rw [← namedVariable?_isSome, hv]
      rfl
    have hall := GraphQL.Operation.declaresOther_iff_of_not_declares hnot
    rw [hv] at hargs
    simp only at hargs
    by_cases hempty : o.definition.declared.isEmpty = true
    · have hnone : o.definition.declared = [] := List.isEmpty_iff.mp hempty
      simp [hargs, hall, hnone]
    · have hsome : o.definition.declared ≠ [] := fun h => hempty (List.isEmpty_iff.mpr h)
      simp [hargs, hall, hsome, wholeArg]
  | some v =>
    rw [hv] at hargs
    obtain ⟨more, rfl, hmore⟩ := hargs
    have hid : x ∈ ((if (present o.role.childKey?).isSome then [] else
        [s.idArg o v.type.innermost]).map (·.name)) ↔
        x = s.config.idName ∧ present o.role.childKey? = none := by
      cases present o.role.childKey? with
      | none => simp [idArg]
      | some key => simp
    have hvariables : x ∈ more.map (·.name) ↔
        x = s.config.variablesName ∧ o.definition.declaresOther s.config.idName = true := by
      by_cases hother : o.definition.declaresOther s.config.idName = true
      · rw [if_pos hother] at hmore
        obtain ⟨d, -, rfl⟩ := hmore
        simp [recordArg, hother]
      · rw [if_neg hother] at hmore
        simp [hmore, hother]
    rw [List.map_append, List.mem_append, hid, hvariables]
    simp

theorem mem_names_requesterCall : x ∈ (s.requesterCall o).names ↔
    x = s.config.wrapperName ∨ x = s.config.requesterName ∨
    x = s.config.namespacedDocument o.documentName ∨ x ∈ (s.requesterArgs o).names ∨
    x = s.config.optionsName := by
  simp [requesterCall, Expr.names, Code.namesOfAll]

/-- The variables are spread as if they may be missing exactly if one of them may be
left out. -/
theorem mem_entries_requesterArgs_iff {guard : Bool} :
    Entry.spread (.name s.config.variablesName) guard ∈ (s.requesterArgs o).entries ↔
      o.definition.declares s.config.idName = true ∧
      o.definition.declaresOther s.config.idName = true ∧ guard = o.definition.hasOptional := by
  unfold requesterArgs
  by_cases hid : o.definition.declares s.config.idName = true
  · by_cases hother : o.definition.declaresOther s.config.idName = true
    · simp [hid, hother, Expr.entries]
    · simp [hid, hother, Expr.entries]
  · by_cases hempty : o.definition.declared.isEmpty = true
    · simp [hid, hempty, Expr.entries]
    · simp [hid, hempty, Expr.entries]

theorem id_mem_entries_requesterArgs_iff :
    Entry.property s.config.idName (.name s.config.idName) ∈ (s.requesterArgs o).entries ↔
      o.definition.declares s.config.idName = true := by
  unfold requesterArgs
  by_cases hid : o.definition.declares s.config.idName = true
  · simp [hid, Expr.entries]
  · by_cases hempty : o.definition.declared.isEmpty = true
    · simp [hid, hempty, Expr.entries]
    · simp [hid, hempty, Expr.entries]

end Conventions

/-! ### The parameters around a method -/

theorem mem_names_ofArgs {xs : List (Option Arg)} (h : ((xs.filterMap id).map (·.name)).Nodup)
    {x : String} : x ∈ (ArgList.ofArgs xs).params.map (·.name) ↔
      x ∈ (xs.filterMap id).map (·.name) := by
  have hpresent : ArgList.ofArgs xs = ArgList.ofArgs ((xs.filterMap id).map some) := by
    unfold ArgList.ofArgs uniqueArgs
    rw [List.filterMap_map]
    simp
  rw [hpresent, List.mem_map, List.mem_map]
  constructor
  · rintro ⟨p, hp, rfl⟩
    obtain ⟨a, ha, rfl⟩ := (mem_params_ofArgs h).mp hp
    exact ⟨a, ha, (param_name a).symm⟩
  · rintro ⟨a, ha, rfl⟩
    exact ⟨a.param, (mem_params_ofArgs h).mpr ⟨a, ha, rfl⟩, param_name a⟩

/-- **The parameters of an API's function** are the requester and the wrapper, and the
id if the API has a key. -/
theorem Scope.mem_params_api {t : Scope} (h : t.conventions.config.NamesDiffer)
    (ms : List Scope.Member) {x : String} : x ∈ (t.api ms).function.params.map (·.name) ↔
      x = t.conventions.config.idName ∧ (present t.key?).isSome = true ∨
      x = t.conventions.config.requesterName ∨ x = t.conventions.config.wrapperName := by
  have hdiffer := h.arguments.api
  have hgiven : (t.givenArgs.filterMap id).map (·.name) =
      (if (present t.key?).isSome then [t.conventions.config.idName] else []) ++
        [t.conventions.config.requesterName, t.conventions.config.wrapperName] := by
    unfold Scope.givenArgs
    cases present t.key? with
    | none => rfl
    | some key => rfl
  have hnodup : ((t.givenArgs.filterMap id).map (·.name)).Nodup := by
    rw [hgiven]
    refine List.Nodup.sublist ?_ hdiffer
    split
    · exact .refl _
    · exact .cons _ (.refl _)
  have hparams : x ∈ (t.api ms).function.params.map (·.name) ↔
      x ∈ (t.givenArgs.filterMap id).map (·.name) := mem_names_ofArgs hnodup
  rw [hparams, hgiven]
  cases present t.key? with
  | none => simp
  | some key => simp

namespace Conventions

variable {s : Conventions} {o : SdkOperation} {x : String}

theorem mem_paramNames_methodOf {name : String} {args : List Arg} {returns : Code.TypeExpr}
    {body : List Statement} (h : s.config.NamesDiffer)
    (hargs : (s.operationArgs o).outcome = .ok args) :
    x ∈ (s.methodOf o name args returns body).params.map (·.name) ↔
      x ∈ args.map (·.name) ∨ x = s.config.optionsName := by
  rw [List.mem_map]
  constructor
  · rintro ⟨p, hp, rfl⟩
    obtain ⟨a, ha, rfl⟩ := (mem_params_methodOf h.arguments.method hargs).mp hp
    rw [param_name]
    rcases List.mem_append.mp ha with ha | ha
    · exact Or.inl (List.mem_map.mpr ⟨a, ha, rfl⟩)
    · rw [List.mem_singleton.mp ha]
      exact Or.inr rfl
  · have hparam : ∀ a ∈ args ++ [s.optionsArg],
        ∃ p ∈ (s.methodOf o name args returns body).params, p.name = a.name := fun a ha =>
      ⟨a.param, (mem_params_methodOf h.arguments.method hargs).mpr ⟨a, ha, rfl⟩, param_name a⟩
    rintro (hx | rfl)
    · obtain ⟨a, ha, rfl⟩ := List.mem_map.mp hx
      exact hparam a (List.mem_append_left _ ha)
    · exact hparam s.optionsArg (List.mem_append_right _ List.mem_cons_self)

/-- The argument of the variables may be left out if one of the variables may be. -/
theorem optional_of_mem_operationArgs {args : List Arg} (h : s.config.idName ≠ s.config.variablesName)
    (hargs : (s.operationArgs o).outcome = .ok args) {a : Arg} (ha : a ∈ args)
    (hname : a.name = s.config.variablesName) :
    a.optional = o.definition.hasOptional ∧ a.default? = none := by
  have hargs := operationArgs_outcome_eq_ok.mp hargs
  cases hv : o.definition.namedVariable? s.config.idName with
  | none =>
    rw [hv] at hargs
    simp only at hargs
    subst hargs
    split at ha
    · cases ha
    · rw [List.mem_singleton.mp ha]
      exact ⟨rfl, rfl⟩
  | some v =>
    rw [hv] at hargs
    obtain ⟨more, rfl, hmore⟩ := hargs
    rcases List.mem_append.mp ha with ha | ha
    · -- the id has another name
      split at ha
      · cases ha
      · rw [List.mem_singleton.mp ha] at hname
        exact absurd hname h
    · split at hmore
      · obtain ⟨d, -, rfl⟩ := hmore
        rw [List.mem_singleton.mp ha]
        exact ⟨rfl, rfl⟩
      · subst hmore
        cases ha

/-- The parameter of the variables has a default exactly if one of them may be left
out. -/
theorem exists_default_iff {name : String} {args : List Arg} {returns : Code.TypeExpr}
    {body : List Statement} (h : s.config.NamesDiffer)
    (hargs : (s.operationArgs o).outcome = .ok args)
    (hother : o.definition.declaresOther s.config.idName = true) :
    (∃ p ∈ (s.methodOf o name args returns body).params, p.name = s.config.variablesName ∧
      p.default? = some (.literal .null)) ↔ o.definition.hasOptional = true := by
  have hdiffer := h.arguments.method
  simp only [List.nodup_cons, List.mem_cons, List.not_mem_nil, or_false, not_or] at hdiffer
  obtain ⟨⟨hid, -⟩, hoptions, -⟩ := hdiffer
  have hdefault : ∀ a ∈ args, a.name = s.config.variablesName →
      (a.param.default? = some (.literal .null) ↔ o.definition.hasOptional = true) := by
    intro a ha hname
    obtain ⟨hoptional, hnone⟩ := optional_of_mem_operationArgs hid hargs ha hname
    unfold Arg.param
    rw [hnone, hoptional]
    cases o.definition.hasOptional with
    | true => simp
    | false => simp
  constructor
  · rintro ⟨p, hp, hname, hp'⟩
    obtain ⟨a, ha, rfl⟩ := (mem_params_methodOf h.arguments.method hargs).mp hp
    rw [param_name] at hname
    rcases List.mem_append.mp ha with ha | ha
    · exact (hdefault a ha hname).mp hp'
    · rw [List.mem_singleton.mp ha] at hname
      exact absurd hname.symm hoptions
  · intro hoptional
    obtain ⟨a, ha, hname⟩ :=
      List.mem_map.mp ((mem_argNames_iff hargs).mpr (Or.inr ⟨rfl, hother⟩))
    refine ⟨a.param, (mem_params_methodOf h.arguments.method hargs).mpr
      ⟨a, List.mem_append_left _ ha, rfl⟩, ?_, (hdefault a ha hname).mpr hoptional⟩
    rw [param_name, hname]

/-! ### Bodies -/

/-- What a method does: a parent merges the response with the API of its key, and any
other operation returns the call. -/
theorem body_of_described {body : List Statement} (hd : Described s.config o)
    (hbody : (s.body o).outcome = .ok body) :
    body = [.ret (s.requesterCall o)] ∨ ∃ key callee result, o.role = .parent key ∧
      s.config.apiFunctionName (some key) = .ok callee ∧
      s.config.chainResultName o.resultType = .ok result ∧
      body = s.chainedBody o callee result := by
  have hbody := body_outcome_eq_ok.mp hbody
  rw [hd.present_parentKey?] at hbody
  cases hr : o.role with
  | root | child key =>
    rw [hr] at hbody
    exact Or.inl hbody
  | parent key =>
    rw [hr] at hbody
    obtain ⟨callee, result, hcallee, hresult, rfl⟩ := hbody
    exact Or.inr ⟨key, callee, result, rfl, hcallee, declareResult_outcome_eq_ok.mp hresult, rfl⟩

theorem sent?_of_described {name : String} {args : List Arg} {returns : Code.TypeExpr}
    {body : List Statement} (hd : Described s.config o) (hbody : (s.body o).outcome = .ok body) :
    (s.methodOf o name args returns body).sent? = some (s.requesterArgs o) := by
  rcases body_of_described hd hbody with rfl | ⟨key, callee, result, -, -, -, rfl⟩
  · rfl
  · rfl

theorem names_call_subset {body : List Statement} (hd : Described s.config o)
    (hbody : (s.body o).outcome = .ok body) :
    ∀ x ∈ (s.requesterCall o).names, x ∈ body.flatMap Statement.names := by
  rcases body_of_described hd hbody with rfl | ⟨key, callee, result, -, -, -, rfl⟩
  · intro x hx
    simpa [Statement.names] using hx
  · intro x hx
    exact List.mem_flatMap.mpr ⟨_, List.mem_cons_self, hx⟩

/-- Where the names of the call are bound, and the id, the requester and the wrapper are
known, a body is bound. -/
theorem bound_body {body : List Statement} {known : List String} (hd : Described s.config o)
    (hbody : (s.body o).outcome = .ok body)
    (hcall : ∀ x ∈ (s.requesterCall o).names, s.Means o x ∨ x ∈ known)
    (hid : (∃ key, o.role = .parent key) → s.config.idName ∈ known)
    (hrequester : s.config.requesterName ∈ known) (hwrapper : s.config.wrapperName ∈ known) :
    Code.Bound (s.Means o) known body := by
  rcases body_of_described hd hbody with rfl | ⟨key, callee, result, hr, hcallee, hresult, rfl⟩
  · exact ⟨hcall, trivial⟩
  · refine ⟨hcall, fun x hx => ?_, trivial⟩
    have hx : x ∈ ["cast", result, s.config.operationSetType, "vars", s.config.responseName, "vars",
        callee, s.config.idName, s.config.requesterName, s.config.wrapperName] := by
      simpa [Statement.names, Expr.names, Code.namesOfAll, Code.entryNames, Entry.names] using hx
    have hglobal : ∀ y, (y ∈ ["cast", "vars", s.config.operationSetType] ∨ y = result ∨ y = callee) →
        s.Means o y := by
      rintro y (hy | rfl | rfl)
      · exact Or.inr ⟨key, hr, Or.inl hy⟩
      · exact Or.inr ⟨key, hr, Or.inr (Or.inl hresult)⟩
      · exact Or.inr ⟨key, hr, Or.inr (Or.inr hcallee)⟩
    have hknown : ∀ y ∈ known, y ∈ known ++ [s.config.responseName] :=
      fun y hy => List.mem_append_left _ hy
    simp only [List.mem_cons, List.not_mem_nil, or_false] at hx hglobal
    rcases hx with rfl | rfl | rfl | rfl | rfl | rfl | rfl | rfl | rfl | rfl
    · exact Or.inl (hglobal _ (by simp))
    · exact Or.inl (hglobal _ (by simp))
    · exact Or.inl (hglobal _ (by simp))
    · exact Or.inl (hglobal _ (by simp))
    · exact Or.inr (List.mem_append_right _ List.mem_cons_self)
    · exact Or.inl (hglobal _ (by simp))
    · exact Or.inl (hglobal _ (by simp))
    · exact Or.inr (hknown _ (hid ⟨key, hr⟩))
    · exact Or.inr (hknown _ hrequester)
    · exact Or.inr (hknown _ hwrapper)

end Conventions

/-! ### Methods -/

/-- The function around a method takes the id exactly if the operation is a child. -/
theorem Scope.mem_params_around {t : Scope} {o : SdkOperation} (h : t.conventions.config.NamesDiffer)
    (ht : Scope.accepts t.key? o = true) (ms : List Scope.Member) {x : String} :
    x ∈ (t.api ms).function.params.map (·.name) ↔
      x = t.conventions.config.idName ∧ (present o.role.childKey?).isSome = true ∨
      x = t.conventions.config.requesterName ∨ x = t.conventions.config.wrapperName := by
  rw [Scope.accepts_eq] at ht
  rw [Scope.mem_params_api h, of_decide_eq_true ht]

section Method

variable {s : Conventions} {o : SdkOperation} {name x : String} {args : List Arg}
  {returns : Code.TypeExpr} {body : List Statement}

/-- A method's own names are those of its arguments, and that of the response. -/
theorem ownNames_of_described (hnames : s.config.NamesDiffer) (hd : Described s.config o)
    (hargs : (s.operationArgs o).outcome = .ok args) (hbody : (s.body o).outcome = .ok body)
    (hx : x ∈ (s.methodOf o name args returns body).ownNames) :
    x = s.config.idName ∧ present o.role.childKey? = none ∨
      x ∈ [s.config.variablesName, s.config.optionsName, s.config.responseName] := by
  have htarget : ∀ y ∈ body.filterMap Statement.target?, y = s.config.responseName := by
    rcases Conventions.body_of_described hd hbody with rfl | ⟨_, _, _, -, -, -, rfl⟩
    · simp [Statement.target?]
    · simp [Conventions.chainedBody, Statement.target?]
  rcases List.mem_append.mp hx with hx | hx
  · rcases (Conventions.mem_paramNames_methodOf hnames hargs).mp hx with hx | rfl
    · rcases (Conventions.mem_argNames_iff hargs).mp hx with ⟨hid, -, hchild⟩ | ⟨rfl, -⟩
      · exact Or.inl ⟨hid, hchild⟩
      · simp
    · simp
  · rw [htarget x hx]
    simp

/-- No name of a method's own is that of a parameter around it. -/
theorem ownNames_notMem_around (hnames : s.config.NamesDiffer) (hd : Described s.config o)
    (hargs : (s.operationArgs o).outcome = .ok args) (hbody : (s.body o).outcome = .ok body)
    (hx : x ∈ (s.methodOf o name args returns body).ownNames) :
    ¬(x = s.config.idName ∧ (present o.role.childKey?).isSome = true ∨
      x = s.config.requesterName ∨ x = s.config.wrapperName) := by
  have hdiffer := hnames
  unfold Config.NamesDiffer at hdiffer
  simp only [List.nodup_cons, List.mem_cons, List.not_mem_nil, or_false, not_or] at hdiffer
  obtain ⟨⟨hiv, hio, hir, hiw, his⟩, ⟨-, hvr, hvw, -⟩, ⟨hor, how, -⟩, ⟨-, hrs⟩, hws, -⟩ := hdiffer
  intro haround
  rcases ownNames_of_described hnames hd hargs hbody hx with ⟨rfl, hchild⟩ | hx
  · rw [hchild] at haround
    rcases haround with ⟨-, h⟩ | h | h
    exacts [absurd h (by simp), hir h, hiw h]
  · simp only [List.mem_cons, List.not_mem_nil, or_false] at hx
    rcases hx with rfl | rfl | rfl
    · rcases haround with ⟨h, -⟩ | h | h
      exacts [hiv h.symm, hvr h, hvw h]
    · rcases haround with ⟨h, -⟩ | h | h
      exacts [hio h.symm, hor h, how h]
    · rcases haround with ⟨h, -⟩ | h | h
      exacts [his h.symm, hrs h.symm, hws h.symm]

/-- The names in the call of a method are bound by the method and around it. -/
theorem call_of_described (hnames : s.config.NamesDiffer)
    (hargs : (s.operationArgs o).outcome = .ok args) (hx : x ∈ (s.requesterCall o).names) :
    s.Means o x ∨ x ∈ (s.methodOf o name args returns body).params.map (·.name) ∨
      x = s.config.idName ∧ (present o.role.childKey?).isSome = true ∨
      x = s.config.requesterName ∨ x = s.config.wrapperName := by
  have hparam : ∀ y, y ∈ args.map (·.name) ∨ y = s.config.optionsName →
      y ∈ (s.methodOf o name args returns body).params.map (·.name) :=
    fun y hy => (Conventions.mem_paramNames_methodOf hnames hargs).mpr hy
  rcases Conventions.mem_names_requesterCall.mp hx with hx | hx | hx | hx | hx
  · exact Or.inr (Or.inr (Or.inr (Or.inr hx)))
  · exact Or.inr (Or.inr (Or.inr (Or.inl hx)))
  · exact Or.inl (Or.inl hx)
  · rcases Conventions.mem_names_requesterArgs_iff.mp hx with ⟨hname, hid⟩ | hother
    · -- the id of a child is no argument of its own
      cases hchild : present o.role.childKey? with
      | none =>
        have harg := (Conventions.mem_argNames_iff hargs).mpr (Or.inl ⟨hname, hid, hchild⟩)
        exact Or.inr (Or.inl (hparam x (Or.inl harg)))
      | some key => exact Or.inr (Or.inr (Or.inl ⟨hname, rfl⟩))
    · have harg := (Conventions.mem_argNames_iff hargs).mpr (Or.inr hother)
      exact Or.inr (Or.inl (hparam x (Or.inl harg)))
  · exact Or.inr (Or.inl (hparam x (Or.inr hx)))

/-- A parent takes the id. -/
theorem id_mem_params_of_parent (hnames : s.config.NamesDiffer) (hd : Described s.config o)
    (hargs : (s.operationArgs o).outcome = .ok args) {key : String} (hr : o.role = .parent key) :
    s.config.idName ∈ (s.methodOf o name args returns body).params.map (·.name) := by
  have hchild : present o.role.childKey? = none := by
    rw [hr]
    rfl
  rw [hd.role_eq] at hr
  have hid := GraphQL.Operation.declares_of_hasId (classify_eq_parent_iff.mp hr).2.1
  exact (Conventions.mem_paramNames_methodOf hnames hargs).mpr
    (Or.inl ((Conventions.mem_argNames_iff hargs).mpr (Or.inl ⟨rfl, hid, hchild⟩)))

/-- Every parameter of a method is passed on by its call. -/
theorem params_subset_call (hnames : s.config.NamesDiffer)
    (hargs : (s.operationArgs o).outcome = .ok args)
    (hx : x ∈ (s.methodOf o name args returns body).params.map (·.name)) :
    x ∈ (s.requesterCall o).names := by
  rw [Conventions.mem_names_requesterCall, Conventions.mem_names_requesterArgs_iff]
  rcases (Conventions.mem_paramNames_methodOf hnames hargs).mp hx with hx | hx
  · rcases (Conventions.mem_argNames_iff hargs).mp hx with ⟨hname, hid, -⟩ | hother
    · exact Or.inr (Or.inr (Or.inr (Or.inl (Or.inl ⟨hname, hid⟩))))
    · exact Or.inr (Or.inr (Or.inr (Or.inl (Or.inr hother))))
  · exact Or.inr (Or.inr (Or.inr (Or.inr hx)))

end Method

/-- **Signatures and bodies agree.** A method of an operation, in the function of the
scope that the operation belongs to, refers to its document and, if it is that of a
parent, to what it takes to merge the response; every other name in its body is a
parameter of the method, one of the function around it, or was assigned to before, and
none of the names of the method's own hides a parameter around it. All of its
parameters are used. It sends the id exactly if the operation declares it, and the
variables exactly if there are others; and where these are spread, they may be missing
exactly if their parameter is nothing by default. -/
theorem method_binds {s : Conventions} {o : SdkOperation} {name : String} {f : FunctionDef}
    (hnames : s.config.NamesDiffer) (hd : Described s.config o)
    (hf : (s.method o name).outcome = .ok f) {t : Scope} (hs : t.conventions = s)
    (ht : Scope.accepts t.key? o = true) (ms : List Scope.Member) :
    let around := (t.api ms).function.params.map (·.name)
    Code.Bound (s.Means o) (f.params.map (·.name) ++ around) f.body ∧
    (∀ x ∈ f.ownNames, x ∉ around) ∧
    (∀ p ∈ f.params, p.name ∈ f.body.flatMap Statement.names) ∧
    ∃ sent, f.sent? = some sent ∧
      (Entry.property s.config.idName (.name s.config.idName) ∈ sent.entries ↔
        o.definition.declares s.config.idName = true) ∧
      (s.config.variablesName ∈ sent.names ↔
        o.definition.declaresOther s.config.idName = true ∨
        o.definition.declares s.config.idName = false ∧ o.definition.declared ≠ []) ∧
      ∀ guard, Entry.spread (.name s.config.variablesName) guard ∈ sent.entries →
        (guard = true ↔ ∃ p ∈ f.params, p.name = s.config.variablesName ∧
          p.default? = some (.literal .null)) := by
  intro around
  obtain ⟨args, returns, body, hargs, -, hbody, rfl⟩ := Conventions.method_outcome_eq_ok.mp hf
  have haround : ∀ x, x ∈ around ↔ x = s.config.idName ∧ (present o.role.childKey?).isSome = true ∨
      x = s.config.requesterName ∨ x = s.config.wrapperName := by
    intro x
    subst hs
    exact Scope.mem_params_around hnames ht ms
  refine ⟨?_, fun x hx hx' => ?_, fun p hp => ?_, s.requesterArgs o,
    Conventions.sent?_of_described hd hbody, Conventions.id_mem_entries_requesterArgs_iff,
    Conventions.variables_mem_requesterArgs_iff hnames, fun guard hguard => ?_⟩
  · refine Conventions.bound_body hd hbody (fun x hx => ?_) ?_ ?_ ?_
    · rcases call_of_described hnames hargs hx with hx | hx | hx
      · exact Or.inl hx
      · exact Or.inr (List.mem_append_left _ hx)
      · exact Or.inr (List.mem_append_right _ ((haround x).mpr hx))
    · rintro ⟨key, hr⟩
      exact List.mem_append_left _ (id_mem_params_of_parent hnames hd hargs hr)
    · exact List.mem_append_right _ ((haround _).mpr (Or.inr (Or.inl rfl)))
    · exact List.mem_append_right _ ((haround _).mpr (Or.inr (Or.inr rfl)))
  · exact ownNames_notMem_around hnames hd hargs hbody hx ((haround x).mp hx')
  · have hcall := params_subset_call hnames hargs (List.mem_map.mpr ⟨p, hp, rfl⟩)
    exact Conventions.names_call_subset hd hbody _ hcall
  · obtain ⟨-, hother, rfl⟩ := Conventions.mem_entries_requesterArgs_iff.mp hguard
    exact (Conventions.exists_default_iff hnames hargs hother).symm

open GraphQL in
/-- The child of the sample takes the id from the function around it, and sends it with
its other variable, which may be left out. -/
theorem sample_binds : ∃ os o f, (classifyAll {} Document.sample).mapM (describe {}) = .ok os ∧
    o ∈ os ∧ o.name = "TeamIssues" ∧ ({} : Config).NamesDiffer ∧ Described {} o ∧
    ((Config.conventions {}).method o "issues").outcome = .ok f ∧
    let t : Scope := ⟨Config.conventions {}, some "team", "create_team_sdk", "TeamSdk", []⟩
    Scope.accepts t.key? o = true ∧ f.params.map (·.name) = ["variables", "options"] ∧
    Code.Bound ((Config.conventions {}).Means o)
      (["variables", "options"] ++ (t.api []).function.params.map (·.name)) f.body ∧
    ∃ sent, f.sent? = some sent ∧ Entry.property "id" (.name "id") ∈ sent.entries ∧
      "variables" ∈ sent.names := by
  have hrun : (((classifyAll {} Document.sample).mapM (describe {})).toOption.any fun os =>
      os.any fun o => decide (o.name = "TeamIssues" ∧ Scope.accepts (some "team") o = true ∧
        o.definition.declares "id" = true ∧ o.definition.declaresOther "id" = true) &&
      ((Config.conventions {}).method o "issues").outcome.toOption.any fun f =>
        f.params.map (·.name) = ["variables", "options"]) = true := by decide +kernel
  obtain ⟨os, hos, hrun⟩ := (Option.any_eq_true _ _).mp hrun
  obtain ⟨o, ho, hrun⟩ := List.any_eq_true.mp hrun
  obtain ⟨hfacts, hrun⟩ := Bool.and_eq_true_iff.mp hrun
  obtain ⟨hname, haccepts, hid, hother⟩ := of_decide_eq_true hfacts
  obtain ⟨f, hf, hparams⟩ := (Option.any_eq_true _ _).mp hrun
  have hparams := of_decide_eq_true hparams
  have hd := described_of_mem Document.sample_wellNamed (eq_ok_of_toOption hos) o ho
  have hdiffer : ({} : Config).NamesDiffer := by decide
  obtain ⟨hbound, -, -, sent, hsent, hsentId, hsentOthers, -⟩ :=
    method_binds (s := Config.conventions {}) hdiffer hd (eq_ok_of_toOption hf)
      (t := ⟨Config.conventions {}, some "team", "create_team_sdk", "TeamSdk", []⟩) rfl haccepts []
  rw [hparams] at hbound
  exact ⟨os, o, f, eq_ok_of_toOption hos, ho, hname, hdiffer, hd, eq_ok_of_toOption hf, haccepts,
    hparams, hbound, sent, hsent, hsentId.mpr hid, hsentOthers.mpr (Or.inl hother)⟩

end ChainedSdk
