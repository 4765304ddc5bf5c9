/-
# What a method is made of, and what it declares

A method has the arguments for the variables of its operation and one for the
options, and its result and its body are worked out apart from each other
(`Conventions.method_outcome_eq_ok`). A parent calls the function of the API of
its key (`Conventions.body_outcome_eq_ok`). What a method declares is the record
of its variables, if one of its parameters is of that type
(`Conventions.mem_operationArgs_effects_iff`), and the type it resolves to, if it
is a parent (`Conventions.mem_method_effects`).

Key definitions: `Code.TypeExpr.recordNames`, `Code.FunctionDef.recordNames`,
`Code.FunctionDef.chainedCall?`, `Code.FunctionDef.document?`,
`Conventions.methodOf`.
Key theorems: `Conventions.method_outcome_eq_ok`,
`Conventions.operationArgs_outcome_eq_ok`, `Conventions.body_outcome_eq_ok`,
`Conventions.mem_method_effects`, `Conventions.mem_operationArgs_effects_iff`.
-/
import ChainedSdk.Proofs.Arguments
import ChainedSdk.Proofs.Assembly

namespace ChainedSdk

open Code (TypeExpr Expr Entry Param Statement FunctionDef ClassDecl)

namespace Code

/-! ### What code refers to -/

mutual

/-- The names of the record types that an annotation refers to. -/
def TypeExpr.recordNames : TypeExpr → List String
  | .named _ => []
  | .generic _ args => TypeExpr.recordNamesOfAll args
  | .optional inner => inner.recordNames
  | .record r => [r.name]

/-- The names of the record types that annotations refer to. -/
def TypeExpr.recordNamesOfAll : List TypeExpr → List String
  | [] => []
  | t :: ts => t.recordNames ++ TypeExpr.recordNamesOfAll ts

end

/-- The names of the record types that the type of a parameter refers to. -/
def Param.recordNames (p : Param) : List String :=
  (p.type?.map TypeExpr.recordNames).getD []

/-- The names of the record types that the parameters of a function refer
to. -/
def FunctionDef.recordNames (f : FunctionDef) : List String :=
  f.params.flatMap Param.recordNames

/-- The call whose result is merged with the response in what a function
returns: the name of what is called, and the arguments. -/
def FunctionDef.chainedCall? (f : FunctionDef) : Option (String × List Expr) :=
  match f.body with
  | [.assign _ _, .ret (.call _ [_, .object [_, .spread (.call (.name callee) args) _] _])] =>
    some (callee, args)
  | _ => none

/-- The document that a call of the requester in the wrapper sends. -/
def Expr.document? : Expr → Option String
  | .call _ [.lambda (.call _ (.name document :: _))] => some document
  | _ => none

/-- The document that a function sends first. -/
def FunctionDef.document? (f : FunctionDef) : Option String :=
  match f.body with
  | .ret call :: _ => call.document?
  | .assign _ (.await call) :: _ => call.document?
  | _ => none

end Code

/-- The templates can be filled for an operation: that of the record of its variables
and, for a parent, those of its result and of the API of its key. -/
structure Config.Fills (c : Config) (o : SdkOperation) : Prop where
  omitType : ∃ name, c.omitTypeName o.variablesType c.idName = .ok name
  chainResult : ∀ key, present o.role.parentKey? = some key →
    ∃ name, c.chainResultName o.resultType = .ok name
  apiFunction : ∀ key, present o.role.parentKey? = some key →
    ∃ name, c.apiFunctionName (some key) = .ok name
  apiType : ∀ key, present o.role.parentKey? = some key →
    ∃ name, c.apiTypeName (some key) = .ok name

namespace Conventions

variable {s : Conventions} {o : SdkOperation}

/-! ### Arguments -/

/-- The argument of an operation's variables without the id, whose type is a
record. -/
def recordArg (s : Conventions) (o : SdkOperation) (record : ClassDecl) : Arg where
  name := s.config.variablesName
  type := .record record.recordType
  optional := o.definition.hasOptional
  description := s.variablesDescription o

/-- The argument of all variables of an operation. -/
def wholeArg (s : Conventions) (o : SdkOperation) : Arg where
  name := s.config.variablesName
  type := .named (s.config.namespacedType o.variablesType)
  optional := o.definition.hasOptional
  description := "variables to pass into the " ++ o.resultType

theorem declareOmit_outcome_eq_ok {d : ClassDecl} : (s.declareOmit o).outcome = .ok d ↔
    ∃ name, s.config.omitTypeName o.variablesType s.config.idName = .ok name ∧
      d = s.omitRecord o name := by
  unfold declareOmit
  simp only [Emit.bind_outcome_eq_ok, fromTemplate_outcome_eq_ok]
  constructor
  · rintro ⟨name, hname, _, -, _, -, h⟩
    cases h
    exact ⟨name, hname, rfl⟩
  · rintro ⟨name, hname, rfl⟩
    exact ⟨name, hname, (), rfl, (), rfl, rfl⟩

/-- The record of the variables is all that declaring it declares. -/
theorem mem_declareOmit_effects {d : ClassDecl} (h : (s.declareOmit o).outcome = .ok d)
    {e : Effect BuildError} (he : e.Declares) :
    e ∈ (s.declareOmit o).effects ↔ e = .record d := by
  obtain ⟨name, hname, rfl⟩ := declareOmit_outcome_eq_ok.mp h
  have huses : e ∉ (o.definition.otherVariables s.config.idName).flatMap fun v =>
      s.uses v.type.innermost := by
    intro hm
    obtain ⟨v, -, hm⟩ := List.mem_flatMap.mp hm
    exact not_declares_of_uses hm he
  unfold declareOmit
  rw [Emit.bind_effects (fromTemplate_outcome_eq_ok.mpr hname), Emit.tell_bind, Emit.tell_bind]
  simp [fromTemplate, Emit.ofExcept, Emit.pure_eq, huses]

/-- **The arguments for the variables.** An operation that has a variable with
the name of the id takes it by itself, unless it is a child, and a record of
the others; any other operation takes all its variables at once. -/
theorem operationArgs_outcome_eq_ok {args : List Arg} :
    (s.operationArgs o).outcome = .ok args ↔
      match o.definition.namedVariable? s.config.idName with
      | some v => ∃ more : List Arg, args =
          (if (present o.role.childKey?).isSome then [] else [s.idArg o v.type.innermost]) ++ more ∧
          if o.definition.declaresOther s.config.idName = true then
            ∃ d, (s.declareOmit o).outcome = .ok d ∧ more = [s.recordArg o d]
          else more = []
      | none => args = if o.definition.declared.isEmpty then [] else [s.wholeArg o] := by
  unfold operationArgs
  cases hv : o.definition.namedVariable? s.config.idName with
  | none =>
    simp only
    split
    · rw [Emit.pure_eq, Except.ok.injEq, eq_comm]
    · rw [Emit.pure_eq, Except.ok.injEq, eq_comm]
      rfl
  | some v =>
    simp only [Emit.tell_bind]
    by_cases hother : o.definition.declaresOther s.config.idName = true
    · simp only [hother, if_true, Emit.bind_outcome_eq_ok]
      constructor
      · rintro ⟨d, hd, h⟩
        cases h
        exact ⟨_, rfl, d, hd, rfl⟩
      · rintro ⟨more, rfl, d, hd, rfl⟩
        exact ⟨d, hd, rfl⟩
    · simp only [hother, Emit.pure_eq]
      constructor
      · intro h
        cases h
        exact ⟨[], by simp, rfl⟩
      · rintro ⟨more, rfl, rfl⟩
        simp

/-- The arguments for the variables have the names of the id and of the
variables. -/
theorem operationArgs_names {args : List Arg} (h : (s.operationArgs o).outcome = .ok args) :
    (args.map (·.name)).Sublist [s.config.idName, s.config.variablesName] := by
  have h := operationArgs_outcome_eq_ok.mp h
  cases hv : o.definition.namedVariable? s.config.idName with
  | none =>
    rw [hv] at h
    simp only at h
    subst h
    split
    · exact List.nil_sublist _
    · exact .cons _ (.refl _)
  | some v =>
    rw [hv] at h
    obtain ⟨more, rfl, hmore⟩ := h
    have hid : ((if (present o.role.childKey?).isSome then [] else
        [s.idArg o v.type.innermost]).map (·.name)).Sublist [s.config.idName] := by
      split
      · exact List.nil_sublist _
      · exact .refl _
    have hvariables : (more.map (·.name)).Sublist [s.config.variablesName] := by
      split at hmore
      · obtain ⟨d, -, rfl⟩ := hmore
        exact .refl _
      · rw [hmore]
        exact List.nil_sublist _
    rw [List.map_append]
    exact hid.append hvariables

theorem recordNames_param_of_named {a : Arg} {name : String} (h : a.type = .named name) :
    a.param.recordNames = [] := by
  unfold Arg.param Param.recordNames
  cases a.default? with
  | some value => simp [h, TypeExpr.recordNames]
  | none => cases a.optional <;> simp [h, TypeExpr.recordNames]

theorem recordNames_recordArg (record : ClassDecl) :
    (s.recordArg o record).param.recordNames = [record.name] := by
  unfold Arg.param Param.recordNames recordArg
  cases o.definition.hasOptional <;> simp [TypeExpr.recordNames, ClassDecl.recordType]

theorem typeHint_eq_named (s : Conventions) (typeName : String) :
    ∃ name, s.typeHint typeName = .named name := by
  unfold typeHint
  split
  · exact ⟨_, rfl⟩
  · exact ⟨_, rfl⟩

theorem recordNames_idArg (typeName : String) : (s.idArg o typeName).param.recordNames = [] := by
  obtain ⟨name, hname⟩ := typeHint_eq_named s typeName
  exact recordNames_param_of_named hname

theorem operationArgs_effects_of_no_id (hv : o.definition.namedVariable? s.config.idName = none) :
    (s.operationArgs o).effects = [] := by
  unfold operationArgs
  rw [hv]
  simp only
  split <;> rfl

/-- Where there is an id and variables beside it, the record without the id is
declared. -/
theorem mem_operationArgs_effects_of_other {v : GraphQL.VariableDefinition}
    (hv : o.definition.namedVariable? s.config.idName = some v)
    (hother : o.definition.declaresOther s.config.idName = true) {d : ClassDecl}
    (hd : (s.declareOmit o).outcome = .ok d) {e : Effect BuildError} (he : e.Declares) :
    e ∈ (s.operationArgs o).effects ↔ e = .record d := by
  have huses : e ∉ s.uses v.type.innermost := fun hm => not_declares_of_uses hm he
  unfold operationArgs
  simp only [hv, Emit.tell_bind, if_pos hother]
  rw [Emit.bind_effects hd, Emit.pure_eq, List.append_nil, List.mem_append,
    or_iff_right huses, mem_declareOmit_effects hd he]

theorem notMem_operationArgs_effects {v : GraphQL.VariableDefinition}
    (hv : o.definition.namedVariable? s.config.idName = some v)
    (hother : ¬o.definition.declaresOther s.config.idName = true) {e : Effect BuildError}
    (he : e.Declares) : e ∉ (s.operationArgs o).effects := by
  unfold operationArgs
  simp only [hv, Emit.tell_bind, if_neg hother, Emit.pure_eq, List.append_nil]
  exact fun hm => not_declares_of_uses hm he

/-- The argument for the id names no record. -/
theorem recordNames_idArgs {typeName : String} {a : Arg}
    (ha : a ∈ if (present o.role.childKey?).isSome then [] else [s.idArg o typeName]) :
    a.param.recordNames = [] := by
  split at ha
  · cases ha
  · rw [List.mem_singleton.mp ha]
    exact recordNames_idArg _

/-- The arguments declare the record of the variables exactly if it is the type
of one of them, and nothing else. -/
theorem mem_operationArgs_effects {args : List Arg} (h : (s.operationArgs o).outcome = .ok args)
    {e : Effect BuildError} (he : e.Declares) : e ∈ (s.operationArgs o).effects ↔
      ∃ record, e = .record (s.omitRecord o record) ∧ ∃ a ∈ args, record ∈ a.param.recordNames := by
  have hargs := operationArgs_outcome_eq_ok.mp h
  cases hv : o.definition.namedVariable? s.config.idName with
  | none =>
    rw [hv] at hargs
    simp only at hargs
    have hwhole : (s.wholeArg o).param.recordNames = [] := recordNames_param_of_named rfl
    rw [operationArgs_effects_of_no_id hv, hargs]
    constructor
    · intro hm
      cases hm
    · rintro ⟨record, -, a, ha, hm⟩
      split at ha
      · cases ha
      · rw [List.mem_singleton.mp ha, hwhole] at hm
        cases hm
  | some v =>
    rw [hv] at hargs
    obtain ⟨more, rfl, hmore⟩ := hargs
    by_cases hother : o.definition.declaresOther s.config.idName = true
    · rw [if_pos hother] at hmore
      obtain ⟨d, hd, rfl⟩ := hmore
      rw [mem_operationArgs_effects_of_other hv hother hd he]
      obtain ⟨name, -, rfl⟩ := declareOmit_outcome_eq_ok.mp hd
      constructor
      · rintro rfl
        refine ⟨name, rfl, _, List.mem_append_right _ List.mem_cons_self, ?_⟩
        rw [recordNames_recordArg]
        exact List.mem_cons_self
      · rintro ⟨record, rfl, a, ha, hm⟩
        rcases List.mem_append.mp ha with ha | ha
        · rw [recordNames_idArgs ha] at hm
          cases hm
        · rw [List.mem_singleton.mp ha, recordNames_recordArg] at hm
          rw [List.mem_singleton.mp hm]
          rfl
    · rw [if_neg hother] at hmore
      subst hmore
      rw [List.append_nil]
      constructor
      · exact fun hm => absurd hm (notMem_operationArgs_effects hv hother he)
      · rintro ⟨record, -, a, ha, hm⟩
        rw [recordNames_idArgs ha] at hm
        cases hm

/-! ### Results -/

theorem declareResult_outcome_eq_ok {key name : String} :
    (s.declareResult o key).outcome = .ok name ↔ s.config.chainResultName o.resultType = .ok name := by
  unfold declareResult
  simp only [Emit.bind_outcome_eq_ok, fromTemplate_outcome_eq_ok]
  constructor
  · rintro ⟨name, hname, _, -, h⟩
    cases h
    exact hname
  · intro hname
    exact ⟨name, hname, (), rfl, rfl⟩

/-- The declaration of the type that a parent of a key resolves to, under its
name. -/
def resultDeclaration (s : Conventions) (o : SdkOperation) (key name : String) :
    Except BuildError ClassDecl :=
  ((s.config.apiTypeName (some key)).mapError .template).map (s.resultProtocol o key name)

theorem declareResult_effects {key name : String} (h : (s.declareResult o key).outcome = .ok name) :
    (s.declareResult o key).effects = [.result name (s.resultDeclaration o key name)] := by
  have hname := fromTemplate_outcome_eq_ok.mpr (declareResult_outcome_eq_ok.mp h)
  unfold declareResult
  rw [Emit.bind_effects hname]
  rfl

/-- **The result of a method.** A parent resolves to a type of its own; any
other operation to its response. -/
theorem resultType_outcome_eq_ok {returns : TypeExpr} : (s.resultType o).outcome = .ok returns ↔
    match present o.role.parentKey? with
    | some key => ∃ name, (s.declareResult o key).outcome = .ok name ∧ returns = .named name
    | none => returns = .generic "Awaitable" [s.responseType o] := by
  unfold resultType
  cases present o.role.parentKey? with
  | none => simp only [Emit.pure_eq, Except.ok.injEq, eq_comm]
  | some key =>
    simp only [Emit.bind_outcome_eq_ok]
    simp only [Emit.pure_eq, Except.ok.injEq, eq_comm]

theorem resultType_effects {returns : TypeExpr} (h : (s.resultType o).outcome = .ok returns) :
    (s.resultType o).effects = match present o.role.parentKey? with
      | some key => (s.declareResult o key).effects
      | none => [] := by
  have hreturns := resultType_outcome_eq_ok.mp h
  unfold resultType
  cases hk : present o.role.parentKey? with
  | none => rfl
  | some key =>
    rw [hk] at hreturns
    obtain ⟨name, hname, -⟩ := hreturns
    simp only
    rw [Emit.bind_effects hname, Emit.pure_eq, List.append_nil]

/-! ### Bodies -/

/-- What a parent does: it awaits the response, and returns it merged with the
API of its key. -/
def chainedBody (s : Conventions) (o : SdkOperation) (apiFunction result : String) :
    List Statement :=
  [.assign s.config.responseName (.await (s.requesterCall o)),
    .ret (.call (.name "cast")
      [.name result,
        .object
          [.spread (.name s.config.responseName) false,
            .spread (.call (.name apiFunction)
              [.name s.config.idName, .name s.config.requesterName, .name s.config.wrapperName])
              false]
          (some s.config.operationSetType)])]

theorem body_outcome_eq_ok {body : List Statement} : (s.body o).outcome = .ok body ↔
    match present o.role.parentKey? with
    | some key => ∃ apiFunction result, s.config.apiFunctionName (some key) = .ok apiFunction ∧
        (s.declareResult o key).outcome = .ok result ∧ body = s.chainedBody o apiFunction result
    | none => body = [.ret (s.requesterCall o)] := by
  unfold Conventions.body
  cases present o.role.parentKey? with
  | none => simp only [Emit.pure_eq, Except.ok.injEq, eq_comm]
  | some key =>
    simp only [Emit.bind_outcome_eq_ok, fromTemplate_outcome_eq_ok]
    constructor
    · rintro ⟨apiFunction, hf, result, hr, h⟩
      cases h
      exact ⟨apiFunction, result, hf, hr, rfl⟩
    · rintro ⟨apiFunction, result, hf, hr, rfl⟩
      exact ⟨apiFunction, hf, result, hr, rfl⟩

theorem body_effects {body : List Statement} (h : (s.body o).outcome = .ok body) :
    (s.body o).effects = match present o.role.parentKey? with
      | some key => (s.declareResult o key).effects
      | none => [] := by
  have hbody := body_outcome_eq_ok.mp h
  unfold Conventions.body
  cases hk : present o.role.parentKey? with
  | none => rfl
  | some key =>
    rw [hk] at hbody
    obtain ⟨apiFunction, result, hf, hr, -⟩ := hbody
    simp only
    rw [Emit.bind_effects (fromTemplate_outcome_eq_ok.mpr hf), Emit.bind_effects hr, Emit.pure_eq,
      List.append_nil]
    rfl

/-! ### Methods -/

/-- The method of an operation with the given arguments, result and body. -/
def methodOf (s : Conventions) (o : SdkOperation) (name : String) (args : List Arg)
    (returns : TypeExpr) (body : List Statement) : FunctionDef :=
  let argList := ArgList.ofArgs ((args ++ [s.optionsArg]).map some)
  { signature := {
      name
      params := argList.params
      returns? := some returns
      doc? := some (argList.docBlock
        ["Call the " ++ s.config.sdkName ++ " api with the " ++ o.resultType]
        (some ("The wrapped result of the " ++ o.resultType)))
      async := o.role.level == .parent }
    body }

/-- Where the names of arguments differ, a method has a parameter for each of its
arguments and one for the options. -/
theorem mem_params_methodOf {name : String} {args : List Arg} {returns : TypeExpr}
    {body : List Statement} {p : Param}
    (hnames : [s.config.idName, s.config.variablesName, s.config.optionsName].Nodup)
    (hargs : (s.operationArgs o).outcome = .ok args) :
    p ∈ (s.methodOf o name args returns body).params ↔ ∃ a ∈ args ++ [s.optionsArg], a.param = p := by
  refine mem_params_ofArgs ?_
  rw [List.map_append]
  exact hnames.sublist ((operationArgs_names hargs).append (.refl [s.config.optionsName]))

/-- **Methods.** The arguments, the result and the body of a method are worked
out apart from each other and from its name. -/
theorem method_outcome_eq_ok {name : String} {f : FunctionDef} :
    (s.method o name).outcome = .ok f ↔ ∃ args returns body,
      (s.operationArgs o).outcome = .ok args ∧ (s.resultType o).outcome = .ok returns ∧
      (s.body o).outcome = .ok body ∧ f = s.methodOf o name args returns body := by
  unfold method
  simp only [Emit.bind_outcome_eq_ok]
  constructor
  · rintro ⟨args, hargs, _, -, _, -, returns, hreturns, body, hbody, h⟩
    cases h
    exact ⟨args, returns, body, hargs, hreturns, hbody, rfl⟩
  · rintro ⟨args, returns, body, hargs, hreturns, hbody, rfl⟩
    exact ⟨args, hargs, (), rfl, (), rfl, returns, hreturns, body, hbody, rfl⟩

/-! ### Templates that can be filled -/

theorem exists_declareOmit (h : s.config.Fills o) : ∃ d, (s.declareOmit o).outcome = .ok d := by
  obtain ⟨name, hname⟩ := h.omitType
  exact ⟨_, declareOmit_outcome_eq_ok.mpr ⟨name, hname, rfl⟩⟩

theorem exists_operationArgs (h : s.config.Fills o) :
    ∃ args, (s.operationArgs o).outcome = .ok args := by
  simp only [operationArgs_outcome_eq_ok]
  cases o.definition.namedVariable? s.config.idName with
  | none => exact ⟨_, rfl⟩
  | some v =>
    by_cases hother : o.definition.declaresOther s.config.idName = true
    · simp only [if_pos hother]
      obtain ⟨d, hd⟩ := exists_declareOmit h
      exact ⟨_, _, rfl, d, hd, rfl⟩
    · simp only [if_neg hother]
      exact ⟨_, _, rfl, rfl⟩

theorem exists_resultType (h : s.config.Fills o) :
    ∃ returns, (s.resultType o).outcome = .ok returns := by
  simp only [resultType_outcome_eq_ok]
  cases hkey : present o.role.parentKey? with
  | none => exact ⟨_, rfl⟩
  | some key =>
    obtain ⟨name, hname⟩ := h.chainResult key hkey
    exact ⟨_, name, declareResult_outcome_eq_ok.mpr hname, rfl⟩

theorem exists_body (h : s.config.Fills o) : ∃ body, (s.body o).outcome = .ok body := by
  simp only [body_outcome_eq_ok]
  cases hkey : present o.role.parentKey? with
  | none => exact ⟨_, rfl⟩
  | some key =>
    obtain ⟨name, hname⟩ := h.chainResult key hkey
    obtain ⟨apiFunction, hfunction⟩ := h.apiFunction key hkey
    exact ⟨_, apiFunction, name, hfunction, declareResult_outcome_eq_ok.mpr hname, rfl⟩

/-- Where the templates can be filled, each method can be built by itself. -/
theorem exists_method_of_fills (h : s.config.Fills o) (name : String) :
    ∃ f, (s.method o name).outcome = .ok f := by
  obtain ⟨args, hargs⟩ := exists_operationArgs h
  obtain ⟨returns, hreturns⟩ := exists_resultType h
  obtain ⟨body, hbody⟩ := exists_body h
  exact ⟨_, method_outcome_eq_ok.mpr ⟨args, returns, body, hargs, hreturns, hbody, rfl⟩⟩

/-! ### What methods declare -/

/-- A method sends the document of its operation. -/
theorem document?_of_method {name : String} {f : FunctionDef}
    (h : (s.method o name).outcome = .ok f) :
    f.document? = some (s.config.namespacedDocument o.documentName) := by
  obtain ⟨args, returns, body, -, -, hbody, rfl⟩ := method_outcome_eq_ok.mp h
  have hbody := body_outcome_eq_ok.mp hbody
  split at hbody
  · obtain ⟨apiFunction, result, -, -, rfl⟩ := hbody
    rfl
  · rw [hbody]
    rfl

theorem name_of_method {name : String} {f : FunctionDef} (h : (s.method o name).outcome = .ok f) :
    f.name = name := by
  obtain ⟨args, returns, body, -, -, -, rfl⟩ := method_outcome_eq_ok.mp h
  rfl

/-- What a method declares is what its arguments declare, and the type that a
parent resolves to. -/
theorem mem_method_effects {name : String} {f : FunctionDef} (h : (s.method o name).outcome = .ok f)
    {e : Effect BuildError} (he : e.Declares) : e ∈ (s.method o name).effects ↔
      e ∈ (s.operationArgs o).effects ∨ ∃ key result, present o.role.parentKey? = some key ∧
        s.config.chainResultName o.resultType = .ok result ∧
        e = .result result (s.resultDeclaration o key result) := by
  obtain ⟨args, returns, body, hargs, hreturns, hbody, -⟩ := method_outcome_eq_ok.mp h
  have hresults : (∃ key result, present o.role.parentKey? = some key ∧
      s.config.chainResultName o.resultType = .ok result ∧
      e = .result result (s.resultDeclaration o key result)) ↔ e ∈ (s.resultType o).effects := by
    rw [resultType_effects hreturns]
    have hreturns := resultType_outcome_eq_ok.mp hreturns
    cases hk : present o.role.parentKey? with
    | none => simp
    | some key =>
      rw [hk] at hreturns
      obtain ⟨result, hresult, -⟩ := hreturns
      simp only [declareResult_effects hresult, List.mem_singleton, Option.some.injEq,
        declareResult_outcome_eq_ok.mp hresult, Except.ok.injEq]
      constructor
      · rintro ⟨_, _, rfl, rfl, h⟩
        exact h
      · exact fun h => ⟨key, result, rfl, rfl, h⟩
  have hbodies : (s.body o).effects = (s.resultType o).effects := by
    rw [body_effects hbody, resultType_effects hreturns]
  have hlog : ∀ rs : List LogRecord, e ∉ rs.map (Effect.log (ε := BuildError)) := by
    intro rs hm
    obtain ⟨r, -, rfl⟩ := List.mem_map.mp hm
    exact he
  have hone : ∀ r : LogRecord, e ≠ .log r := by
    rintro r rfl
    exact he
  rw [hresults]
  unfold method
  rw [Emit.bind_effects hargs, Emit.tell_bind, Emit.tell_bind, Emit.bind_effects hreturns,
    Emit.bind_effects hbody, hbodies, Emit.pure_eq]
  simp [hlog, hone]

/-- **The records of methods.** Where the names of arguments differ, the arguments
declare the records that are types of parameters. -/
theorem mem_operationArgs_effects_iff {name : String} {f : FunctionDef}
    (hnames : [s.config.idName, s.config.variablesName, s.config.optionsName].Nodup)
    (h : (s.method o name).outcome = .ok f) {e : Effect BuildError} (he : e.Declares) :
    e ∈ (s.operationArgs o).effects ↔
      ∃ record ∈ f.recordNames, e = .record (s.omitRecord o record) := by
  obtain ⟨args, returns, body, hargs, -, -, rfl⟩ := method_outcome_eq_ok.mp h
  have hoptions : s.optionsArg.param.recordNames = [] := recordNames_param_of_named rfl
  rw [mem_operationArgs_effects hargs he]
  constructor
  · rintro ⟨record, rfl, a, ha, hm⟩
    exact ⟨record, List.mem_flatMap.mpr
      ⟨a.param, (mem_params_methodOf hnames hargs).mpr ⟨a, List.mem_append_left _ ha, rfl⟩, hm⟩, rfl⟩
  · rintro ⟨record, hm, rfl⟩
    obtain ⟨p, hp, hm⟩ := List.mem_flatMap.mp hm
    obtain ⟨a, ha, rfl⟩ := (mem_params_methodOf hnames hargs).mp hp
    rcases List.mem_append.mp ha with ha | ha
    · exact ⟨record, rfl, a, ha, hm⟩
    · rw [List.mem_singleton.mp ha, hoptions] at hm
      cases hm

theorem namedVariable?_isSome {o : GraphQL.Operation} {name : String} :
    (o.namedVariable? name).isSome = o.declares name := by
  unfold GraphQL.Operation.namedVariable? GraphQL.Operation.declares
  rw [Bool.eq_iff_iff, List.find?_isSome, List.any_eq_true]

/-- A method that takes a record takes that of its operation's variables without the
id, and the operation has the id and other variables. -/
theorem omitTypeName_of_mem_recordNames {name : String} {f : FunctionDef}
    (hnames : [s.config.idName, s.config.variablesName, s.config.optionsName].Nodup)
    (h : (s.method o name).outcome = .ok f) {record : String} (hm : record ∈ f.recordNames) :
    o.definition.declares s.config.idName = true ∧
    o.definition.declaresOther s.config.idName = true ∧
    s.config.omitTypeName o.variablesType s.config.idName = .ok record := by
  have heffect := (mem_operationArgs_effects_iff hnames h declares_record).mpr ⟨record, hm, rfl⟩
  obtain ⟨args, returns, body, hargs, -⟩ := method_outcome_eq_ok.mp h
  have hargs := operationArgs_outcome_eq_ok.mp hargs
  rw [← namedVariable?_isSome]
  cases hv : o.definition.namedVariable? s.config.idName with
  | none =>
    rw [operationArgs_effects_of_no_id hv] at heffect
    cases heffect
  | some v =>
    by_cases hother : o.definition.declaresOther s.config.idName = true
    · rw [hv] at hargs
      obtain ⟨more, -, hmore⟩ := hargs
      rw [if_pos hother] at hmore
      obtain ⟨d, hd, -⟩ := hmore
      rw [mem_operationArgs_effects_of_other hv hother hd declares_record] at heffect
      obtain ⟨given, hgiven, rfl⟩ := declareOmit_outcome_eq_ok.mp hd
      cases heffect
      exact ⟨rfl, hother, hgiven⟩
    · exact absurd heffect (notMem_operationArgs_effects hv hother declares_record)

/-- **The record of a method.** The method of an operation that has the id and other
variables takes the others in a record. -/
theorem exists_record_param {name : String} {f : FunctionDef}
    (hnames : [s.config.idName, s.config.variablesName, s.config.optionsName].Nodup)
    (h : (s.method o name).outcome = .ok f)
    (hid : o.definition.declares s.config.idName = true)
    (hother : o.definition.declaresOther s.config.idName = true) :
    ∃ p ∈ f.params, ∃ record, p.name = s.config.variablesName ∧ p.recordNames = [record] ∧
      s.config.omitTypeName o.variablesType s.config.idName = .ok record := by
  obtain ⟨args, returns, body, hargs, -, -, rfl⟩ := method_outcome_eq_ok.mp h
  obtain ⟨v, hv⟩ := Option.isSome_iff_exists.mp (namedVariable?_isSome.trans hid)
  have hgiven := operationArgs_outcome_eq_ok.mp hargs
  rw [hv] at hgiven
  obtain ⟨more, rfl, hmore⟩ := hgiven
  rw [if_pos hother] at hmore
  obtain ⟨d, hd, rfl⟩ := hmore
  obtain ⟨record, hrecord, rfl⟩ := declareOmit_outcome_eq_ok.mp hd
  refine ⟨(s.recordArg o (s.omitRecord o record)).param,
    (mem_params_methodOf hnames hargs).mpr ⟨_, ?_, rfl⟩, record, param_name _,
    recordNames_recordArg _, hrecord⟩
  exact List.mem_append_left _ (List.mem_append_right _ List.mem_cons_self)

end Conventions
end ChainedSdk
