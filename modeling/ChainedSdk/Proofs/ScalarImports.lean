/-
# Every scalar in an annotation is imported

An annotation of a parameter or of a field is made from names of the
configuration, or from the name of a GraphQL type (`ScopeParam`, `MethodParam`,
`Conventions.variableField`). Whoever annotates a type leaves behind that its scalar is
used, also where a record of that name is declared already. What is left behind is kept
up to the settlement, so the import of the scalar is given to the module
(`annotations_imported`). What is imported stems from the type of the id or from a
variable, though not always from one that is annotated: a child looks at the type of its
id and takes it from the scope around it.

Key definitions: `Conventions.Marked`, `ScopeParam`, `MethodParam`,
`Generator.Imported`.
Key theorems: `Conventions.methodParam_of_arg`, `Conventions.marked_of_record`,
`annotations_imported`.
-/
import ChainedSdk.Proofs.History
import ChainedSdk.Proofs.Remains

namespace ChainedSdk

open Code (Param ClassDecl FunctionDef)

/-! ### Where annotations come from -/

/-- The parameters of the function of an API: the id if there is a key, whose type is a
GraphQL type, and the requester and the wrapper, whose types are configured. -/
inductive ScopeParam (s : Conventions) (key? : Option String) (P : String → Prop) : Param → Prop
  | id (chained : (present key?).isSome = true) (type : P s.config.idType) :
    ScopeParam s key? P { name := s.config.idName, type? := some (s.typeHint s.config.idType) }
  | requester :
    ScopeParam s key? P
      { name := s.config.requesterName, type? := some (.named s.config.requesterType) }
  | wrapper :
    ScopeParam s key? P
      { name := s.config.wrapperName, type? := some (.named s.config.wrapperType)
        default? := some (.name s.config.wrapperDefault) }

/-- The parameters of the method of an operation: the id, whose type is that of the
operation's variable, the variables, whose type is a record or one of the types module,
and the options, whose type is configured. -/
inductive MethodParam (s : Conventions) (o : SdkOperation) (P : String → Prop) : Param → Prop
  | id {v : GraphQL.VariableDefinition} (named : o.definition.namedVariable? s.config.idName = some v)
      (type : P v.type.innermost) :
    MethodParam s o P { name := s.config.idName, type? := some (s.typeHint v.type.innermost) }
  | record {record : String}
      (declared : s.config.omitTypeName o.variablesType s.config.idName = .ok record) :
    MethodParam s o P (s.recordArg o (s.omitRecord o record)).param
  | whole : MethodParam s o P (s.wholeArg o).param
  | options : MethodParam s o P s.optionsArg.param

theorem ScopeParam.mono {s : Conventions} {key? : Option String} {P Q : String → Prop} {p : Param}
    (hp : ScopeParam s key? P p) (h : ∀ name, P name → Q name) : ScopeParam s key? Q p := by
  cases hp with
  | id chained type => exact .id chained (h _ type)
  | requester => exact .requester
  | wrapper => exact .wrapper

theorem MethodParam.mono {s : Conventions} {o : SdkOperation} {P Q : String → Prop} {p : Param}
    (hp : MethodParam s o P p) (h : ∀ name, P name → Q name) : MethodParam s o Q p := by
  cases hp with
  | id named type => exact .id named (h _ type)
  | record declared => exact .record declared
  | whole => exact .whole
  | options => exact .options

namespace Conventions

variable {s : Conventions} {o : SdkOperation} {es : List (Effect BuildError)}

/-- The effects tell that the scalar of this name is used, if it is one that needs an
import. -/
def Marked (s : Conventions) (es : List (Effect BuildError)) (name : String) : Prop :=
  ∀ e ∈ s.uses name, e ∈ es

theorem declareOmit_effects {d : ClassDecl} (h : (s.declareOmit o).outcome = .ok d) :
    (s.declareOmit o).effects = ((o.definition.otherVariables s.config.idName).flatMap fun v =>
      s.uses v.type.innermost) ++ [.record d] := by
  obtain ⟨name, hname, rfl⟩ := declareOmit_outcome_eq_ok.mp h
  unfold declareOmit
  rw [Emit.bind_effects (fromTemplate_outcome_eq_ok.mpr hname), Emit.tell_bind, Emit.tell_bind,
    Emit.pure_eq]
  simp [fromTemplate, Emit.ofExcept]

/-- The arguments of a method are marked. -/
theorem methodParam_of_arg {args : List Arg} (h : (s.operationArgs o).outcome = .ok args) {a : Arg}
    (ha : a ∈ args ++ [s.optionsArg]) :
    MethodParam s o (s.Marked (s.operationArgs o).effects) a.param := by
  rcases List.mem_append.mp ha with ha | ha
  · have hargs := operationArgs_outcome_eq_ok.mp h
    cases hv : o.definition.namedVariable? s.config.idName with
    | none =>
      rw [hv] at hargs
      simp only at hargs
      rw [hargs] at ha
      split at ha
      · cases ha
      · rw [List.mem_singleton.mp ha]
        exact .whole
    | some v =>
      rw [hv] at hargs
      obtain ⟨more, rfl, hmore⟩ := hargs
      rcases List.mem_append.mp ha with ha | ha
      · split at ha
        · cases ha
        · rw [List.mem_singleton.mp ha]
          refine .id hv fun e he => ?_
          unfold operationArgs
          rw [hv]
          exact Emit.mem_bind_effects_of_first he
      · split at hmore
        · obtain ⟨d, hd, rfl⟩ := hmore
          obtain ⟨record, hrecord, rfl⟩ := declareOmit_outcome_eq_ok.mp hd
          rw [List.mem_singleton.mp ha]
          exact .record hrecord
        · rw [hmore] at ha
          cases ha
  · rw [List.mem_singleton.mp ha]
    exact .options

/-- The fields of a record are marked where it is declared. -/
theorem marked_of_record {args : List Arg} (h : (s.operationArgs o).outcome = .ok args)
    {d : ClassDecl} (hd : .record d ∈ (s.operationArgs o).effects) :
    ∀ f ∈ d.fields, ∃ v ∈ o.definition.declared, f = s.variableField v ∧
      s.Marked (s.operationArgs o).effects v.type.innermost := by
  have hargs := operationArgs_outcome_eq_ok.mp h
  cases hv : o.definition.namedVariable? s.config.idName with
  | none =>
    rw [operationArgs_effects_of_no_id hv] at hd
    cases hd
  | some w =>
    by_cases hother : o.definition.declaresOther s.config.idName = true
    · rw [hv] at hargs
      obtain ⟨more, -, hmore⟩ := hargs
      rw [if_pos hother] at hmore
      obtain ⟨declared, hdeclared, -⟩ := hmore
      cases (mem_operationArgs_effects_of_other hv hother hdeclared declares_record).mp hd
      have heffects := declareOmit_effects hdeclared
      obtain ⟨record, -, rfl⟩ := declareOmit_outcome_eq_ok.mp hdeclared
      intro f hf
      obtain ⟨v, hmem, rfl⟩ := List.mem_map.mp hf
      refine ⟨v, List.mem_of_mem_filter hmem, rfl, fun e he => ?_⟩
      have hrecord : e ∈ (s.declareOmit o).effects := by
        rw [heffects]
        exact List.mem_append_left _ (List.mem_flatMap.mpr ⟨v, hmem, he⟩)
      unfold operationArgs
      simp only [hv, if_pos hother]
      exact Emit.mem_bind_effects_of_second rfl (Emit.mem_bind_effects_of_first hrecord)
    · exact absurd hd (notMem_operationArgs_effects hv hother declares_record)

/-- What the arguments of a method leave behind, the method does. -/
theorem mem_method_effects_of_args {name : String} {e : Effect BuildError}
    (h : e ∈ (s.operationArgs o).effects) : e ∈ (s.method o name).effects :=
  Emit.mem_bind_effects_of_first h

theorem methodParam_of_method {name : String} {f : FunctionDef}
    (h : (s.method o name).outcome = .ok f) {p : Param} (hp : p ∈ f.params) :
    MethodParam s o (s.Marked (s.method o name).effects) p := by
  obtain ⟨args, returns, body, hargs, -, -, rfl⟩ := method_outcome_eq_ok.mp h
  obtain ⟨a, ha, rfl⟩ := arg_of_mem_params hp
  obtain ⟨b, hb, hba⟩ := List.mem_map.mp ha
  cases hba
  exact (methodParam_of_arg hargs hb).mono fun _ hm e he => mem_method_effects_of_args (hm e he)

end Conventions

/-! ### APIs -/

namespace Scope

/-- The parameters of the function of an API are marked. -/
theorem scopeParam_of_args (s : Scope) {p : Param} (hp : p ∈ (ArgList.ofArgs s.givenArgs).params) :
    ScopeParam s.conventions s.key? (s.conventions.Marked s.args.effects) p := by
  obtain ⟨a, ha, rfl⟩ := arg_of_mem_params hp
  unfold givenArgs at ha
  simp only [List.mem_cons, List.not_mem_nil, or_false, Option.some.injEq] at ha
  rcases ha with ha | rfl | rfl
  · obtain ⟨key, hkey, rfl⟩ := Option.map_eq_some_iff.mp ha.symm
    have hchained : (present s.key?).isSome = true := by rw [hkey]; rfl
    refine .id hchained fun e he => ?_
    unfold args
    rw [if_pos hchained]
    exact Emit.mem_bind_effects_of_first he
  · exact .requester
  · exact .wrapper

end Scope

section Apis

variable {s : Conventions} {os : List SdkOperation} {apis : List ScopedApi} {a : ScopedApi}
  {e : Effect BuildError}

/-- What an API leaves behind, all of them do. -/
theorem mem_buildApis_effects_of_api (h : (buildApis s os).outcome = .ok apis) (ha : a ∈ apis)
    (he : e ∈ (buildApi s os a.key?).effects) : e ∈ (buildApis s os).effects := by
  have heffects : (buildApis s os).effects = (none :: (chainKeys os).map some).flatMap fun key? =>
      (buildApi s os key?).effects :=
    Emit.mapM_effects h
  rw [heffects, ← keys_of_buildApis h]
  exact List.mem_flatMap.mpr ⟨a.key?, List.mem_map.mpr ⟨a, ha, rfl⟩, he⟩

/-- What a scope leaves behind when it is built, its API does. -/
theorem mem_buildApi_effects {key? : Option String} {functionName typeName : String}
    (hf : s.config.apiFunctionName key? = .ok functionName)
    (ht : s.config.apiTypeName key? = .ok typeName)
    (he : e ∈ (Scope.collected s os key? functionName typeName).build.effects) :
    e ∈ (buildApi s os key?).effects := by
  have hempty : (Scope.empty s key?).outcome = .ok ⟨s, key?, functionName, typeName, []⟩ :=
    Scope.empty_outcome_eq_ok.mpr ⟨functionName, typeName, hf, ht, rfl⟩
  unfold buildApi
  refine Emit.mem_bind_effects_of_second hempty ?_
  rw [Scope.visitAll_eq]
  exact he

/-- What the method of an operation leaves behind, its API does. -/
theorem mem_buildApi_effects_of_method {key? : Option String}
    (h : (buildApi s os key?).outcome = .ok a) {o : SdkOperation} (ho : o ∈ a.operations)
    (he : e ∈ (s.method o
      (Scope.innerName (a.function.params.map (·.name)) (methodName o))).effects) :
    e ∈ (buildApi s os key?).effects := by
  obtain ⟨functionName, typeName, ms, hf, ht, hms, rfl⟩ := buildApi_outcome_eq_ok.mp h
  have hparams : ((Scope.collected s os key? functionName typeName).api ms).function.params.map
      (·.name) = (Scope.collected s os key? functionName typeName).paramNames :=
    params_names _
  rw [hparams] at he
  refine mem_buildApi_effects hf ht (Emit.mem_bind_effects_of_second rfl
    (Emit.mem_bind_effects_of_second (Scope.args_outcome _) (Emit.mem_bind_effects_of_first ?_)))
  have hmembers := Scope.members_effects hms
  unfold Scope.paramNames at hmembers he
  rw [show (Scope.collected s os key? functionName typeName).operations =
    os.filter (Scope.accepts key?) from rfl, hmembers]
  exact List.mem_flatMap.mpr ⟨o, ho, he⟩

theorem scopeParam_of_api {key? : Option String} (h : (buildApi s os key?).outcome = .ok a)
    {p : Param} (hp : p ∈ a.function.params) :
    ScopeParam s a.key? (s.Marked (buildApi s os key?).effects) p := by
  obtain ⟨functionName, typeName, ms, hf, ht, -, rfl⟩ := buildApi_outcome_eq_ok.mp h
  refine (Scope.scopeParam_of_args _ hp).mono fun _ hm e he => mem_buildApi_effects hf ht ?_
  exact Emit.mem_bind_effects_of_second rfl (Emit.mem_bind_effects_of_first (hm e he))

/-- **The annotations of parameters** are marked in what all APIs leave behind. -/
theorem params_marked (h : (buildApis s os).outcome = .ok apis) (ha : a ∈ apis) :
    (∀ p ∈ a.function.params, ScopeParam s a.key? (s.Marked (buildApis s os).effects) p) ∧
    ∀ f ∈ a.function.nested, ∃ o ∈ a.operations,
      ∀ p ∈ f.params, MethodParam s o (s.Marked (buildApis s os).effects) p := by
  have hbuilt := buildApi_of_mem h ha
  refine ⟨fun p hp => ?_, fun f hf => ?_⟩
  · exact (scopeParam_of_api hbuilt hp).mono fun _ hm e he =>
      mem_buildApis_effects_of_api h ha (hm e he)
  · obtain ⟨o, hof⟩ := exists_operation hbuilt hf
    have ho : o ∈ a.operations := (List.of_mem_zip hof).1
    refine ⟨o, ho, fun p hp => ?_⟩
    exact (Conventions.methodParam_of_method (method_of_mem hbuilt hof) hp).mono fun _ hm e he =>
      mem_buildApis_effects_of_api h ha (mem_buildApi_effects_of_method hbuilt ho (hm e he))

/-- **The annotations of fields** are marked in what all APIs leave behind, of whichever
operation a record is. -/
theorem fields_marked (h : (buildApis s os).outcome = .ok apis) {d : ClassDecl}
    (hd : .record d ∈ (buildApis s os).effects) : ∀ f ∈ d.fields, ∃ o ∈ os,
      ∃ v ∈ o.definition.declared, f = s.variableField v ∧
        s.Marked (buildApis s os).effects v.type.innermost := by
  obtain ⟨a, ha, o, ho, hm⟩ := (declares_buildApis_iff h declares_record).mp hd
  have hbuilt := buildApi_of_mem h ha
  obtain ⟨f, hof⟩ := exists_method hbuilt ho
  have hmethod := method_of_mem hbuilt hof
  obtain ⟨args, -, -, hargs, -⟩ := Conventions.method_outcome_eq_ok.mp hmethod
  have hrecord : .record d ∈ (s.operationArgs o).effects := by
    rcases (Conventions.mem_method_effects hmethod declares_record).mp hm with hm | ⟨_, _, -, -, hm⟩
    · exact hm
    · cases hm
  intro field hfield
  obtain ⟨v, hv, rfl, hmarked⟩ := Conventions.marked_of_record hargs hrecord field hfield
  refine ⟨o, ((mem_operations_iff h ha).mp ho).1, v, hv, rfl, fun e he => ?_⟩
  exact mem_buildApis_effects_of_api h ha (mem_buildApi_effects_of_method hbuilt ho
    (Conventions.mem_method_effects_of_args (hmarked e he)))

end Apis

/-! ### The imports of a module -/

namespace Generator

variable {g : Generator} {os : List SdkOperation} {apis : List ScopedApi}

/-- A generator that has not built anything; handlers may have been registered. -/
structure New (g : Generator) : Prop where
  records : g.declared.records = []
  results : g.declared.results = []
  used : g.declared.scalars.used = []

/-- If a handler answers for a type of this name, then its import is given to the module
of the operations. -/
def Imported (g : Generator) (os : List SdkOperation) (name : String) : Prop :=
  ∀ handler, g.declared.scalars.handler? name = some handler → ∀ documents,
    handler.importLine ∈ ((g.build os).2.sdkModule documents).scalarImports

/-- What is marked while the APIs are built is imported. -/
theorem imported_of_marked (hbuild : (g.build os).1 = .ok apis) {name : String}
    (h : g.conventions.Marked (buildApis g.conventions os).effects name) : g.Imported os name := by
  intro handler hhandler documents
  obtain ⟨-, habsorbed⟩ := Emit.settle_outcome_eq_ok.mp (build_eq_ok.mp hbuild)
  have hscalar : .scalar name ∈ (buildApis g.conventions os).effects := by
    refine h _ ?_
    unfold Conventions.uses
    rw [show g.conventions.scalars.handler? name = some handler from hhandler]
    exact List.mem_cons_self
  have hused := Declared.holds_scalar_iff.mp (Declared.holds_of_absorbAll habsorbed _ hscalar)
  obtain ⟨added, hscalars, -⟩ :=
    ((leaves_buildApis g.conventions os).settle g.declared).scalars
  refine ScalarRegistry.mem_usedImports.mpr ⟨name, hused, handler, ?_, rfl⟩
  show Assoc.get? name ((buildApis g.conventions os).settle g.declared).declared.scalars.handlers = _
  rw [hscalars]
  exact ScalarRegistry.get?_of_handler? hhandler

/-- What is imported by a new generator is of a handler for the type of the id or of a
variable. -/
theorem handler_of_import (hnew : g.New) {documents : List Code.Statement} {line : String}
    (h : line ∈ ((g.build os).2.sdkModule documents).scalarImports) :
    ∃ name handler, g.declared.scalars.handler? name = some handler ∧ handler.importLine = line ∧
      (name = g.config.idType ∨ ∃ o ∈ os, ∃ v ∈ o.definition.declared, v.type.innermost = name) := by
  obtain ⟨added, hscalars, hadded⟩ :=
    ((leaves_buildApis g.conventions os).settle g.declared).scalars
  obtain ⟨name, hused, handler, hget, rfl⟩ := ScalarRegistry.mem_usedImports.mp h
  replace hused : name ∈
      ((buildApis g.conventions os).settle g.declared).declared.scalars.used := hused
  replace hget : Assoc.get? name
      ((buildApis g.conventions os).settle g.declared).declared.scalars.handlers = some handler := hget
  rw [hscalars] at hused hget
  rw [hnew.used, List.nil_append] at hused
  obtain ⟨-, hanswers, hname⟩ := hadded name hused
  obtain ⟨own, hown⟩ := Option.isSome_iff_exists.mp hanswers
  have hsame : own = handler :=
    Option.some.inj ((ScalarRegistry.get?_of_handler? hown).symm.trans hget)
  refine ⟨name, handler, hsame ▸ hown, rfl, hname.imp id ?_⟩
  rintro ⟨o, ho, v, hv, rfl⟩
  exact ⟨o, ho, v, hv, rfl⟩

/-- **Every scalar in an annotation is imported.** Where a new generator can build the
APIs of operations, all parameters of their functions and methods are known, in the
protocols too, and so are all fields of the records declared: each is annotated with a
name of the configuration, or with a GraphQL type whose import the module is given, if a
handler answers for it. An import is given only if a handler with that import answers for
the type of the id or for the innermost type of a variable of one of the operations. -/
theorem annotations_imported (hnew : g.New) (hbuild : (g.build os).1 = .ok apis) :
    (∀ a ∈ apis,
      (∀ p ∈ a.function.params, ScopeParam g.conventions a.key? (g.Imported os) p) ∧
      (∀ f ∈ a.function.nested, ∃ o ∈ os,
        ∀ p ∈ f.params, MethodParam g.conventions o (g.Imported os) p) ∧
      ∀ f ∈ a.protocol.methods, ∃ o ∈ os, ∀ p ∈ f.params,
        p = { name := "self" } ∨ MethodParam g.conventions o (g.Imported os) p) ∧
    (∀ r ∈ (g.build os).2.declared.records, ∀ f ∈ r.2.fields, ∃ o ∈ os,
      ∃ v ∈ o.definition.declared, f = g.conventions.variableField v ∧
        g.Imported os v.type.innermost) ∧
    ∀ documents, ∀ line ∈ ((g.build os).2.sdkModule documents).scalarImports,
      ∃ name handler, g.declared.scalars.handler? name = some handler ∧
        handler.importLine = line ∧
        (name = g.config.idType ∨
          ∃ o ∈ os, ∃ v ∈ o.definition.declared, v.type.innermost = name) := by
  obtain ⟨hbuilt, habsorbed⟩ := Emit.settle_outcome_eq_ok.mp (build_eq_ok.mp hbuild)
  have hmarked : ∀ name, g.conventions.Marked (buildApis g.conventions os).effects name →
      g.Imported os name := fun _ => imported_of_marked hbuild
  refine ⟨fun a ha => ?_, fun r hr f hf => ?_, fun documents line => handler_of_import hnew⟩
  · obtain ⟨hscope, hnested⟩ := params_marked hbuilt ha
    have hmethods : ∀ f ∈ a.function.nested, ∃ o ∈ os,
        ∀ p ∈ f.params, MethodParam g.conventions o (g.Imported os) p := by
      intro f hf
      obtain ⟨o, ho, hparams⟩ := hnested f hf
      exact ⟨o, ((mem_operations_iff hbuilt ha).mp ho).1, fun p hp => (hparams p hp).mono hmarked⟩
    refine ⟨fun p hp => (hscope p hp).mono hmarked, hmethods, fun f hf => ?_⟩
    obtain ⟨ms, -, hfunctions, -, hstubs⟩ := members_of_buildApi (buildApi_of_mem hbuilt ha)
    rw [hstubs] at hf
    obtain ⟨m, hm, rfl⟩ := List.mem_map.mp hf
    obtain ⟨o, ho, hparams⟩ := hmethods m.function (hfunctions ▸ List.mem_map.mpr ⟨m, hm, rfl⟩)
    exact ⟨o, ho, fun p hp => (List.mem_cons.mp hp).imp id (hparams p)⟩
  · obtain ⟨hrecords, -, -⟩ := Declared.absorbAll_eq_ok habsorbed
    replace hr : r ∈ ((buildApis g.conventions os).settle g.declared).declared.records := hr
    rw [hrecords, hnew.records] at hr
    obtain ⟨e, he, her⟩ := List.mem_filterMap.mp ((Assoc.mem_addAll hr).resolve_left (by simp))
    cases e <;> cases her
    obtain ⟨o, ho, v, hv, hfield, hm⟩ := fields_marked hbuilt he f hf
    exact ⟨o, ho, v, hv, hfield, hmarked _ hm⟩

open GraphQL in
/-- A parent, and a child that takes times in a list besides the id. -/
def sampleTimes : Document := ⟨[
  .operation ⟨.query, some "team", [⟨"id", .nonNull (.named "UUID"), none, []⟩], [],
    [.field none "team" [] [] []]⟩,
  .operation ⟨.query, some "TeamIssues", [⟨"id", .nonNull (.named "UUID"), none, []⟩,
    ⟨"since", .list (.nonNull (.named "DateTime")), none, []⟩], [],
    [.field none "team" [] [] []]⟩]⟩

open GraphQL in
/-- The sample imports the types of the id and of the times, and the parameters of its
functions are known. -/
theorem sample_imported : ∃ os apis,
    (create sampleTimes { idType := "UUID" }).described = .ok os ∧
    (create sampleTimes { idType := "UUID" }).New ∧
    ((create sampleTimes { idType := "UUID" }).build os).1 = .ok apis ∧
    (((create sampleTimes { idType := "UUID" }).build os).2.sdkModule []).scalarImports =
      ["from datetime import datetime", "from uuid import UUID"] ∧
    (apis.map fun a => a.function.params.map (·.name)) =
      [["requester", "wrapper"], ["id", "requester", "wrapper"]] ∧
    ∀ a ∈ apis, ∀ p ∈ a.function.params,
      ScopeParam (create sampleTimes { idType := "UUID" }).conventions a.key?
        ((create sampleTimes { idType := "UUID" }).Imported os) p := by
  have hrun : ((create sampleTimes { idType := "UUID" }).described.toOption.any fun os =>
      ((create sampleTimes { idType := "UUID" }).build os).1.toOption.any fun apis =>
        decide ((((create sampleTimes { idType := "UUID" }).build os).2.sdkModule []).scalarImports =
          ["from datetime import datetime", "from uuid import UUID"]) &&
        decide ((apis.map fun a => a.function.params.map (·.name)) =
          [["requester", "wrapper"], ["id", "requester", "wrapper"]])) = true := by
    decide +kernel
  obtain ⟨os, hos, hrun⟩ := (Option.any_eq_true _ _).mp hrun
  obtain ⟨apis, hapis, hrun⟩ := (Option.any_eq_true _ _).mp hrun
  simp only [Bool.and_eq_true, decide_eq_true_eq] at hrun
  have hnew : (create sampleTimes { idType := "UUID" }).New := ⟨rfl, rfl, rfl⟩
  have hbuild := eq_ok_of_toOption hapis
  exact ⟨os, apis, eq_ok_of_toOption hos, hnew, hbuild, hrun.1, hrun.2, fun a ha =>
    ((annotations_imported hnew hbuild).1 a ha).1⟩

end Generator
end ChainedSdk
