/-
# Code that is asked for piece by piece

The method of an operation can be asked for, and so can its arguments, its body, its
result and the record of its variables, each by itself, in any order and as often as
one likes. Several of these declare the same: the arguments and the method both
declare the record, and the body, the result and the method of a parent all declare
its result. And operations whose types get one name share what is declared under it.

Whatever is asked for, what was declared stays as it was and in its place. After any
requests the names declared are those that the requests declare, each once, in the
order in which they came first, and a request that is repeated is answered as it was
and declares nothing (`declared_by_requests`).

Key definitions: `CodeRequest`, `CodeRequest.perform`, `CodeRequest.run`,
`CodeRequest.recordName?`, `CodeRequest.resultName?`.
Key theorems: `CodeRequest.perform_of_fills`, `CodeRequest.names_run`,
`CodeRequest.perform_again`, `CodeRequest.declared_by_requests`.
-/
import ChainedSdk.Proofs.Clashes
import ChainedSdk.Proofs.OwnDeclarations

namespace ChainedSdk

open Code (TypeExpr Statement FunctionDef ClassDecl)

/-! ### Requests -/

/-- A request for a piece of an operation's code: its method, under another name if one
is given, its arguments, its body, the annotation of its result, or the record of its
variables without the id. -/
inductive CodeRequest where
  | method (o : SdkOperation) (name? : Option String)
  | args (o : SdkOperation)
  | body (o : SdkOperation)
  | resultType (o : SdkOperation)
  | omitRecord (o : SdkOperation)

/-- The piece of code that was asked for. -/
inductive CodeAnswer where
  | method (f : FunctionDef)
  | args (as : List Arg)
  | body (statements : List Statement)
  | resultType (t : TypeExpr)
  | omitRecord (d : ClassDecl)

namespace CodeRequest

/-- The operation whose code is asked for. -/
def operation : CodeRequest → SdkOperation
  | method o _ | args o | body o | resultType o | omitRecord o => o

/-- The computation of the answer. -/
def emit (s : Conventions) : CodeRequest → Emit BuildError CodeAnswer
  | method o name? => .method <$> s.method o ((present name?).getD (methodName o))
  | args o => .args <$> s.operationArgs o
  | body o => .body <$> s.body o
  | resultType o => .resultType <$> s.resultType o
  | omitRecord o => .omitRecord <$> s.declareOmit o

/-- What a request comes to where something is declared already. -/
def perform (c : Config) (d : Declared) (q : CodeRequest) : Settlement BuildError CodeAnswer :=
  (q.emit ⟨c, d.scalars⟩).settle d

/-- What is declared after requests, one after the other. -/
def run (c : Config) (d : Declared) (qs : List CodeRequest) : Declared :=
  qs.foldl (fun d q => (q.perform c d).declared) d

/-- The name of the record that a request declares: asked for by itself, or as the type
of an argument, which there is if the operation has the id and another variable. -/
def recordName? (c : Config) : CodeRequest → Option String
  | omitRecord o => (c.omitTypeName o.variablesType c.idName).toOption
  | method o _ | args o =>
    if o.definition.declares c.idName && o.definition.declaresOther c.idName then
      (c.omitTypeName o.variablesType c.idName).toOption
    else none
  | body _ | resultType _ => none

/-- The name of the result that a request declares: the body, the result and the method
of a parent refer to it. -/
def resultName? (c : Config) : CodeRequest → Option String
  | method o _ | body o | resultType o =>
    if (present o.role.parentKey?).isSome then (c.chainResultName o.resultType).toOption else none
  | args _ | omitRecord _ => none

variable {c : Config} {s : Conventions} {d : Declared} {q : CodeRequest} {qs : List CodeRequest}

/-! ### What an answer is made from -/

/-- The scalars that were used before do not show in an answer. -/
theorem emit_sameAnswers {r r' : ScalarRegistry} (h : r.SameAnswers r') (q : CodeRequest) :
    q.emit ⟨c, r'⟩ = q.emit ⟨c, r⟩ := by
  rw [h.withUsed]
  let t : Conventions := ⟨c, r⟩
  cases q with
  | method o name? => exact congrArg (CodeAnswer.method <$> ·) (t.method_withUsed r'.used o _)
  | args o => exact congrArg (CodeAnswer.args <$> ·) (t.operationArgs_withUsed r'.used o)
  | body o => rfl
  | resultType o => rfl
  | omitRecord o =>
    exact congrArg (CodeAnswer.omitRecord <$> ·) (t.declareOmit_varied c.sdkName r'.used o)

/-- A request has an answer if the templates can be filled. -/
theorem exists_answer (h : s.config.Fills q.operation) :
    ∃ answer, (q.emit s).outcome = .ok answer := by
  have hmap : ∀ {α : Type} {f : α → CodeAnswer} {x : Emit BuildError α},
      (∃ a, x.outcome = .ok a) → ∃ answer, (f <$> x).outcome = .ok answer := by
    rintro α f x ⟨a, ha⟩
    exact ⟨f a, by rw [Emit.map_eq, ha]; rfl⟩
  cases q with
  | method o name? => exact hmap (Conventions.exists_method_of_fills h _)
  | args o => exact hmap (Conventions.exists_operationArgs h)
  | body o => exact hmap (Conventions.exists_body h)
  | resultType o => exact hmap (Conventions.exists_resultType h)
  | omitRecord o => exact hmap (Conventions.exists_declareOmit h)

/-! ### What a request declares -/

/-- Arguments declare a record if the operation has the id and another variable. -/
theorem record_mem_operationArgs_iff {o : SdkOperation} (h : s.config.Fills o) {r : ClassDecl} :
    .record r ∈ (s.operationArgs o).effects ↔
      (o.definition.declares s.config.idName && o.definition.declaresOther s.config.idName) = true ∧
        .record r ∈ (s.declareOmit o).effects := by
  obtain ⟨d, hd⟩ := Conventions.exists_declareOmit h
  have hrecord := Conventions.mem_declareOmit_effects hd (declares_record (d := r))
  rw [← Conventions.namedVariable?_isSome, hrecord]
  cases hv : o.definition.namedVariable? s.config.idName with
  | none => simp [Conventions.operationArgs_effects_of_no_id hv]
  | some v =>
    by_cases hother : o.definition.declaresOther s.config.idName = true
    · rw [Conventions.mem_operationArgs_effects_of_other hv hother hd declares_record]
      simp [hother]
    · have hnone := Conventions.notMem_operationArgs_effects hv hother (declares_record (d := r))
      simp [hnone, hother]

theorem record_mem_declareOmit_iff {o : SdkOperation} (h : s.config.Fills o) {r : ClassDecl} :
    .record r ∈ (s.declareOmit o).effects ↔
      ∃ name, (s.config.omitTypeName o.variablesType s.config.idName).toOption = some name ∧
        r = s.omitRecord o name := by
  obtain ⟨name, hname⟩ := h.omitType
  have hd := Conventions.declareOmit_outcome_eq_ok.mpr ⟨name, hname, rfl⟩
  rw [Conventions.mem_declareOmit_effects hd declares_record, hname]
  simp [Except.toOption]

/-- An answer leaves behind what its piece of code leaves behind. -/
theorem emit_effects (s : Conventions) (q : CodeRequest) : (q.emit s).effects =
    match q with
    | method o name? => (s.method o ((present name?).getD (methodName o))).effects
    | args o => (s.operationArgs o).effects
    | body o => (s.body o).effects
    | resultType o => (s.resultType o).effects
    | omitRecord o => (s.declareOmit o).effects := by
  cases q <;> exact congrArg Emit.effects (Emit.map_eq _ _)

theorem mem_resultType_effects_iff {o : SdkOperation} (h : s.config.Fills o)
    {e : Effect BuildError} : e ∈ (s.resultType o).effects ↔
      ∃ key name, present o.role.parentKey? = some key ∧
        s.config.chainResultName o.resultType = .ok name ∧
        e = .result name (s.resultDeclaration o key name) := by
  obtain ⟨returns, hreturns⟩ := Conventions.exists_resultType h
  rw [Conventions.resultType_effects hreturns]
  cases hkey : present o.role.parentKey? with
  | none => simp
  | some key =>
    obtain ⟨name, hname⟩ := h.chainResult key hkey
    have hresult : (s.declareResult o key).outcome = .ok name :=
      Conventions.declareResult_outcome_eq_ok.mpr hname
    simp [Conventions.declareResult_effects hresult, hname]

/-- A body leaves behind what the result does. -/
theorem body_effects_eq {o : SdkOperation} (h : s.config.Fills o) :
    (s.body o).effects = (s.resultType o).effects := by
  obtain ⟨returns, hreturns⟩ := Conventions.exists_resultType h
  obtain ⟨body, hbody⟩ := Conventions.exists_body h
  rw [Conventions.body_effects hbody, Conventions.resultType_effects hreturns]

/-- The arguments declare the record of the operation if they leave the id out. -/
theorem record_mem_args_iff {o : SdkOperation} (h : s.config.Fills o) {r : ClassDecl} :
    .record r ∈ (s.operationArgs o).effects ↔
      ∃ name, (args o).recordName? s.config = some name ∧ r = s.omitRecord o name := by
  have hname : (args o).recordName? s.config =
      if o.definition.declares s.config.idName && o.definition.declaresOther s.config.idName then
        (s.config.omitTypeName o.variablesType s.config.idName).toOption
      else none := rfl
  rw [record_mem_operationArgs_iff h, record_mem_declareOmit_iff h, hname]
  split_ifs with hboth
  · simp [hboth]
  · simp [hboth]

theorem record_notMem_resultType {o : SdkOperation} (h : s.config.Fills o) (r : ClassDecl) :
    .record r ∉ (s.resultType o).effects := by
  simp [mem_resultType_effects_iff h]

/-- **Records.** A request declares the record of its operation under the name that it
has for it. -/
theorem record_mem_emit_iff (h : s.config.Fills q.operation) {r : ClassDecl} :
    .record r ∈ (q.emit s).effects ↔
      ∃ name, q.recordName? s.config = some name ∧ r = s.omitRecord q.operation name := by
  rw [emit_effects]
  cases q with
  | method o name? =>
    obtain ⟨f, hf⟩ := Conventions.exists_method_of_fills h ((present name?).getD (methodName o))
    have hmem := Conventions.mem_method_effects hf (declares_record (d := r))
    rw [← mem_resultType_effects_iff h] at hmem
    exact (hmem.trans (or_iff_left (record_notMem_resultType h r))).trans (record_mem_args_iff h)
  | args o => exact record_mem_args_iff h
  | omitRecord o => exact record_mem_declareOmit_iff h
  | body o =>
    have hbody : .record r ∉ (s.body o).effects :=
      body_effects_eq h ▸ record_notMem_resultType h r
    simp [hbody, recordName?]
  | resultType o =>
    have hresult : .record r ∉ (s.resultType o).effects := record_notMem_resultType h r
    simp [hresult, recordName?]

/-- The type returned by a parent declares the result of the operation. -/
theorem result_mem_resultType_iff {o : SdkOperation} (h : s.config.Fills o) {name : String}
    {declaration : Except BuildError ClassDecl} :
    .result name declaration ∈ (s.resultType o).effects ↔
      (resultType o).resultName? s.config = some name ∧
      ∃ key, present o.role.parentKey? = some key ∧
        declaration = s.resultDeclaration o key name := by
  have hname : (resultType o).resultName? s.config =
      if (present o.role.parentKey?).isSome then
        (s.config.chainResultName o.resultType).toOption
      else none := rfl
  rw [mem_resultType_effects_iff h, hname]
  cases hkey : present o.role.parentKey? with
  | none => simp
  | some key =>
    obtain ⟨given, hgiven⟩ := h.chainResult key hkey
    rw [hgiven]
    constructor
    · rintro ⟨_, _, hk, hn, he⟩
      cases hk
      cases hn
      cases he
      exact ⟨rfl, key, rfl, rfl⟩
    · rintro ⟨hn, _, hk, rfl⟩
      cases hk
      cases hn
      exact ⟨key, name, rfl, rfl, rfl⟩

theorem result_notMem_args {o : SdkOperation} (h : s.config.Fills o) (name : String)
    (declaration : Except BuildError ClassDecl) :
    .result name declaration ∉ (s.operationArgs o).effects := by
  intro hm
  obtain ⟨args, hargs⟩ := Conventions.exists_operationArgs h
  obtain ⟨record, hrecord, -⟩ :=
    (Conventions.mem_operationArgs_effects hargs declares_result).mp hm
  cases hrecord

theorem result_notMem_declareOmit {o : SdkOperation} (h : s.config.Fills o) (name : String)
    (declaration : Except BuildError ClassDecl) :
    .result name declaration ∉ (s.declareOmit o).effects := by
  obtain ⟨d, hd⟩ := Conventions.exists_declareOmit h
  exact fun hm => nomatch (Conventions.mem_declareOmit_effects hd declares_result).mp hm

/-- **Results.** A request declares the result of its operation under the name that it
has for it. -/
theorem result_mem_emit_iff (h : s.config.Fills q.operation) {name : String}
    {declaration : Except BuildError ClassDecl} :
    .result name declaration ∈ (q.emit s).effects ↔ q.resultName? s.config = some name ∧
      ∃ key, present q.operation.role.parentKey? = some key ∧
        declaration = s.resultDeclaration q.operation key name := by
  rw [emit_effects]
  cases q with
  | method o name? =>
    obtain ⟨f, hf⟩ := Conventions.exists_method_of_fills h ((present name?).getD (methodName o))
    have hdeclares : (Effect.result name declaration).Declares := declares_result
    have hmem := Conventions.mem_method_effects hf hdeclares
    rw [← mem_resultType_effects_iff h] at hmem
    exact (hmem.trans (or_iff_right (result_notMem_args h name declaration))).trans
      (result_mem_resultType_iff h)
  | args o =>
    have hargs : .result name declaration ∉ (s.operationArgs o).effects :=
      result_notMem_args h name declaration
    simp [hargs, resultName?]
  | omitRecord o =>
    have homit : .result name declaration ∉ (s.declareOmit o).effects :=
      result_notMem_declareOmit h name declaration
    simp [homit, resultName?]
  | body o =>
    have hbody : (s.body o).effects = (s.resultType o).effects := body_effects_eq h
    simp only [hbody]
    exact result_mem_resultType_iff h
  | resultType o => exact result_mem_resultType_iff h

/-! ### One request -/

/-- The result of a parent can be declared if the type of its API can be named. -/
theorem exists_resultDeclaration {o : SdkOperation} (h : s.config.Fills o) {key : String}
    (hkey : present o.role.parentKey? = some key) (name : String) :
    ∃ r, s.resultDeclaration o key name = .ok r := by
  obtain ⟨apiType, htype⟩ := h.apiType key hkey
  refine ⟨s.resultProtocol o key name apiType, ?_⟩
  unfold Conventions.resultDeclaration
  rw [htype]
  rfl

/-- Only parents have results to declare. -/
theorem exists_key_of_resultName? {name : String} (h : q.resultName? c = some name) :
    ∃ key, present q.operation.role.parentKey? = some key := by
  refine Option.isSome_iff_exists.mp (Bool.eq_true_of_not_eq_false fun hnone => ?_)
  cases q <;> simp_all [resultName?, operation]

/-- A request that can be answered is answered, whatever is declared already, and all
that it leaves behind is declared. -/
theorem perform_of_fills (h : c.Fills q.operation) (d : Declared) : ∃ answer,
    (q.emit ⟨c, d.scalars⟩).outcome = .ok answer ∧ (q.perform c d).outcome = .ok answer ∧
    d.absorbAll (q.emit ⟨c, d.scalars⟩).effects = .ok (q.perform c d).declared := by
  obtain ⟨answer, hanswer⟩ := exists_answer (s := ⟨c, d.scalars⟩) h
  have hresults : ∀ name declaration,
      .result name declaration ∈ (q.emit ⟨c, d.scalars⟩).effects → ∃ r, declaration = .ok r := by
    intro name declaration hm
    obtain ⟨-, key, hkey, rfl⟩ := (result_mem_emit_iff (s := ⟨c, d.scalars⟩) h).mp hm
    exact exists_resultDeclaration h hkey name
  obtain ⟨houtcome, habsorb⟩ := Emit.settle_of_results hresults d
  exact ⟨answer, hanswer, houtcome.trans hanswer, habsorb⟩

/-- A request adds the name of its record to the names of the records, if it is new. -/
theorem recordNames_perform (h : c.Fills q.operation) (d : Declared) :
    (q.perform c d).declared.records.map (·.1) = d.records.map (·.1) ++
      (q.recordName? c).toList.filter (· ∉ d.records.map (·.1)) := by
  obtain ⟨answer, -, -, habsorb⟩ := perform_of_fills h d
  rw [(Declared.absorbAll_eq_ok habsorb).1]
  refine Assoc.keys_addAll_of_iff fun key => ?_
  have hrecord := fun {r} => record_mem_emit_iff (s := ⟨c, d.scalars⟩) h (r := r)
  constructor
  · intro hkey
    obtain ⟨⟨name, r⟩, hr, rfl⟩ := List.mem_map.mp hkey
    obtain ⟨e, he, her⟩ := List.mem_filterMap.mp hr
    cases e <;> cases her
    obtain ⟨name, hname, rfl⟩ := hrecord.mp he
    exact hname
  · intro hname
    have he := hrecord.mpr ⟨key, hname, rfl⟩
    exact List.mem_map.mpr ⟨_, List.mem_filterMap.mpr ⟨_, he, rfl⟩, rfl⟩

/-- A request adds the name of its result to the names of the results, if it is new. -/
theorem resultNames_perform (h : c.Fills q.operation) (d : Declared) :
    (q.perform c d).declared.results.map (·.1) = d.results.map (·.1) ++
      (q.resultName? c).toList.filter (· ∉ d.results.map (·.1)) := by
  obtain ⟨answer, -, -, habsorb⟩ := perform_of_fills h d
  rw [(Declared.absorbAll_eq_ok habsorb).2.1]
  refine Assoc.keys_addAll_of_iff fun key => ?_
  have hresult : ∀ {declaration}, .result key declaration ∈ (q.emit ⟨c, d.scalars⟩).effects ↔ _ :=
    result_mem_emit_iff (s := ⟨c, d.scalars⟩) h
  constructor
  · intro hkey
    obtain ⟨⟨name, r⟩, hr, rfl⟩ := List.mem_map.mp hkey
    obtain ⟨e, he, her⟩ := List.mem_filterMap.mp hr
    unfold Effect.result? at her
    split at her
    · cases her
      exact (hresult.mp he).1
    · cases her
  · intro hname
    obtain ⟨chainKey, hkey⟩ := exists_key_of_resultName? hname
    obtain ⟨r, hr⟩ := exists_resultDeclaration (s := ⟨c, d.scalars⟩) h hkey key
    have he := hresult.mpr ⟨hname, chainKey, hkey, hr.symm⟩
    exact List.mem_map.mpr ⟨_, List.mem_filterMap.mpr ⟨_, he, rfl⟩, rfl⟩

/-- Whatever is asked for, what was declared stays as it was and in its place. -/
theorem prefix_perform (c : Config) (d : Declared) (q : CodeRequest) :
    d.records <+: (q.perform c d).declared.records ∧
    d.results <+: (q.perform c d).declared.results := by
  have hany : (q.emit ⟨c, d.scalars⟩).Leaves fun _ => True := fun _ _ => trivial
  obtain ⟨⟨records, hrecords, -⟩, ⟨results, hresults, -⟩, -⟩ := hany.settle d
  exact ⟨⟨records, hrecords.symm⟩, ⟨results, hresults.symm⟩⟩

/-! ### Several requests -/

theorem run_concat (c : Config) (d : Declared) (qs : List CodeRequest) (q : CodeRequest) :
    run c d (qs ++ [q]) = (q.perform c (run c d qs)).declared := by
  unfold run
  rw [List.foldl_append]
  rfl

theorem run_append (c : Config) (d : Declared) (before after : List CodeRequest) :
    run c d (before ++ after) = run c (run c d before) after :=
  List.foldl_append

/-- Names that each request adds to if they are new are, after requests, the names of
the requests, each once, in order. -/
theorem names_run (names : Declared → List String) (name? : CodeRequest → Option String)
    (hstep : ∀ d q, c.Fills q.operation → names (q.perform c d).declared =
      names d ++ (name? q).toList.filter (· ∉ names d))
    (hd : names d = []) (h : ∀ q ∈ qs, c.Fills q.operation) :
    names (run c d qs) = (qs.filterMap name?).eraseDups := by
  induction qs using List.reverseRecOn with
  | nil => exact hd
  | append_singleton qs q ih =>
    have hbefore := ih fun p hp => h p (List.mem_append_left _ hp)
    have hlast := h q (List.mem_append_right _ List.mem_cons_self)
    have hnames : (qs ++ [q]).filterMap name? = qs.filterMap name? ++ (name? q).toList := by
      rw [List.filterMap_append]
      cases hname : name? q <;> simp [hname]
    rw [run_concat, hstep _ q hlast, hbefore, hnames, eraseDups_append_toList]

/-- Scalars are answered after requests as they were before. -/
theorem sameAnswers_run (c : Config) (d : Declared) (qs : List CodeRequest) :
    d.scalars.SameAnswers (run c d qs).scalars := by
  induction qs using List.reverseRecOn with
  | nil => exact ⟨rfl, rfl⟩
  | append_singleton qs q ih =>
    rw [run_concat]
    exact ih.trans (Emit.settle_sameAnswers _ _)

/-- What is declared stays declared, whatever is asked for. -/
theorem holds_run {e : Effect BuildError} (h : d.Holds e) (c : Config) (qs : List CodeRequest) :
    (run c d qs).Holds e := by
  induction qs using List.reverseRecOn with
  | nil => exact h
  | append_singleton qs q ih =>
    obtain ⟨done, rest, -, hdone, -⟩ :=
      Emit.reached_settle (q.emit ⟨c, (run c d qs).scalars⟩) (run c d qs)
    rw [run_concat]
    exact ih.absorbAll hdone

/-- **Asking again.** A request that was answered is answered in the same way after any
other requests, and declares nothing more. -/
theorem perform_again (h : c.Fills q.operation) (d : Declared) (after : List CodeRequest) :
    let later := run c d (q :: after)
    ∃ answer, (q.perform c d).outcome = .ok answer ∧ (q.perform c later).outcome = .ok answer ∧
      (q.perform c later).declared = later := by
  intro later
  obtain ⟨answer, hanswer, houtcome, habsorb⟩ := perform_of_fills h d
  have hsame : q.emit ⟨c, later.scalars⟩ = q.emit ⟨c, d.scalars⟩ :=
    emit_sameAnswers (sameAnswers_run c d (q :: after)) q
  -- what the request left behind was declared then, and is still
  have hholds : ∀ e ∈ (q.emit ⟨c, d.scalars⟩).effects, later.Holds e := fun e he =>
    holds_run (Declared.holds_of_absorbAll habsorb e he) c after
  have hlater : (q.perform c later).outcome = (q.emit ⟨c, d.scalars⟩).outcome ∧
      (q.perform c later).declared = later := by
    unfold perform
    rw [hsame]
    exact Emit.settle_of_absorbAll (Declared.absorbAll_of_holds hholds)
  exact ⟨answer, houtcome, hlater.1.trans hanswer, hlater.2⟩

/-- **What requests declare.** Whatever is declared and whatever is asked for, what was
declared stays as it was and in its place. After any requests the names of the records
are those of the operations whose record was asked for, or whose arguments or method
were and which have the id and another variable; the names of the results are those of
the parents whose body, result or method was asked for; each stands once, where it came
first. A request that is repeated is answered as it was, and declares nothing more. -/
theorem declared_by_requests (r : ScalarRegistry) (h : ∀ q ∈ qs, c.Fills q.operation) :
    let declared := run c { scalars := r } qs
    (∀ d q, d.records <+: (perform c d q).declared.records ∧
      d.results <+: (perform c d q).declared.results) ∧
    declared.records.map (·.1) = (qs.filterMap (·.recordName? c)).eraseDups ∧
    declared.results.map (·.1) = (qs.filterMap (·.resultName? c)).eraseDups ∧
    ∀ before q after, qs = before ++ q :: after → ∃ answer,
      (q.perform c (run c { scalars := r } before)).outcome = .ok answer ∧
      (q.perform c declared).outcome = .ok answer ∧
      (q.perform c declared).declared = declared := by
  intro declared
  have hrecords := names_run (d := { scalars := r }) (·.records.map (·.1)) (·.recordName? c)
    (fun d _ hq => recordNames_perform hq d) rfl h
  have hresults := names_run (d := { scalars := r }) (·.results.map (·.1)) (·.resultName? c)
    (fun d _ hq => resultNames_perform hq d) rfl h
  refine ⟨prefix_perform c, hrecords, hresults, ?_⟩
  rintro before q after rfl
  have hq := h q (List.mem_append_right _ List.mem_cons_self)
  have hdeclared : declared = run c (run c { scalars := r } before) (q :: after) :=
    run_append c _ before (q :: after)
  rw [hdeclared]
  exact perform_again hq _ after

/-- Requests for the arguments of all operations, then for their methods, and for the
records of their variables. -/
def allOf (os : List SdkOperation) : List CodeRequest :=
  os.map args ++ os.map (method · none) ++ os.map omitRecord

open GraphQL in
/-- In the document of two teams both operations have a record of one name, and one of
them is a parent. -/
theorem sample_requests : ∃ os, (classifyAll {} Document.twoTeams).mapM (describe {}) = .ok os ∧
    (∀ q ∈ allOf os, ({} : Config).Fills q.operation) ∧
    let declared := run {} { scalars := .withAliases [] } (allOf os)
    declared.records.map (·.1) = ["TeamQueryVariablesWithoutId"] ∧
    declared.results.map (·.1) = ["TeamQueryResult"] ∧
    ∀ q ∈ allOf os, (q.perform {} declared).declared = declared := by
  have hrun : (((classifyAll {} Document.twoTeams).mapM (describe {})).toOption.any fun os =>
      ((allOf os).filterMap (·.recordName? {})).eraseDups = ["TeamQueryVariablesWithoutId"] ∧
      ((allOf os).filterMap (·.resultName? {})).eraseDups = ["TeamQueryResult"]) = true := by
    decide +kernel
  obtain ⟨os, hos, hrun⟩ := (Option.any_eq_true _ _).mp hrun
  obtain ⟨hrecords, hresults⟩ := of_decide_eq_true hrun
  have hfills : ∀ q ∈ allOf os, ({} : Config).Fills q.operation := fun q _ => fills_of_default _
  obtain ⟨-, hrecordNames, hresultNames, hagain⟩ :=
    declared_by_requests (.withAliases []) hfills
  refine ⟨os, eq_ok_of_toOption hos, hfills, hrecordNames.trans hrecords,
    hresultNames.trans hresults, fun q hq => ?_⟩
  obtain ⟨before, after, hsplit⟩ := List.append_of_mem hq
  obtain ⟨answer, -, -, hdeclared⟩ := hagain before q after hsplit
  exact hdeclared

end CodeRequest
end ChainedSdk
