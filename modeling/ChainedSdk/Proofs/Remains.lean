/-
# What building leaves behind, whatever comes of it

The effects of a computation are those of its steps up to the first one that fails.
So what holds of the effects of every step holds of those of the whole, whether it
succeeds or not (`Emit.Leaves.bind`). All that is left behind while the APIs of
operations are built stems from the operations: a record from one of them and its
name, the declaration of a result from a parent, and a scalar from a variable or
from the id (`leaves_buildApis`).

Settling a computation adds to what is declared and takes nothing away
(`Emit.Leaves.settle`). Declaring twice is declaring once: what has been absorbed is
there (`Declared.holds_of_absorbAll`), and what is there is absorbed without a
change (`Declared.absorbAll_of_holds`). So a computation that is settled again,
where it has been settled before, comes to the same and changes nothing
(`Emit.settle_settle`).

Key definitions: `Emit.Leaves`, `Conventions.StemsFrom`, `Declared.Holds`,
`Declared.Grows`.
Key theorems: `leaves_buildApis`, `Emit.Leaves.settle`, `Emit.settle_settle`.
-/
import ChainedSdk.Proofs.Building

namespace ChainedSdk

/-! ### The effects of a computation -/

namespace Emit

variable {ε α β : Type} {P Q : Effect ε → Prop}

/-- All that a computation leaves behind is of one kind. -/
def Leaves (P : Effect ε → Prop) (x : Emit ε α) : Prop :=
  ∀ e ∈ x.effects, P e

theorem leaves_pure (a : α) : (pure a : Emit ε α).Leaves P :=
  fun e he => by cases he

theorem leaves_fail (fault : ε) : (fail fault : Emit ε α).Leaves P :=
  fun e he => by cases he

theorem leaves_ofExcept (x : Except ε α) : (ofExcept x).Leaves P :=
  fun e he => by cases he

theorem leaves_tell {es : List (Effect ε)} (h : ∀ e ∈ es, P e) : (tell es).Leaves P :=
  h

theorem Leaves.mono {x : Emit ε α} (hx : x.Leaves P) (h : ∀ e, P e → Q e) : x.Leaves Q :=
  fun e he => h e (hx e he)

/-- A step that follows leaves something behind only if the first one succeeds. -/
theorem Leaves.bind {x : Emit ε α} {f : α → Emit ε β} (hx : x.Leaves P)
    (hf : ∀ a, x.outcome = .ok a → (f a).Leaves P) : (x >>= f).Leaves P := by
  intro e he
  cases hx' : x.outcome with
  | error fault =>
    rw [bind_of_error hx'] at he
    exact hx e he
  | ok a =>
    rw [bind_of_ok hx'] at he
    rcases List.mem_append.mp he with he | he
    · exact hx e he
    · exact hf a hx' e he

theorem leaves_mapM {f : α → Emit ε β} : ∀ {xs : List α}, (∀ x ∈ xs, (f x).Leaves P) →
    (xs.mapM f).Leaves P
  | [], _ => leaves_pure []
  | x :: xs, h => by
    rw [List.mapM_cons]
    refine .bind (h x List.mem_cons_self) fun y _ => ?_
    exact .bind (leaves_mapM fun z hz => h z (List.mem_cons_of_mem _ hz)) fun _ _ => leaves_pure _

end Emit

/-! ### What operations leave behind -/

open Emit (leaves_pure leaves_fail leaves_ofExcept leaves_tell leaves_mapM)

namespace Conventions

variable {s : Conventions} {o : SdkOperation} {os : List SdkOperation}

/-- The effect stems from one of the operations: it is a report, a scalar in the type
of the id or of a variable, the record of an operation, or the result of a parent. -/
def StemsFrom (s : Conventions) (os : List SdkOperation) : Effect BuildError → Prop
  | .log _ => True
  | .scalar name => (s.scalars.handler? name).isSome = true ∧
      (name = s.config.idType ∨ ∃ o ∈ os, ∃ v ∈ o.definition.declared, name = v.type.innermost)
  | .record d => ∃ o ∈ os, ∃ name,
      s.config.omitTypeName o.variablesType s.config.idName = .ok name ∧ d = s.omitRecord o name
  | .result name declaration => ∃ o ∈ os, ∃ key, present o.role.parentKey? = some key ∧
      s.config.chainResultName o.resultType = .ok name ∧
      declaration = s.resultDeclaration o key name

theorem StemsFrom.mono {ps : List SdkOperation} {e : Effect BuildError} (h : s.StemsFrom os e)
    (hsub : ∀ o ∈ os, o ∈ ps) : s.StemsFrom ps e := by
  cases e with
  | log r => trivial
  | scalar name =>
    obtain ⟨hhandler, hname | ⟨o, ho, hv⟩⟩ := h
    · exact ⟨hhandler, Or.inl hname⟩
    · exact ⟨hhandler, Or.inr ⟨o, hsub o ho, hv⟩⟩
  | record d =>
    obtain ⟨o, ho, hd⟩ := h
    exact ⟨o, hsub o ho, hd⟩
  | result name declaration =>
    obtain ⟨o, ho, hd⟩ := h
    exact ⟨o, hsub o ho, hd⟩

theorem stemsFrom_of_log {rs : List LogRecord} :
    ∀ e ∈ rs.map (Effect.log (ε := BuildError)), s.StemsFrom os e := by
  intro e he
  obtain ⟨r, -, rfl⟩ := List.mem_map.mp he
  trivial

theorem stemsFrom_of_uses {name : String} (h : name = s.config.idType ∨
    ∃ o ∈ os, ∃ v ∈ o.definition.declared, name = v.type.innermost) :
    ∀ e ∈ s.uses name, s.StemsFrom os e := by
  intro e he
  unfold uses at he
  by_cases hhandler : (s.scalars.handler? name).isSome = true
  · rw [if_pos hhandler] at he
    rw [List.mem_singleton.mp he]
    exact ⟨hhandler, h⟩
  · rw [if_neg hhandler] at he
    cases he

theorem leaves_fromTemplate {α : Type} {P : Effect BuildError → Prop} (x : Except TemplateError α) :
    (fromTemplate x).Leaves P :=
  leaves_ofExcept _

theorem leaves_declareOmit (s : Conventions) (o : SdkOperation) :
    (s.declareOmit o).Leaves (s.StemsFrom [o]) := by
  refine .bind (leaves_fromTemplate _) fun name hname => ?_
  refine .bind (leaves_tell fun e he => ?_) fun _ _ =>
    .bind (leaves_tell fun e he => ?_) fun _ _ => leaves_pure _
  · obtain ⟨v, hv, he⟩ := List.mem_flatMap.mp he
    have hdeclared : v ∈ o.definition.declared := List.mem_of_mem_filter hv
    exact stemsFrom_of_uses (Or.inr ⟨o, List.mem_cons_self, v, hdeclared, rfl⟩) e he
  · rw [List.mem_singleton.mp he]
    exact ⟨o, List.mem_cons_self, name, fromTemplate_outcome_eq_ok.mp hname, rfl⟩

theorem leaves_declareResult {key : String} (hkey : present o.role.parentKey? = some key) :
    (s.declareResult o key).Leaves (s.StemsFrom [o]) := by
  refine .bind (leaves_fromTemplate _) fun name hname => ?_
  refine .bind (leaves_tell fun e he => ?_) fun _ _ => leaves_pure _
  rw [List.mem_singleton.mp he]
  exact ⟨o, List.mem_cons_self, key, hkey, fromTemplate_outcome_eq_ok.mp hname, rfl⟩

theorem leaves_operationArgs (s : Conventions) (o : SdkOperation) :
    (s.operationArgs o).Leaves (s.StemsFrom [o]) := by
  unfold operationArgs
  cases hv : o.definition.namedVariable? s.config.idName with
  | none =>
    simp only
    split
    · exact leaves_pure _
    · exact leaves_pure _
  | some v =>
    have hdeclared : v ∈ o.definition.declared := List.mem_of_find?_eq_some hv
    refine .bind (leaves_tell ?_) fun _ _ => ?_
    · exact stemsFrom_of_uses (Or.inr ⟨o, List.mem_cons_self, v, hdeclared, rfl⟩)
    · by_cases hother : o.definition.declaresOther s.config.idName = true
      · simp only [if_pos hother]
        exact .bind (leaves_declareOmit s o) fun _ _ => leaves_pure _
      · simp only [if_neg hother]
        exact leaves_pure _

theorem leaves_resultType (s : Conventions) (o : SdkOperation) :
    (s.resultType o).Leaves (s.StemsFrom [o]) := by
  unfold resultType
  cases hkey : present o.role.parentKey? with
  | none => exact leaves_pure _
  | some key => exact .bind (leaves_declareResult hkey) fun _ _ => leaves_pure _

theorem leaves_body (s : Conventions) (o : SdkOperation) :
    (s.body o).Leaves (s.StemsFrom [o]) := by
  unfold body
  cases hkey : present o.role.parentKey? with
  | none => exact leaves_pure _
  | some key =>
    exact .bind (leaves_fromTemplate _) fun _ _ =>
      .bind (leaves_declareResult hkey) fun _ _ => leaves_pure _

/-- A method leaves behind what stems from its operation. -/
theorem leaves_method (s : Conventions) (o : SdkOperation) (name : String) :
    (s.method o name).Leaves (s.StemsFrom [o]) := by
  refine .bind (leaves_operationArgs s o) fun args _ => ?_
  refine .bind (leaves_tell stemsFrom_of_log) fun _ _ => ?_
  refine .bind (leaves_tell fun e he => ?_) fun _ _ => ?_
  · rw [List.mem_singleton.mp he]
    trivial
  · exact .bind (leaves_resultType s o) fun _ _ => .bind (leaves_body s o) fun _ _ => leaves_pure _

end Conventions

namespace Scope

theorem leaves_members (s : Scope) (names : List String) :
    ∀ (os : List SdkOperation) (taken : List (String × SdkOperation)),
      (s.members names taken os).Leaves (s.conventions.StemsFrom os)
  | [], _ => leaves_pure _
  | o :: os, taken => by
    unfold members
    simp only
    cases Assoc.get? (methodName o) taken with
    | some other => exact leaves_fail _
    | none =>
      have hmethod := s.conventions.leaves_method o (innerName names (methodName o))
      refine .bind (hmethod.mono fun e he => he.mono ?_) fun f _ => ?_
      · intro p hp
        rw [List.mem_singleton.mp hp]
        exact List.mem_cons_self
      · refine .bind ((leaves_members s names os _).mono fun e he => he.mono ?_) fun _ _ =>
          leaves_pure _
        exact fun p hp => List.mem_cons_of_mem _ hp

theorem leaves_args (s : Scope) (os : List SdkOperation) :
    s.args.Leaves (s.conventions.StemsFrom os) := by
  have hduplicates : (Emit.tell ((duplicateLog s.givenArgs).map .log) >>= fun _ =>
      (pure (ArgList.ofArgs s.givenArgs) : Emit BuildError ArgList)).Leaves
        (s.conventions.StemsFrom os) :=
    .bind (leaves_tell Conventions.stemsFrom_of_log) fun _ _ => leaves_pure _
  unfold args
  split
  · exact .bind (leaves_tell (Conventions.stemsFrom_of_uses (Or.inl rfl))) fun _ _ => hduplicates
  · exact hduplicates

theorem leaves_build (s : Scope) : s.build.Leaves (s.conventions.StemsFrom s.operations) := by
  refine .bind (leaves_tell fun e he => ?_) fun _ _ => ?_
  · rw [List.mem_singleton.mp he]
    trivial
  · exact .bind (leaves_args s s.operations) fun args _ =>
      .bind (leaves_members s args.names s.operations []) fun _ _ => leaves_pure _

end Scope

theorem leaves_buildApi (s : Conventions) (os : List SdkOperation) (key? : Option String) :
    (buildApi s os key?).Leaves (s.StemsFrom os) := by
  have hempty : (Scope.empty s key?).Leaves (s.StemsFrom os) := by
    refine .bind (Conventions.leaves_fromTemplate _) fun _ _ =>
      .bind (Conventions.leaves_fromTemplate _) fun _ _ =>
      .bind (leaves_tell fun e he => ?_) fun _ _ => leaves_pure _
    rcases List.mem_cons.mp he with rfl | he
    · trivial
    · rw [List.mem_singleton.mp he]
      trivial
  refine hempty.bind fun scope hscope => ?_
  obtain ⟨functionName, typeName, -, -, rfl⟩ := Scope.empty_outcome_eq_ok.mp hscope
  rw [Scope.visitAll_eq]
  refine (Scope.leaves_build _).mono fun e he => he.mono fun o ho => ?_
  exact List.mem_of_mem_filter ho

/-- **What is left behind** while the APIs of operations are built stems from the
operations, also if the APIs cannot be built. -/
theorem leaves_buildApis (s : Conventions) (os : List SdkOperation) :
    (buildApis s os).Leaves (s.StemsFrom os) :=
  leaves_mapM fun key? _ => leaves_buildApi s os key?

/-! ### Declaring twice -/

namespace ScalarRegistry

/-- Marking scalars as used appends those that were not used before. -/
theorem markAll_eq_append : ∀ (names : List String) (r : ScalarRegistry), ∃ added,
    r.markAll names = { r with used := r.used ++ added } ∧
      ∀ x ∈ added, x ∉ r.used ∧ x ∈ names
  | [], r => ⟨[], by simp [markAll], by simp⟩
  | name :: names, r => by
    obtain ⟨added, hall, hadded⟩ := markAll_eq_append names (r.markUsed name)
    have hfirst : r.markAll (name :: names) = (r.markUsed name).markAll names := rfl
    rw [hfirst, hall]
    by_cases h : name ∈ r.used
    · rw [markUsed_of_mem h] at hadded ⊢
      exact ⟨added, rfl, fun x hx => ⟨(hadded x hx).1, List.mem_cons_of_mem _ (hadded x hx).2⟩⟩
    · rw [markUsed_of_notMem h] at hadded ⊢
      refine ⟨name :: added, by simp, fun x hx => ?_⟩
      rcases List.mem_cons.mp hx with rfl | hx
      · exact ⟨h, List.mem_cons_self⟩
      · obtain ⟨hnew, hmem⟩ := hadded x hx
        exact ⟨fun hm => hnew (List.mem_append_left _ hm), List.mem_cons_of_mem _ hmem⟩

end ScalarRegistry

namespace Declared

open ScalarRegistry (markUsed_of_mem mem_used_markUsed)

variable {ε : Type} {d d' : Declared} {e f : Effect ε}

/-- What the effect declares is declared. -/
def Holds (d : Declared) (e : Effect ε) : Prop :=
  d.absorb e = .ok d

theorem holds_scalar_iff {name : String} :
    d.Holds (.scalar name : Effect ε) ↔ name ∈ d.scalars.used := by
  constructor
  · intro h
    have hscalars : d.scalars.markUsed name = d.scalars :=
      congrArg Declared.scalars (Except.ok.inj h)
    rw [← hscalars, mem_used_markUsed]
    exact Or.inr rfl
  · intro h
    show Except.ok { d with scalars := d.scalars.markUsed name } = Except.ok d
    rw [markUsed_of_mem h]

theorem holds_record_iff {c : Code.ClassDecl} :
    d.Holds (.record c : Effect ε) ↔ c.name ∈ d.records.map (·.1) := by
  constructor
  · intro h
    have hrecords : Assoc.add c.name c d.records = d.records :=
      congrArg Declared.records (Except.ok.inj h)
    by_contra hnew
    have hadd := Assoc.add_of_notMem (e := (c.name, c)) hnew
    rw [hadd] at hrecords
    have hlength := congrArg List.length hrecords
    simp at hlength
  · intro h
    show Except.ok { d with records := Assoc.add c.name c d.records } = Except.ok d
    rw [Assoc.add_of_mem (e := (c.name, c)) h]

theorem holds_result_iff {name : String} {declaration : Except ε Code.ClassDecl} :
    d.Holds (.result name declaration : Effect ε) ↔ name ∈ d.results.map (·.1) := by
  constructor
  · intro h
    by_contra hnew
    have hhas : ¬Assoc.has name d.results = true := fun hh => hnew (Assoc.has_iff_mem.mp hh)
    unfold Holds absorb at h
    simp only [if_neg hhas] at h
    cases declaration with
    | error fault => cases h
    | ok c =>
      have hresults : Assoc.add name c d.results = d.results :=
        congrArg Declared.results (Except.ok.inj h)
      rw [Assoc.add_of_notMem (e := (name, c)) hnew] at hresults
      have hlength := congrArg List.length hresults
      simp at hlength
  · intro h
    unfold Holds absorb
    simp only [if_pos (Assoc.has_iff_mem.mpr h)]

theorem mem_keys_add {key other : String} {c : Code.ClassDecl}
    {entries : List (String × Code.ClassDecl)} :
    other ∈ (Assoc.add key c entries).map (·.1) ↔ other ∈ entries.map (·.1) ∨ other = key := by
  have h : other ∈ (Assoc.addAll entries [(key, c)]).map (·.1) ↔
      other ∈ entries.map (·.1) ∨ other ∈ [(key, c)].map (·.1) := Assoc.mem_keys_addAll
  simpa [Assoc.addAll] using h

/-- What is declared stays declared. -/
theorem Holds.absorb (h : d.Holds e) (hf : d.absorb f = .ok d') : d'.Holds e := by
  -- names are added and never taken away
  have hmono : (∀ name ∈ d.scalars.used, name ∈ d'.scalars.used) ∧
      (∀ name ∈ d.records.map (·.1), name ∈ d'.records.map (·.1)) ∧
      (∀ name ∈ d.results.map (·.1), name ∈ d'.results.map (·.1)) := by
    cases f with
    | log r =>
      cases hf
      exact ⟨fun _ h => h, fun _ h => h, fun _ h => h⟩
    | scalar name =>
      cases hf
      exact ⟨fun _ h => mem_used_markUsed.mpr (Or.inl h), fun _ h => h, fun _ h => h⟩
    | record c =>
      cases hf
      exact ⟨fun _ h => h, fun _ h => mem_keys_add.mpr (Or.inl h), fun _ h => h⟩
    | result name declaration =>
      simp only [Declared.absorb] at hf
      by_cases hhas : Assoc.has name d.results = true
      · rw [if_pos hhas] at hf
        cases hf
        exact ⟨fun _ h => h, fun _ h => h, fun _ h => h⟩
      · rw [if_neg hhas] at hf
        cases declaration with
        | error fault => cases hf
        | ok c =>
          cases hf
          exact ⟨fun _ h => h, fun _ h => h, fun _ h => mem_keys_add.mpr (Or.inl h)⟩
  cases e with
  | log r => rfl
  | scalar name => exact holds_scalar_iff.mpr (hmono.1 name (holds_scalar_iff.mp h))
  | record c => exact holds_record_iff.mpr (hmono.2.1 _ (holds_record_iff.mp h))
  | result name declaration => exact holds_result_iff.mpr (hmono.2.2 name (holds_result_iff.mp h))

/-- What has been absorbed is declared. -/
theorem holds_of_absorb (h : d.absorb e = .ok d') : d'.Holds e := by
  cases e with
  | log r => rfl
  | scalar name =>
    cases h
    exact holds_scalar_iff.mpr (mem_used_markUsed.mpr (Or.inr rfl))
  | record c =>
    cases h
    exact holds_record_iff.mpr (mem_keys_add.mpr (Or.inr rfl))
  | result name declaration =>
    simp only [Declared.absorb] at h
    by_cases hhas : Assoc.has name d.results = true
    · rw [if_pos hhas] at h
      cases h
      exact holds_result_iff.mpr (Assoc.has_iff_mem.mp hhas)
    · rw [if_neg hhas] at h
      cases declaration with
      | error fault => cases h
      | ok c =>
        cases h
        exact holds_result_iff.mpr (mem_keys_add.mpr (Or.inr rfl))

theorem Holds.absorbAll : ∀ {es : List (Effect ε)} {d d' : Declared}, d.Holds e →
    d.absorbAll es = .ok d' → d'.Holds e
  | [], _, _, h, hes => by
    cases hes
    exact h
  | f :: _, _, _, h, hes => by
    obtain ⟨d₁, hf, hes⟩ := absorbAll_cons_eq_ok.mp hes
    exact Holds.absorbAll (h.absorb hf) hes

theorem holds_of_absorbAll : ∀ {es : List (Effect ε)} {d d' : Declared}, d.absorbAll es = .ok d' →
    ∀ e ∈ es, d'.Holds e
  | f :: es, d, d', h, e, he => by
    obtain ⟨d₁, hf, hes⟩ := absorbAll_cons_eq_ok.mp h
    rcases List.mem_cons.mp he with rfl | he
    · exact (holds_of_absorb hf).absorbAll hes
    · exact holds_of_absorbAll hes e he

theorem absorbAll_of_holds : ∀ {es : List (Effect ε)} {d : Declared}, (∀ e ∈ es, d.Holds e) →
    d.absorbAll es = .ok d
  | [], _, _ => rfl
  | e :: _, d, h => absorbAll_cons_eq_ok.mpr
    ⟨d, h e List.mem_cons_self, absorbAll_of_holds fun f hf => h f (List.mem_cons_of_mem _ hf)⟩

end Declared

/-! ### Settling a computation, and settling it again -/

section Settling

variable {ε α : Type}

/-- The settlement stands where effects have been absorbed up to the first declaration
that fails, which fails again there, or up to the end. -/
def Settlement.Reached (s : Settlement ε α) (outcome : Except ε α) (d : Declared)
    (es : List (Effect ε)) : Prop :=
  ∃ done rest, es = done ++ rest ∧ d.absorbAll done = .ok s.declared ∧
    ((rest = [] ∧ s.outcome = outcome) ∨
      ∃ e more fault, rest = e :: more ∧ s.declared.absorb e = .error fault ∧
        s.outcome = .error fault)

theorem Settlement.Reached.cons {s : Settlement ε α} {outcome : Except ε α} {d d₁ : Declared}
    {e : Effect ε} {es : List (Effect ε)} (h : s.Reached outcome d₁ es)
    (he : d.absorb e = .ok d₁) : s.Reached outcome d (e :: es) := by
  obtain ⟨done, rest, rfl, hdone, hend⟩ := h
  exact ⟨e :: done, rest, rfl, Declared.absorbAll_cons_eq_ok.mpr ⟨d₁, he, hdone⟩, hend⟩

namespace Emit

theorem reached_settleFrom (outcome : Except ε α) : ∀ (es : List (Effect ε)) (d : Declared)
    (log : List LogRecord), (settleFrom outcome d log es).Reached outcome d es
  | [], _, _ => ⟨[], [], rfl, rfl, Or.inl ⟨rfl, rfl⟩⟩
  | e :: es, d, log => by
    unfold settleFrom
    cases he : d.absorb e with
    | error fault => exact ⟨[], e :: es, rfl, rfl, Or.inr ⟨e, es, fault, rfl, he, rfl⟩⟩
    | ok d₁ => cases e <;> exact (reached_settleFrom outcome es d₁ _).cons he

/-- What is declared once a computation is settled comes from its effects up to the
first declaration that fails. -/
theorem reached_settle (x : Emit ε α) (d : Declared) :
    (x.settle d).Reached x.outcome d x.effects :=
  reached_settleFrom x.outcome x.effects d []

theorem settleFrom_append (outcome : Except ε α) (rest : List (Effect ε)) :
    ∀ {done : List (Effect ε)} {d d' : Declared} (log : List LogRecord), d.absorbAll done = .ok d' →
      ∃ log', settleFrom outcome d log (done ++ rest) = settleFrom outcome d' log' rest
  | [], d, d', log, h => by
    cases h
    exact ⟨log, rfl⟩
  | e :: done, d, d', log, h => by
    obtain ⟨d₁, he, hdone⟩ := Declared.absorbAll_cons_eq_ok.mp h
    have hstep : ∃ log₁, settleFrom outcome d log (e :: (done ++ rest)) =
        settleFrom outcome d₁ log₁ (done ++ rest) := by
      rw [settleFrom, he]
      cases e <;> exact ⟨_, rfl⟩
    obtain ⟨log₁, hstep⟩ := hstep
    obtain ⟨log', hlog'⟩ := settleFrom_append outcome rest log₁ hdone
    exact ⟨log', hstep.trans hlog'⟩

/-- **Settling twice.** Where a computation has been settled, it comes to the same when
it is settled again, and nothing more is declared. -/
theorem settle_settle (x : Emit ε α) (d : Declared) :
    (x.settle (x.settle d).declared).outcome = (x.settle d).outcome ∧
    (x.settle (x.settle d).declared).declared = (x.settle d).declared := by
  obtain ⟨done, rest, hes, hdone, hend⟩ := x.reached_settle d
  -- what was absorbed is there already, so the second time starts where the first one ended
  have hagain : (x.settle d).declared.absorbAll done = .ok (x.settle d).declared :=
    Declared.absorbAll_of_holds (Declared.holds_of_absorbAll hdone)
  obtain ⟨log, hsettle⟩ := settleFrom_append x.outcome rest [] hagain
  rw [← hes] at hsettle
  have hsettle : x.settle (x.settle d).declared =
      settleFrom x.outcome (x.settle d).declared log rest := hsettle
  rw [hsettle]
  rcases hend with ⟨rfl, houtcome⟩ | ⟨e, more, fault, rfl, hfault, houtcome⟩
  · exact ⟨houtcome.symm, rfl⟩
  · unfold settleFrom
    rw [hfault]
    exact ⟨houtcome.symm, rfl⟩

end Emit
end Settling

/-- What is declared is what was declared before, as it was and in its place. Whatever
follows has a new name, and an effect of the kind declares it. -/
structure Declared.Grows {ε : Type} (P : Effect ε → Prop) (d d' : Declared) : Prop where
  records : ∃ added, d'.records = d.records ++ added ∧
    ∀ r ∈ added, r.1 ∉ d.records.map (·.1) ∧ r.1 = r.2.name ∧ P (.record r.2)
  results : ∃ added, d'.results = d.results ++ added ∧
    ∀ r ∈ added, r.1 ∉ d.results.map (·.1) ∧ P (.result r.1 (.ok r.2))
  scalars : ∃ added, d'.scalars = { d.scalars with used := d.scalars.used ++ added } ∧
    ∀ name ∈ added, name ∉ d.scalars.used ∧ P (.scalar name)

/-- Settling a computation adds what its effects declare to what is declared, also
where the computation fails. -/
theorem Emit.Leaves.settle {ε α : Type} {P : Effect ε → Prop} {x : Emit ε α} (hx : x.Leaves P)
    (d : Declared) : d.Grows P (x.settle d).declared := by
  obtain ⟨done, rest, hes, hdone, -⟩ := x.reached_settle d
  have hkind : ∀ e ∈ done, P e := fun e he => hx e (hes ▸ List.mem_append_left _ he)
  obtain ⟨hrecords, hresults, hscalars⟩ := Declared.absorbAll_eq_ok hdone
  refine ⟨⟨_, hrecords.trans (Assoc.addAll_eq_append _ _), fun r hr => ?_⟩,
    ⟨_, hresults.trans (Assoc.addAll_eq_append _ _), fun r hr => ?_⟩, ?_⟩
  · obtain ⟨hr, hnew⟩ := List.mem_filter.mp hr
    obtain ⟨e, he, her⟩ := List.mem_filterMap.mp ((Assoc.mem_addAll hr).resolve_left (by simp))
    cases e <;> cases her
    exact ⟨of_decide_eq_true hnew, rfl, hkind _ he⟩
  · obtain ⟨hr, hnew⟩ := List.mem_filter.mp hr
    obtain ⟨e, he, her⟩ := List.mem_filterMap.mp ((Assoc.mem_addAll hr).resolve_left (by simp))
    unfold Effect.result? at her
    split at her
    · cases her
      exact ⟨of_decide_eq_true hnew, hkind _ he⟩
    · cases her
  · obtain ⟨added, hall, hadded⟩ :=
      ScalarRegistry.markAll_eq_append (done.filterMap Effect.scalar?) d.scalars
    refine ⟨added, hscalars.trans hall, fun name hname => ?_⟩
    obtain ⟨hnew, hmem⟩ := hadded name hname
    obtain ⟨e, he, her⟩ := List.mem_filterMap.mp hmem
    cases e <;> cases her
    exact ⟨hnew, hkind _ he⟩

end ChainedSdk
