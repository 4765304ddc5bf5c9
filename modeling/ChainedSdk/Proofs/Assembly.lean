/-
# How the APIs of an SDK are assembled

A scope collects the operations that belong to it: those whose child key is
its own, where the root has none (`Scope.accepts_eq`). Its API can be built if
no two of them have methods of one name and each method can be built; then it
has one member for each operation, in order (`Scope.members_outcome_eq_ok`).
The APIs of an SDK are those of the root and of the chain keys
(`buildApis_outcome_eq_ok`), each key once, in the order in which the keys come
up (`chainKeys_eq_eraseDups`). What building leaves behind comes from the
methods, as far as records and results go (`declares_buildApis_iff`).

Key definitions: `Code.FunctionDef.nested`, `Code.FunctionDef.entries`,
`Scope.api`, `Scope.collected`, `Effect.Declares`.
Key theorems: `Scope.members_outcome_eq_ok`, `buildApi_outcome_eq_ok`,
`members_of_buildApi`, `buildApis_outcome_eq_ok`, `chainKeys_eq_eraseDups`,
`declares_buildApis_iff`.
-/
import ChainedSdk.Proofs.Emission
import ChainedSdk.Scope

namespace ChainedSdk

open Code (Entry FunctionDef ClassDecl Statement)

namespace Code.FunctionDef

/-- The functions that are declared in the body of a function, in order. -/
def nested (f : FunctionDef) : List FunctionDef :=
  f.body.filterMap fun
    | .function g => some g
    | _ => none

/-- The entries of the object that a function returns as a value of some type. -/
def entries (f : FunctionDef) : List Entry :=
  match f.body.getLast? with
  | some (.ret (.call _ [_, .object entries _])) => entries
  | _ => []

end Code.FunctionDef

/-- The effect declares a record or a result. -/
def Effect.Declares {ε : Type} : Effect ε → Prop
  | .record _ => True
  | .result _ _ => True
  | _ => False

theorem declares_record {ε : Type} {d : ClassDecl} : (Effect.record (ε := ε) d).Declares := trivial

theorem declares_result {ε : Type} {name : String} {declaration : Except ε ClassDecl} :
    (Effect.result name declaration).Declares := trivial

theorem not_declares_log {ε : Type} {r : LogRecord} : ¬(Effect.log (ε := ε) r).Declares := id

theorem not_declares_of_uses {s : Conventions} {name : String} {e : Effect BuildError}
    (he : e ∈ s.uses name) : ¬e.Declares := by
  unfold Conventions.uses at he
  split at he
  · rw [List.mem_singleton.mp he]
    exact id
  · cases he

theorem fromTemplate_outcome_eq_ok {α : Type} {x : Except TemplateError α} {a : α} :
    (fromTemplate x).outcome = .ok a ↔ x = .ok a := by
  cases x <;> simp [fromTemplate, Emit.ofExcept, Except.mapError]

/-! ### Parameters -/

theorem param_name (a : Arg) : a.param.name = a.name := by
  unfold Arg.param
  cases a.default? with
  | some value => rfl
  | none => cases ho : a.optional <;> rfl

theorem params_names (xs : List (Option Arg)) :
    (ArgList.ofArgs xs).params.map (·.name) = (ArgList.ofArgs xs).names := by
  unfold ArgList.ofArgs ArgList.ofOrdered ArgList.names
  simp only [List.map_map]
  exact List.map_congr_left fun a _ => param_name a

namespace Scope

/-! ### The operations of a scope -/

/-- A scope takes the operations whose child key is its own. -/
theorem accepts_eq (key? : Option String) (o : SdkOperation) :
    accepts key? o = decide (o.role.childKey? = key?) := by
  cases key? with
  | none => cases hr : o.role <;> simp [accepts, Role.level, Role.childKey?, hr]
  | some key =>
    cases hr : o.role with
    | root => simp [accepts, Role.childKey?, hr]
    | parent k => simp [accepts, Role.childKey?, hr]
    | child k =>
      rw [Bool.eq_iff_iff]
      simp [accepts, Role.childKey?, hr]

theorem visitAll_eq : ∀ (os : List SdkOperation) (s : Scope),
    s.visitAll os = { s with operations := s.operations ++ os.filter (accepts s.key?) }
  | [], s => by simp [visitAll]
  | o :: os, s => by
    have ih := visitAll_eq os (s.visit o)
    unfold visitAll at ih ⊢
    rw [List.foldl_cons, ih]
    by_cases h : accepts s.key? o = true
    · simp [visit, h]
    · simp [visit, h]

/-- The scope of a chain key, or the root, with the operations that belong to
it, under the names of its API. -/
def collected (s : Conventions) (os : List SdkOperation) (key? : Option String)
    (functionName typeName : String) : Scope :=
  ⟨s, key?, functionName, typeName, os.filter (accepts key?)⟩

/-- The names of the parameters of the API's function. -/
def paramNames (s : Scope) : List String :=
  (ArgList.ofArgs s.givenArgs).names

/-- The API of a scope with the given members. -/
def api (s : Scope) (ms : List Member) : ScopedApi where
  key? := s.key?
  functionName := s.functionName
  typeName := s.typeName
  operations := s.operations
  function := s.apiFunction (ArgList.ofArgs s.givenArgs) ms
  protocol := s.apiProtocol ms

/-- The functions of the members are those that the API's function declares. -/
theorem nested_api (s : Scope) (ms : List Member) :
    (s.api ms).function.nested = ms.map (·.function) := by
  unfold api apiFunction FunctionDef.nested
  simp [List.filterMap_append, List.filterMap_map]

/-- The entries of the object returned are those of the members. -/
theorem entries_api (s : Scope) (ms : List Member) :
    (s.api ms).function.entries = ms.map Member.entry := by
  unfold api apiFunction FunctionDef.entries
  simp only [List.getLast?_append]
  rfl

/-! ### The members of a scope -/

theorem not_mem_keys_of_get? {κ α : Type} [DecidableEq κ] {key : κ} {d : List (κ × α)}
    (h : Assoc.get? key d = none) : key ∉ d.map (·.1) := by
  intro hm
  have hh := Assoc.has_iff_mem.mpr hm
  rw [Assoc.has, h] at hh
  cases hh

/-- **The members of a scope.** They can be built if no method has a name that
is taken or that another one has, and each method can be built under the name
it has inside the API's function. -/
theorem members_outcome_eq_ok {s : Scope} {names : List String} :
    ∀ {os : List SdkOperation} {taken : List (String × SdkOperation)} {ms : List Member},
      (s.members names taken os).outcome = .ok ms ↔
        (∀ o ∈ os, methodName o ∉ taken.map (·.1)) ∧ (os.map methodName).Nodup ∧
          List.Forall₂ (fun o m => m.name = methodName o ∧ m.operation = o ∧
            (s.conventions.method o (innerName names (methodName o))).outcome = .ok m.function) os ms
  | [], taken, ms => by
    cases ms <;> simp [members, Emit.pure_eq]
  | o :: os, taken, ms => by
    unfold members
    simp only
    cases ht : Assoc.get? (methodName o) taken with
    | some other =>
      have hmem : methodName o ∈ taken.map (·.1) :=
        Assoc.has_iff_mem.mp (by rw [Assoc.has, ht]; rfl)
      simp only [Emit.fail]
      constructor
      · intro h
        cases h
      · exact fun h => absurd hmem (h.1 o List.mem_cons_self)
    | none =>
      have hnew := not_mem_keys_of_get? ht
      simp only [Emit.bind_outcome_eq_ok, members_outcome_eq_ok, Emit.pure_eq,
        List.map_append, List.map_cons, List.map_nil, List.mem_append, List.mem_singleton, not_or,
        List.nodup_cons, List.mem_map, not_exists, not_and, List.forall_mem_cons]
      constructor
      · rintro ⟨f, hf, more, ⟨htaken, hnodup, hall⟩, hms⟩
        cases hms
        refine ⟨⟨?_, fun o' ho' => (htaken o' ho').1⟩, ⟨fun o' ho' => (htaken o' ho').2, hnodup⟩,
          .cons ⟨rfl, rfl, hf⟩ hall⟩
        exact fun x hx he => hnew (List.mem_map.mpr ⟨x, hx, he⟩)
      · rintro ⟨⟨-, htaken⟩, ⟨hother, hnodup⟩, hall⟩
        cases hall with
        | @cons _ m _ more hm hall =>
          obtain ⟨hname, hop, hf⟩ := hm
          refine ⟨m.function, hf, more,
            ⟨fun o' ho' => ⟨htaken o' ho', hother o' ho'⟩, hnodup, hall⟩, ?_⟩
          rw [← hname, ← hop]

/-- What the members leave behind, their methods do. -/
theorem members_effects {s : Scope} {names : List String} :
    ∀ {os : List SdkOperation} {taken : List (String × SdkOperation)} {ms : List Member},
      (s.members names taken os).outcome = .ok ms → (s.members names taken os).effects =
        os.flatMap fun o => (s.conventions.method o (innerName names (methodName o))).effects
  | [], _, _, _ => rfl
  | o :: os, taken, ms, h => by
    unfold members at h ⊢
    simp only at h ⊢
    cases ht : Assoc.get? (methodName o) taken with
    | some other =>
      rw [ht] at h
      cases h
    | none =>
      rw [ht] at h
      simp only at h ⊢
      obtain ⟨f, hf, h⟩ := Emit.bind_outcome_eq_ok.mp h
      obtain ⟨more, hmore, -⟩ := Emit.bind_outcome_eq_ok.mp h
      rw [Emit.bind_effects hf, Emit.bind_effects hmore, members_effects hmore, Emit.pure_eq,
        List.flatMap_cons, List.append_nil]

/-! ### The API of a scope -/

theorem args_outcome (s : Scope) : s.args.outcome = .ok (ArgList.ofArgs s.givenArgs) := by
  unfold args
  split
  · rfl
  · rfl

theorem build_outcome_eq_ok {s : Scope} {a : ScopedApi} : s.build.outcome = .ok a ↔
    ∃ ms, (s.members s.paramNames [] s.operations).outcome = .ok ms ∧ a = s.api ms := by
  unfold build
  rw [Emit.tell_bind, Emit.bind_outcome_eq_ok]
  constructor
  · rintro ⟨args, hargs, h⟩
    rw [args_outcome] at hargs
    cases hargs
    obtain ⟨ms, hms, h⟩ := Emit.bind_outcome_eq_ok.mp h
    cases h
    exact ⟨ms, hms, rfl⟩
  · rintro ⟨ms, hms, rfl⟩
    exact ⟨_, args_outcome s, Emit.bind_outcome_eq_ok.mpr ⟨ms, hms, rfl⟩⟩

theorem not_declares_args {s : Scope} : ∀ e ∈ s.args.effects, ¬e.Declares := by
  have hlog : ∀ e ∈ (duplicateLog s.givenArgs).map (Effect.log (ε := BuildError)), ¬e.Declares := by
    intro e he
    obtain ⟨r, -, rfl⟩ := List.mem_map.mp he
    exact not_declares_log
  have hdup : ∀ e ∈ (Emit.tell ((duplicateLog s.givenArgs).map .log) >>= fun _ =>
      (pure (ArgList.ofArgs s.givenArgs) : Emit BuildError ArgList)).effects, ¬e.Declares := by
    intro e he
    rw [Emit.tell_bind, Emit.pure_eq, List.append_nil] at he
    exact hlog e he
  intro e he
  unfold args at he
  split at he
  · rw [Emit.tell_bind] at he
    rcases List.mem_append.mp he with he | he
    · exact not_declares_of_uses he
    · exact hdup e he
  · exact hdup e he

/-- What an API leaves behind are log records and scalars, and what its methods
leave behind. -/
theorem build_effects {s : Scope} {a : ScopedApi} (h : s.build.outcome = .ok a) :
    ∃ before : List (Effect BuildError), (∀ e ∈ before, ¬e.Declares) ∧
      s.build.effects = before ++ s.operations.flatMap fun o =>
        (s.conventions.method o (innerName s.paramNames (methodName o))).effects := by
  obtain ⟨ms, hms, -⟩ := build_outcome_eq_ok.mp h
  refine ⟨scopeLog s.key? ("operations " ++ toString s.operations.length) :: s.args.effects, ?_, ?_⟩
  · intro e he
    rcases List.mem_cons.mp he with rfl | he
    · exact not_declares_log
    · exact not_declares_args e he
  · unfold paramNames at hms ⊢
    unfold build
    rw [Emit.tell_bind, Emit.bind_effects (args_outcome s), Emit.bind_effects hms, members_effects hms,
      Emit.pure_eq, List.append_nil]
    rfl

theorem empty_outcome_eq_ok {s : Conventions} {key? : Option String} {scope : Scope} :
    (empty s key?).outcome = .ok scope ↔ ∃ functionName typeName,
      s.config.apiFunctionName key? = .ok functionName ∧
      s.config.apiTypeName key? = .ok typeName ∧ scope = ⟨s, key?, functionName, typeName, []⟩ := by
  unfold empty
  simp only [Emit.bind_outcome_eq_ok, fromTemplate_outcome_eq_ok]
  constructor
  · rintro ⟨functionName, hf, typeName, ht, _, -, h⟩
    cases h
    exact ⟨functionName, typeName, hf, ht, rfl⟩
  · rintro ⟨functionName, typeName, hf, ht, rfl⟩
    exact ⟨functionName, hf, typeName, ht, (), rfl, rfl⟩

end Scope

/-! ### Chain keys -/

/-- A further element counts if it is new. -/
theorem eraseDups_append_singleton {α : Type} [DecidableEq α] (xs : List α) (x : α) :
    (xs ++ [x]).eraseDups = if x ∈ xs then xs.eraseDups else xs.eraseDups ++ [x] := by
  rw [List.eraseDups_append]
  by_cases hx : x ∈ xs
  · have hnew : [x].removeAll xs = [] := by simp [List.removeAll, hx]
    rw [hnew, if_pos hx, List.eraseDups_nil, List.append_nil]
  · have hnew : [x].removeAll xs = [x] := by simp [List.removeAll, hx]
    rw [hnew, if_neg hx, List.eraseDups_cons]
    rfl

/-- Names that are kept when they are new are names, each once, in order. -/
theorem eraseDups_append_toList {α : Type} [DecidableEq α] (xs : List α) (x? : Option α) :
    (xs ++ x?.toList).eraseDups = xs.eraseDups ++ x?.toList.filter (· ∉ xs.eraseDups) := by
  cases x? with
  | none => simp
  | some x =>
    rw [Option.toList_some, eraseDups_append_singleton]
    by_cases hx : x ∈ xs
    · simp [hx]
    · simp [hx]

theorem eraseDups_nodup {α : Type} [DecidableEq α] (xs : List α) : xs.eraseDups.Nodup := by
  induction xs using List.reverseRecOn with
  | nil => simp
  | append_singleton xs x ih =>
    rw [eraseDups_append_singleton]
    by_cases hx : x ∈ xs
    · rwa [if_pos hx]
    · rw [if_neg hx]
      exact List.nodup_append'.mpr ⟨ih, by simp, by simpa using hx⟩

/-- **The chain keys of operations** are their keys, each once, in the order in
which they come first. -/
theorem chainKeys_eq_eraseDups (os : List SdkOperation) :
    chainKeys os = (os.filterMap fun o => present o.role.key?).eraseDups := by
  induction os using List.reverseRecOn with
  | nil => rfl
  | append_singleton os o ih =>
    have hstep : chainKeys (os ++ [o]) = (present o.role.key?).elim (chainKeys os) fun key =>
        if (chainKeys os).contains key then chainKeys os else chainKeys os ++ [key] := by
      unfold chainKeys
      rw [List.foldl_append]
      rw [List.foldl_cons, List.foldl_nil]
      cases present o.role.key? <;> rfl
    rw [hstep, List.filterMap_append]
    cases hk : present o.role.key? with
    | none => simpa [hk] using ih
    | some key =>
      have hone : [o].filterMap (fun o => present o.role.key?) = [key] := by simp [hk]
      have hmem : (chainKeys os).contains key = true ↔
          key ∈ os.filterMap fun o => present o.role.key? := by
        rw [ih, List.contains_iff_mem, List.mem_eraseDups]
      rw [hone, eraseDups_append_singleton, ← ih]
      exact if_congr hmem rfl rfl

theorem chainKeys_nodup (os : List SdkOperation) : (chainKeys os).Nodup := by
  rw [chainKeys_eq_eraseDups]
  exact eraseDups_nodup _

theorem mem_chainKeys {os : List SdkOperation} {key : String} :
    key ∈ chainKeys os ↔ ∃ o ∈ os, present o.role.key? = some key := by
  rw [chainKeys_eq_eraseDups, List.mem_eraseDups, List.mem_filterMap]

/-- A chain key is not empty. -/
theorem present_of_mem_chainKeys {os : List SdkOperation} {key : String} (h : key ∈ chainKeys os) :
    present (some key) = some key := by
  obtain ⟨o, -, hkey⟩ := mem_chainKeys.mp h
  exact Option.filter_eq_some_iff.mpr ⟨rfl, (Option.filter_eq_some_iff.mp hkey).2⟩

/-- The scopes of operations: the root and the chain keys. -/
theorem scopes_nodup (os : List SdkOperation) : (none :: (chainKeys os).map some).Nodup := by
  refine List.nodup_cons.mpr ⟨by simp, ?_⟩
  exact (chainKeys_nodup os).map fun _ _ h => Option.some.inj h

/-! ### APIs -/

/-- **One API.** Its names come from the templates, its operations are those
that belong to its scope, and it has a member for each of them. -/
theorem buildApi_outcome_eq_ok {s : Conventions} {os : List SdkOperation} {key? : Option String}
    {a : ScopedApi} : (buildApi s os key?).outcome = .ok a ↔ ∃ functionName typeName ms,
      s.config.apiFunctionName key? = .ok functionName ∧ s.config.apiTypeName key? = .ok typeName ∧
      ((Scope.collected s os key? functionName typeName).members
        (Scope.collected s os key? functionName typeName).paramNames []
        (os.filter (Scope.accepts key?))).outcome = .ok ms ∧
      a = (Scope.collected s os key? functionName typeName).api ms := by
  have hvisit : ∀ functionName typeName, Scope.visitAll ⟨s, key?, functionName, typeName, []⟩ os =
      Scope.collected s os key? functionName typeName := fun _ _ => Scope.visitAll_eq os _
  unfold buildApi
  simp only [Emit.bind_outcome_eq_ok, Scope.empty_outcome_eq_ok]
  constructor
  · rintro ⟨scope, ⟨functionName, typeName, hf, ht, rfl⟩, h⟩
    rw [hvisit] at h
    obtain ⟨ms, hms, ha⟩ := Scope.build_outcome_eq_ok.mp h
    exact ⟨functionName, typeName, ms, hf, ht, hms, ha⟩
  · rintro ⟨functionName, typeName, ms, hf, ht, hms, ha⟩
    refine ⟨_, ⟨functionName, typeName, hf, ht, rfl⟩, ?_⟩
    rw [hvisit]
    exact Scope.build_outcome_eq_ok.mpr ⟨ms, hms, ha⟩

/-- **All APIs.** They are those of the root and the chain keys, in order. -/
theorem buildApis_outcome_eq_ok {s : Conventions} {os : List SdkOperation} {apis : List ScopedApi} :
    (buildApis s os).outcome = .ok apis ↔
      List.Forall₂ (fun key? a => (buildApi s os key?).outcome = .ok a)
        (none :: (chainKeys os).map some) apis :=
  Emit.mapM_outcome_eq_ok

theorem buildApi_key? {s : Conventions} {os : List SdkOperation} {key? : Option String}
    {a : ScopedApi} (h : (buildApi s os key?).outcome = .ok a) : a.key? = key? := by
  obtain ⟨_, _, _, -, -, -, rfl⟩ := buildApi_outcome_eq_ok.mp h
  rfl

theorem buildApi_operations {s : Conventions} {os : List SdkOperation} {key? : Option String}
    {a : ScopedApi} (h : (buildApi s os key?).outcome = .ok a) :
    a.operations = os.filter (Scope.accepts key?) := by
  obtain ⟨_, _, _, -, -, -, rfl⟩ := buildApi_outcome_eq_ok.mp h
  rfl

/-- **The members of an API.** There is one for each operation of the API, with the
method of the operation, under a name that is not that of a parameter; the API's
function declares these methods, the object it returns has an entry for each of
them, and its protocol promises them. -/
theorem members_of_buildApi {s : Conventions} {os : List SdkOperation} {key? : Option String}
    {a : ScopedApi} (h : (buildApi s os key?).outcome = .ok a) : ∃ ms : List Scope.Member,
    List.Forall₂ (fun o m => m.name = methodName o ∧ (s.method o
        (Scope.innerName (a.function.params.map (·.name)) (methodName o))).outcome = .ok m.function)
      a.operations ms ∧
    a.function.nested = ms.map (·.function) ∧ a.function.entries = ms.map Scope.Member.entry ∧
    a.protocol.methods = ms.map Scope.Member.stub := by
  obtain ⟨functionName, typeName, ms, -, -, hms, rfl⟩ := buildApi_outcome_eq_ok.mp h
  have hparams : ((Scope.collected s os key? functionName typeName).api ms).function.params.map
      (·.name) = (Scope.collected s os key? functionName typeName).paramNames :=
    params_names _
  rw [hparams]
  exact ⟨ms, (Scope.members_outcome_eq_ok.mp hms).2.2.imp fun _ _ hm => ⟨hm.1, hm.2.2⟩,
    Scope.nested_api _ _, Scope.entries_api _ _, rfl⟩

/-- The API's function declares the method of each operation. -/
theorem methods_of_buildApi {s : Conventions} {os : List SdkOperation} {key? : Option String}
    {a : ScopedApi} (h : (buildApi s os key?).outcome = .ok a) :
    List.Forall₂ (fun o f => (s.method o
        (Scope.innerName (a.function.params.map (·.name)) (methodName o))).outcome = .ok f)
      a.operations a.function.nested := by
  obtain ⟨ms, hms, hnested, -, -⟩ := members_of_buildApi h
  rw [hnested, List.forall₂_map_right_iff]
  exact hms.imp fun _ _ hm => hm.2

theorem methodNames_nodup {s : Conventions} {os : List SdkOperation} {key? : Option String}
    {a : ScopedApi} (h : (buildApi s os key?).outcome = .ok a) :
    (a.operations.map methodName).Nodup := by
  obtain ⟨functionName, typeName, ms, -, -, hms, rfl⟩ := buildApi_outcome_eq_ok.mp h
  exact (Scope.members_outcome_eq_ok.mp hms).2.1

/-- An API declares what its methods declare. -/
theorem declares_buildApi_iff {s : Conventions} {os : List SdkOperation} {key? : Option String}
    {a : ScopedApi} (h : (buildApi s os key?).outcome = .ok a) {e : Effect BuildError}
    (he : e.Declares) : e ∈ (buildApi s os key?).effects ↔ ∃ o ∈ a.operations, e ∈ (s.method o
      (Scope.innerName (a.function.params.map (·.name)) (methodName o))).effects := by
  obtain ⟨functionName, typeName, ms, hf, ht, hms, rfl⟩ := buildApi_outcome_eq_ok.mp h
  have hparams : ((Scope.collected s os key? functionName typeName).api ms).function.params.map
      (·.name) = (Scope.collected s os key? functionName typeName).paramNames :=
    params_names _
  have hempty : (Scope.empty s key?).outcome = .ok ⟨s, key?, functionName, typeName, []⟩ :=
    Scope.empty_outcome_eq_ok.mpr ⟨functionName, typeName, hf, ht, rfl⟩
  have hbuild : (Scope.collected s os key? functionName typeName).build.outcome =
      .ok ((Scope.collected s os key? functionName typeName).api ms) :=
    Scope.build_outcome_eq_ok.mpr ⟨ms, hms, rfl⟩
  obtain ⟨before, hbefore, heffects⟩ := Scope.build_effects hbuild
  have hnames : ∀ e ∈ (Scope.empty s key?).effects, ¬e.Declares := by
    intro e he
    unfold Scope.empty fromTemplate at he
    rw [hf, ht] at he
    rcases List.mem_cons.mp he with rfl | he
    · exact not_declares_log
    · rw [List.mem_singleton.mp he]
      exact not_declares_log
  unfold buildApi
  rw [Emit.bind_effects hempty, hparams, show Scope.visitAll ⟨s, key?, functionName, typeName, []⟩ os =
    Scope.collected s os key? functionName typeName from Scope.visitAll_eq os _, heffects]
  simp only [List.mem_append, List.mem_flatMap]
  constructor
  · rintro (hm | hm | hm)
    · exact absurd he (hnames e hm)
    · exact absurd he (hbefore e hm)
    · exact hm
  · exact fun hm => Or.inr (Or.inr hm)

section Apis

variable {s : Conventions} {os : List SdkOperation} {apis : List ScopedApi}

theorem keys_of_buildApis (h : (buildApis s os).outcome = .ok apis) :
    apis.map (·.key?) = none :: (chainKeys os).map some := by
  have hmap := map_eq_of_forall₂ (f := id) (g := (·.key?)) (fun _ _ ha => (buildApi_key? ha).symm)
    (buildApis_outcome_eq_ok.mp h)
  rw [← hmap, List.map_id]

theorem keys_nodup (h : (buildApis s os).outcome = .ok apis) : (apis.map (·.key?)).Nodup := by
  rw [keys_of_buildApis h]
  exact scopes_nodup os

/-- Every API that was built is that of its key. -/
theorem buildApi_of_mem (h : (buildApis s os).outcome = .ok apis) {a : ScopedApi} (ha : a ∈ apis) :
    (buildApi s os a.key?).outcome = .ok a := by
  have hall := buildApis_outcome_eq_ok.mp h
  obtain ⟨i, hi, rfl⟩ := List.getElem_of_mem ha
  have hget := hall.get (by rw [hall.length_eq]; exact hi) hi
  rwa [← buildApi_key? hget] at hget

/-- There is an API for the root and for each chain key. -/
theorem exists_api (h : (buildApis s os).outcome = .ok apis) {key? : Option String}
    (hk : key? ∈ none :: (chainKeys os).map some) : ∃ a ∈ apis, a.key? = key? := by
  rw [← keys_of_buildApis h] at hk
  obtain ⟨a, ha, rfl⟩ := List.mem_map.mp hk
  exact ⟨a, ha, rfl⟩

/-- The key of an API is one of the chain keys, unless it is the root. -/
theorem mem_chainKeys_of_mem (h : (buildApis s os).outcome = .ok apis) {a : ScopedApi} (ha : a ∈ apis)
    {key : String} (hkey : a.key? = some key) : key ∈ chainKeys os := by
  have hmem : some key ∈ none :: (chainKeys os).map some := by
    rw [← keys_of_buildApis h, ← hkey]
    exact List.mem_map.mpr ⟨a, ha, rfl⟩
  simpa using hmem

/-- There is one API for a key. -/
theorem eq_of_key? (h : (buildApis s os).outcome = .ok apis) {a b : ScopedApi} (ha : a ∈ apis)
    (hb : b ∈ apis) (hk : a.key? = b.key?) : a = b :=
  List.inj_on_of_nodup_map (keys_nodup h) ha hb hk

/-- The operations of an API are those that are children of its key. -/
theorem mem_operations_iff (h : (buildApis s os).outcome = .ok apis) {a : ScopedApi} (ha : a ∈ apis)
    {o : SdkOperation} : o ∈ a.operations ↔ o ∈ os ∧ o.role.childKey? = a.key? := by
  rw [buildApi_operations (buildApi_of_mem h ha), List.mem_filter, Scope.accepts_eq,
    decide_eq_true_eq]

/-- **What is declared while the APIs are built** is what their methods
declare. -/
theorem declares_buildApis_iff (h : (buildApis s os).outcome = .ok apis) {e : Effect BuildError}
    (he : e.Declares) : e ∈ (buildApis s os).effects ↔ ∃ a ∈ apis, ∃ o ∈ a.operations,
      e ∈ (s.method o (Scope.innerName (a.function.params.map (·.name)) (methodName o))).effects := by
  have heffects : (buildApis s os).effects = (none :: (chainKeys os).map some).flatMap fun key? =>
      (buildApi s os key?).effects :=
    Emit.mapM_effects h
  rw [heffects, ← keys_of_buildApis h, List.mem_flatMap]
  constructor
  · rintro ⟨key?, hk, hm⟩
    obtain ⟨a, ha, rfl⟩ := List.mem_map.mp hk
    exact ⟨a, ha, (declares_buildApi_iff (buildApi_of_mem h ha) he).mp hm⟩
  · rintro ⟨a, ha, hm⟩
    exact ⟨a.key?, List.mem_map.mpr ⟨a, ha, rfl⟩,
      (declares_buildApi_iff (buildApi_of_mem h ha) he).mpr hm⟩

end Apis

end ChainedSdk
