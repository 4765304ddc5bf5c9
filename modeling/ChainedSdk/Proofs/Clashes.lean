/-
# Two methods of one name

An API cannot have two methods of one name. Its operations are taken one by one,
and building fails at the first whose method has the name of an earlier one
(`Scope.members_outcome_eq_error`). Names become equal in many ways: a child
loses the key it starts with, names are put in snake case, and keywords are
escaped. None of that matters here: operations clash if and only if they belong to
one scope and their method names are equal (`Clash`).

The scopes are built in order, so the first scope with a clash decides which error
is reported: that of its first operation that clashes, with the only operation
before it that has the name (`FirstClash.eq_of_clash`). Under the default
configuration nothing else can fail (`exists_method_of_default`,
`settle_buildApis_of_default`). So an SDK is built exactly if no two operations
clash, and otherwise the error names the first two that do
(`buildApis_clash_iff`).

Key definitions: `Clash`, `FirstClash`, `Scope.FirstTaken`.
Key theorems: `Scope.members_outcome_eq_error`, `firstClash_iff_split`,
`buildApis_clash_iff`.
-/
import ChainedSdk.Proofs.History
import ChainedSdk.Proofs.Independence
import ChainedSdk.Proofs.Remains

namespace ChainedSdk

/-- The operations at two positions belong to one scope and have one method name. -/
structure Clash (os : List SdkOperation) (key? : Option String) (i j : ℕ) (o p : SdkOperation) :
    Prop where
  lt : i < j
  first : os[i]? = some o
  second : os[j]? = some p
  accepts_first : Scope.accepts key? o = true
  accepts_second : Scope.accepts key? p = true
  methodName_eq : methodName o = methodName p

/-- No operation before the later one of the two clashes with an earlier one. -/
structure FirstClash (os : List SdkOperation) (key? : Option String) (i j : ℕ)
    (o p : SdkOperation) : Prop extends Clash os key? i j o p where
  least : ∀ {i' j' o' p'}, Clash os key? i' j' o' p' → j ≤ j'

variable {os : List SdkOperation} {key? : Option String} {i j : ℕ} {o p : SdkOperation}

/-! ### The first clash -/

/-- There is only one operation before the first that clashes which has its name. -/
theorem FirstClash.eq_of_clash (h : FirstClash os key? i j o p) {i' : ℕ} {o' p' : SdkOperation}
    (h' : Clash os key? i' j o' p') : i' = i ∧ o' = o := by
  have hp : p' = p := Option.some.inj (h'.second.symm.trans h.second)
  subst hp
  have hnames : methodName o = methodName o' := h.methodName_eq.trans h'.methodName_eq.symm
  have hi : i' = i := by
    by_contra hne
    rcases Nat.lt_or_gt_of_ne hne with hlt | hlt
    · have hearlier : Clash os key? i' i o' o :=
        ⟨hlt, h'.first, h.first, h'.accepts_first, h.accepts_first, hnames.symm⟩
      have := h.least hearlier
      have := h.lt
      omega
    · have hearlier : Clash os key? i i' o o' :=
        ⟨hlt, h.first, h'.first, h.accepts_first, h'.accepts_first, hnames⟩
      have := h.least hearlier
      have := h'.lt
      omega
  subst hi
  exact ⟨rfl, Option.some.inj (h'.first.symm.trans h.first)⟩

/-- Method names differ in a scope exactly if no two of its operations clash. -/
theorem methodNames_nodup_iff :
    ((os.filter (Scope.accepts key?)).map methodName).Nodup ↔ ∀ i j o p, ¬Clash os key? i j o p := by
  unfold List.Nodup
  rw [List.pairwise_map, List.pairwise_filter, List.pairwise_iff_getElem]
  constructor
  · intro h i j o p hclash
    obtain ⟨hi, hio⟩ := List.getElem?_eq_some_iff.mp hclash.first
    obtain ⟨hj, hjp⟩ := List.getElem?_eq_some_iff.mp hclash.second
    have hne := h i j hi hj hclash.lt
    rw [hio, hjp] at hne
    exact hne hclash.accepts_first hclash.accepts_second hclash.methodName_eq
  · intro h i j hi hj hlt haccepts haccepts' heq
    exact h i j os[i] os[j] ⟨hlt, List.getElem?_eq_getElem hi, List.getElem?_eq_getElem hj, haccepts,
      haccepts', heq⟩

/-- The first clash is where an operation comes after others of its scope that have
different names, one of them its own. -/
theorem firstClash_iff_split : FirstClash os key? i j o p ↔
    ∃ before after, os = before ++ p :: after ∧ before.length = j ∧
      Scope.accepts key? p = true ∧ ((before.filter (Scope.accepts key?)).map methodName).Nodup ∧
      before[i]? = some o ∧ Scope.accepts key? o = true ∧ methodName o = methodName p := by
  constructor
  · intro h
    obtain ⟨hj, hjp⟩ := List.getElem?_eq_some_iff.mp h.second
    have hlength : (os.take j).length = j := by simp [Nat.le_of_lt hj]
    refine ⟨os.take j, os.drop (j + 1), ?_, hlength, h.accepts_second, ?_, ?_, h.accepts_first,
      h.methodName_eq⟩
    · rw [← hjp, List.getElem_cons_drop, List.take_append_drop]
    · -- a clash among the operations before would come first
      rw [methodNames_nodup_iff]
      intro i' j' o' p' hclash
      have hj' : j' < j := by
        have := (List.getElem?_eq_some_iff.mp hclash.second).1
        omega
      have hi' : i' < j := hclash.lt.trans hj'
      have hearlier : Clash os key? i' j' o' p' :=
        { hclash with
          first := by rw [← hclash.first, List.getElem?_take_of_lt hi']
          second := by rw [← hclash.second, List.getElem?_take_of_lt hj'] }
      have := h.least hearlier
      omega
    · rw [List.getElem?_take_of_lt h.lt, h.first]
  · rintro ⟨before, after, rfl, rfl, haccepts, hnodup, hfirst, haccepts', hname⟩
    have hlt : i < before.length := (List.getElem?_eq_some_iff.mp hfirst).1
    refine ⟨⟨hlt, ?_, ?_, haccepts', haccepts, hname⟩, fun {i' j' o' p'} hclash => ?_⟩
    · rw [List.getElem?_append_left hlt, hfirst]
    · simp
    · by_contra hj'
      have hj' : j' < before.length := by omega
      have hi' : i' < before.length := hclash.lt.trans hj'
      refine methodNames_nodup_iff.mp hnodup i' j' o' p' { hclash with first := ?_, second := ?_ }
      · rw [← hclash.first, List.getElem?_append_left hi']
      · rw [← hclash.second, List.getElem?_append_left hj']

/-! ### The methods of a scope -/

namespace Scope

/-- The dictionary of operations by their method names. -/
def named (os : List SdkOperation) : List (String × SdkOperation) :=
  os.map fun o => (methodName o, o)

theorem keys_named (os : List SdkOperation) : (named os).map (·.1) = os.map methodName := by
  unfold named
  rw [List.map_map]
  rfl

theorem get?_named {name : String} (h : (os.map methodName).Nodup) :
    Assoc.get? name (named os) = some o ↔ o ∈ os ∧ methodName o = name := by
  constructor
  · intro hget
    obtain ⟨p, hp, heq⟩ := List.mem_map.mp (Assoc.mem_of_get? hget)
    cases heq
    exact ⟨hp, rfl⟩
  · rintro ⟨ho, rfl⟩
    refine Assoc.get?_of_mem ?_ (List.mem_map.mpr ⟨o, ho, rfl⟩)
    rw [keys_named]
    exact h

/-- The first of the operations whose method has a name that is taken is `p`: those
before it take new names, and the name of `p` is that of `o`, which came before all of
them or is one of them. -/
def FirstTaken (taken : List (String × SdkOperation)) (os : List SdkOperation)
    (p o : SdkOperation) : Prop :=
  ∃ before after, os = before ++ p :: after ∧ (∀ q ∈ before, methodName q ∉ taken.map (·.1)) ∧
    (before.map methodName).Nodup ∧ Assoc.get? (methodName p) (taken ++ named before) = some o

section FirstTaken

variable {taken : List (String × SdkOperation)} {p q other : SdkOperation}

theorem not_firstTaken_nil : ¬FirstTaken taken [] p o := by
  rintro ⟨before, after, hos, -⟩
  simp at hos

/-- If the name of the first operation is taken, it is the one. -/
theorem firstTaken_cons_of_taken (ht : Assoc.get? (methodName q) taken = some other) :
    FirstTaken taken (q :: os) p o ↔ p = q ∧ o = other := by
  have hmem : methodName q ∈ taken.map (·.1) := Assoc.has_iff_mem.mp (by rw [Assoc.has, ht]; rfl)
  constructor
  · rintro ⟨before, after, hos, hnew, -, hget⟩
    cases before with
    | nil =>
      cases hos
      rw [Assoc.get?_append, ht] at hget
      cases hget
      exact ⟨rfl, rfl⟩
    | cons r before =>
      cases hos
      exact absurd hmem (hnew q List.mem_cons_self)
  · rintro ⟨rfl, rfl⟩
    refine ⟨[], os, rfl, by simp, by simp, ?_⟩
    rw [Assoc.get?_append, ht]
    rfl

theorem append_named_cons (before : List SdkOperation) :
    taken ++ [(methodName q, q)] ++ named before = taken ++ named (q :: before) := by
  rw [List.append_assoc]
  rfl

/-- If the name of the first operation is free, it is taken for those that follow. -/
theorem firstTaken_cons_of_free (ht : Assoc.get? (methodName q) taken = none) :
    FirstTaken taken (q :: os) p o ↔ FirstTaken (taken ++ [(methodName q, q)]) os p o := by
  have hfree := not_mem_keys_of_get? ht
  constructor
  · rintro ⟨before, after, hos, hnew, hnodup, hget⟩
    cases before with
    | nil =>
      cases hos
      rw [Assoc.get?_append, ht] at hget
      cases hget
    | cons r before =>
      cases hos
      rw [List.map_cons, List.nodup_cons] at hnodup
      refine ⟨before, after, rfl, fun r hr hm => ?_, hnodup.2, ?_⟩
      · rw [List.map_append, List.mem_append] at hm
        rcases hm with hm | hm
        · exact hnew r (List.mem_cons_of_mem _ hr) hm
        · have hname : methodName r = methodName q := by simpa using hm
          exact hnodup.1 (List.mem_map.mpr ⟨r, hr, hname⟩)
      · rw [append_named_cons]
        exact hget
  · rintro ⟨before, after, rfl, hnew, hnodup, hget⟩
    rw [append_named_cons] at hget
    refine ⟨q :: before, after, rfl, fun r hr => ?_, ?_, hget⟩
    · rcases List.mem_cons.mp hr with rfl | hr
      · exact hfree
      · exact fun hm => hnew r hr (by rw [List.map_append]; exact List.mem_append_left _ hm)
    · rw [List.map_cons, List.nodup_cons]
      refine ⟨fun hm => ?_, hnodup⟩
      obtain ⟨r, hr, hname⟩ := List.mem_map.mp hm
      exact hnew r hr (by simp [hname])

/-- Among the operations of a scope the first one whose name is taken is the later one of
the first clash. -/
theorem firstTaken_filter_iff : FirstTaken [] (os.filter (accepts key?)) p o ↔
    ∃ i j, FirstClash os key? i j o p := by
  constructor
  · rintro ⟨before, after, hsplit, -, hnodup, hget⟩
    obtain ⟨before', after', rfl, rfl, hafter⟩ := List.filter_eq_append_iff.mp hsplit
    obtain ⟨skipped, after'', rfl, hskipped, hp, rfl⟩ := List.filter_eq_cons_iff.mp hafter
    have hnone : skipped.filter (accepts key?) = [] := List.filter_eq_nil_iff.mpr hskipped
    obtain ⟨ho, hname⟩ := (get?_named hnodup).mp hget
    obtain ⟨ho, haccepts⟩ := List.mem_filter.mp ho
    obtain ⟨i, hi⟩ := List.mem_iff_getElem?.mp ho
    refine ⟨i, _, firstClash_iff_split.mpr ⟨before' ++ skipped, after'', ?_, rfl, hp, ?_, ?_,
      haccepts, hname⟩⟩
    · rw [List.append_assoc]
    · rw [List.filter_append, hnone, List.append_nil]
      exact hnodup
    · rw [List.getElem?_append_left (List.getElem?_eq_some_iff.mp hi).1, hi]
  · rintro ⟨i, j, hfirst⟩
    obtain ⟨before, after, rfl, -, hp, hnodup, ho, haccepts, hname⟩ :=
      firstClash_iff_split.mp hfirst
    refine ⟨before.filter (accepts key?), after.filter (accepts key?), ?_, by simp, hnodup, ?_⟩
    · rw [List.filter_append, List.filter_cons_of_pos hp]
    · exact (get?_named hnodup).mpr ⟨List.mem_filter.mpr ⟨List.mem_of_getElem? ho, haccepts⟩, hname⟩

end FirstTaken

/-- Where the first method has a free name and can be built, methods fail as those after
it do. -/
theorem members_cons_outcome_eq_error {s : Scope} {names : List String} {e : BuildError}
    {taken : List (String × SdkOperation)} {q : SdkOperation} {f : Code.FunctionDef}
    (ht : Assoc.get? (methodName q) taken = none)
    (hf : (s.conventions.method q (innerName names (methodName q))).outcome = .ok f) :
    (s.members names taken (q :: os)).outcome = .error e ↔
      (s.members names (taken ++ [(methodName q, q)]) os).outcome = .error e := by
  rw [members]
  simp only [ht]
  rw [Emit.bind_of_ok hf, Emit.bind_outcome_eq_error]
  constructor
  · rintro (h | ⟨_, _, h⟩)
    · exact h
    · cases h
  · exact Or.inl

/-- **The methods of a scope fail** with the first operation whose method has a name
that is taken, where each method by itself can be built. -/
theorem members_outcome_eq_error {s : Scope} {names : List String} {e : BuildError}
    (hmethod : ∀ o name, ∃ f, (s.conventions.method o name).outcome = .ok f) :
    ∀ {os : List SdkOperation} {taken : List (String × SdkOperation)},
      (s.members names taken os).outcome = .error e ↔ ∃ p o, FirstTaken taken os p o ∧
        e = .clash o.name p.name (methodName p) s.functionName
  | [], taken => by
    simp [members, Emit.pure_eq, not_firstTaken_nil]
  | q :: os, taken => by
    cases ht : Assoc.get? (methodName q) taken with
    | some other =>
      have hfails : (s.members names taken (q :: os)).outcome =
          .error (.clash other.name q.name (methodName q) s.functionName) := by
        rw [members]
        simp only [ht]
        rfl
      simp only [hfails, firstTaken_cons_of_taken ht, Except.error.injEq]
      constructor
      · rintro rfl
        exact ⟨q, other, ⟨rfl, rfl⟩, rfl⟩
      · rintro ⟨p, o, ⟨rfl, rfl⟩, rfl⟩
        rfl
    | none =>
      obtain ⟨f, hf⟩ := hmethod q (innerName names (methodName q))
      rw [members_cons_outcome_eq_error ht hf, members_outcome_eq_error hmethod]
      simp only [firstTaken_cons_of_free ht]

end Scope

/-! ### The default configuration -/

section Default

variable {scalars : ScalarRegistry} {e : BuildError}

theorem present_eq_some {name : Option String} {key : String} (h : present name = some key) :
    present (some key) = some key :=
  Option.filter_eq_some_iff.mpr ⟨rfl, (Option.filter_eq_some_iff.mp h).2⟩

/-- The default templates can always be filled. -/
theorem fills_of_default (o : SdkOperation) : ({} : Config).Fills o where
  omitType := ⟨_, omitTypeName_of_default rfl _ _⟩
  chainResult := fun _ _ => ⟨_, chainResultName_of_default rfl _⟩
  apiFunction := fun _ hkey => ⟨_, apiFunctionName_of_default rfl (present_eq_some hkey)⟩
  apiType := fun _ hkey => ⟨_, apiTypeName_of_default rfl (present_eq_some hkey)⟩

/-- Each method can be built by itself. -/
theorem exists_method_of_default (o : SdkOperation) (name : String) :
    ∃ f, (Conventions.method ⟨{}, scalars⟩ o name).outcome = .ok f :=
  Conventions.exists_method_of_fills (fills_of_default o) name

/-- Each scope has names for its API. -/
theorem exists_names_of_default (h : key? ∈ none :: (chainKeys os).map some) :
    ∃ functionName typeName, ({} : Config).apiFunctionName key? = .ok functionName ∧
      ({} : Config).apiTypeName key? = .ok typeName := by
  rcases List.mem_cons.mp h with rfl | h
  · exact ⟨_, _, rfl, rfl⟩
  · obtain ⟨key, hkey, rfl⟩ := List.mem_map.mp h
    have hpresent := present_of_mem_chainKeys hkey
    exact ⟨_, _, apiFunctionName_of_default rfl hpresent, apiTypeName_of_default rfl hpresent⟩

/-- All results can be declared, so settling what was built does not fail. -/
theorem settle_buildApis_of_default (d : Declared) (os : List SdkOperation) :
    ((buildApis ⟨{}, scalars⟩ os).settle d).outcome = (buildApis ⟨{}, scalars⟩ os).outcome := by
  have hresults : ∀ name declaration,
      .result name declaration ∈ (buildApis ⟨{}, scalars⟩ os).effects →
        ∃ c, declaration = .ok c := by
    intro name declaration hm
    obtain ⟨o, -, key, hkey, -, rfl⟩ := leaves_buildApis ⟨{}, scalars⟩ os _ hm
    have htype := apiTypeName_of_default (c := {}) rfl (present_eq_some hkey)
    unfold Conventions.resultDeclaration
    rw [htype]
    exact ⟨_, rfl⟩
  exact (Emit.settle_of_results hresults d).1

/-! ### The first scope with a clash -/

theorem buildApi_ok_iff (hkey : key? ∈ none :: (chainKeys os).map some) :
    (∃ a, (buildApi ⟨{}, scalars⟩ os key?).outcome = .ok a) ↔
      ∀ i j o p, ¬Clash os key? i j o p := by
  rw [← methodNames_nodup_iff]
  constructor
  · rintro ⟨a, ha⟩
    have hnodup := methodNames_nodup ha
    rwa [buildApi_operations ha] at hnodup
  · intro hnodup
    obtain ⟨functionName, typeName, hf, ht⟩ := exists_names_of_default hkey
    let scope := Scope.collected ⟨{}, scalars⟩ os key? functionName typeName
    have hms : ∃ ms, (scope.members scope.paramNames []
        (os.filter (Scope.accepts key?))).outcome = .ok ms := by
      have hall : ∀ o ∈ os.filter (Scope.accepts key?), ∃ m : Scope.Member, m.name = methodName o ∧
          m.operation = o ∧ (Conventions.method ⟨{}, scalars⟩ o
            (Scope.innerName scope.paramNames (methodName o))).outcome = .ok m.function := by
        intro o _
        have hmethod : ∃ f, (Conventions.method ⟨{}, scalars⟩ o
            (Scope.innerName scope.paramNames (methodName o))).outcome = .ok f :=
          exists_method_of_default o _
        obtain ⟨f, hf⟩ := hmethod
        exact ⟨⟨methodName o, o, f⟩, rfl, rfl, hf⟩
      obtain ⟨ms, hms⟩ := exists_forall₂ hall
      exact ⟨ms, Scope.members_outcome_eq_ok.mpr ⟨by simp, hnodup, hms⟩⟩
    obtain ⟨ms, hms⟩ := hms
    exact ⟨_, buildApi_outcome_eq_ok.mpr ⟨functionName, typeName, ms, hf, ht, hms, rfl⟩⟩

/-- **One scope** fails with its first clash. -/
theorem buildApi_outcome_eq_error (hkey : key? ∈ none :: (chainKeys os).map some) :
    (buildApi ⟨{}, scalars⟩ os key?).outcome = .error e ↔ ∃ i j o p functionName,
      FirstClash os key? i j o p ∧ ({} : Config).apiFunctionName key? = .ok functionName ∧
      e = .clash o.name p.name (methodName p) functionName := by
  obtain ⟨functionName, typeName, hf, ht⟩ := exists_names_of_default hkey
  let scope := Scope.collected ⟨{}, scalars⟩ os key? functionName typeName
  have hempty : (Scope.empty ⟨{}, scalars⟩ key?).outcome =
      .ok ⟨⟨{}, scalars⟩, key?, functionName, typeName, []⟩ :=
    Scope.empty_outcome_eq_ok.mpr ⟨functionName, typeName, hf, ht, rfl⟩
  have hmembers : (buildApi ⟨{}, scalars⟩ os key?).outcome = .error e ↔
      (scope.members scope.paramNames [] (os.filter (Scope.accepts key?))).outcome = .error e := by
    have hvisit : Scope.visitAll ⟨⟨{}, scalars⟩, key?, functionName, typeName, []⟩ os = scope :=
      Scope.visitAll_eq os _
    unfold buildApi
    rw [Emit.bind_of_ok hempty, hvisit]
    unfold Scope.build
    rw [Emit.tell_bind, Emit.bind_of_ok (Scope.args_outcome scope), Emit.bind_outcome_eq_error]
    constructor
    · rintro (h | ⟨_, _, h⟩)
      · exact h
      · cases h
    · exact Or.inl
  rw [hmembers, Scope.members_outcome_eq_error exists_method_of_default]
  simp only [Scope.firstTaken_filter_iff]
  constructor
  · rintro ⟨p, o, ⟨i, j, hfirst⟩, rfl⟩
    exact ⟨i, j, o, p, functionName, hfirst, hf, rfl⟩
  · rintro ⟨i, j, o, p, functionName', hfirst, hf', rfl⟩
    cases hf.symm.trans hf'
    exact ⟨p, o, ⟨i, j, hfirst⟩, rfl⟩

theorem buildApis_outcome_eq_error : (buildApis ⟨{}, scalars⟩ os).outcome = .error e ↔
    ∃ before key? after, none :: (chainKeys os).map some = before ++ key? :: after ∧
      (∀ k ∈ before, ∀ i j o p, ¬Clash os k i j o p) ∧ ∃ i j o p functionName,
      FirstClash os key? i j o p ∧ ({} : Config).apiFunctionName key? = .ok functionName ∧
      e = .clash o.name p.name (methodName p) functionName := by
  have hmem : ∀ {before after : List (Option String)} {key? : Option String},
      none :: (chainKeys os).map some = before ++ key? :: after →
      ∀ k, k ∈ before ∨ k = key? → k ∈ none :: (chainKeys os).map some := by
    intro before after key? hscopes k hk
    rw [hscopes, List.mem_append, List.mem_cons]
    tauto
  unfold buildApis
  rw [Emit.mapM_outcome_eq_error]
  constructor
  · rintro ⟨before, key?, after, hscopes, hbefore, herror⟩
    refine ⟨before, key?, after, hscopes, fun k hk => ?_, ?_⟩
    · exact (buildApi_ok_iff (hmem hscopes k (Or.inl hk))).mp (hbefore k hk)
    · exact (buildApi_outcome_eq_error (hmem hscopes key? (Or.inr rfl))).mp herror
  · rintro ⟨before, key?, after, hscopes, hbefore, herror⟩
    refine ⟨before, key?, after, hscopes, fun k hk => ?_, ?_⟩
    · exact (buildApi_ok_iff (hmem hscopes k (Or.inl hk))).mpr (hbefore k hk)
    · exact (buildApi_outcome_eq_error (hmem hscopes key? (Or.inr rfl))).mpr herror

theorem buildApis_ok_iff : (∃ apis, (buildApis ⟨{}, scalars⟩ os).outcome = .ok apis) ↔
    ∀ key? ∈ none :: (chainKeys os).map some, ∀ i j o p, ¬Clash os key? i j o p := by
  simp only [buildApis_outcome_eq_ok]
  constructor
  · rintro ⟨apis, hall⟩ key? hkey
    exact (buildApi_ok_iff hkey).mp (exists_of_forall₂ hall hkey)
  · intro h
    exact exists_forall₂ fun key? hkey => (buildApi_ok_iff hkey).mpr (h key? hkey)

/-- Operations cannot be built exactly if two of them clash in one of the scopes. -/
theorem exists_error_iff_clash : (∃ e, (buildApis ⟨{}, scalars⟩ os).outcome = .error e) ↔
    ∃ key? ∈ none :: (chainKeys os).map some, ∃ i j o p, Clash os key? i j o p := by
  constructor
  · rintro ⟨e, he⟩
    obtain ⟨before, key?, after, hscopes, -, i, j, o, p, -, hfirst, -⟩ :=
      buildApis_outcome_eq_error.mp he
    have hkey : key? ∈ before ++ key? :: after := by simp
    rw [← hscopes] at hkey
    exact ⟨key?, hkey, i, j, o, p, hfirst.toClash⟩
  · rintro ⟨key?, hkey, i, j, o, p, hclash⟩
    cases houtcome : (buildApis ⟨{}, scalars⟩ os).outcome with
    | error e => exact ⟨e, rfl⟩
    | ok apis => exact absurd hclash (buildApis_ok_iff.mp ⟨apis, houtcome⟩ key? hkey i j o p)

/-- The protocol of an API has the names of the methods of its operations, in
order. -/
theorem protocolNames_of_buildApi {s : Conventions} {a : ScopedApi}
    (h : (buildApi s os key?).outcome = .ok a) :
    a.protocol.methods.map (·.name) = a.operations.map methodName := by
  obtain ⟨ms, hms, -, -, hmethods⟩ := members_of_buildApi h
  rw [hmethods, List.map_map]
  exact (map_eq_of_forall₂ (fun _ _ hm => hm.1.symm) hms).symm

/-- **Clashes are found, and nothing else.** Under the default configuration,
whatever is declared already, operations cannot be built exactly if two of them
clash in one of the scopes. The error is that of the first clash of the first scope
that has one; it names the two operations, of which the earlier is the only one that
clashes with the later. A generator reports it in the same words. Otherwise the
protocol of each scope has the method names of the operations of the scope, in
order, and they differ. -/
theorem buildApis_clash_iff (d : Declared) (os : List SdkOperation) :
    let scopes := none :: (chainKeys os).map some
    let built := ((buildApis ⟨{}, d.scalars⟩ os).settle d).outcome
    ((∃ e, built = .error e) ↔ ∃ key? ∈ scopes, ∃ i j o p, Clash os key? i j o p) ∧
    (∀ e, built = .error e ↔ ∃ before key? after, scopes = before ++ key? :: after ∧
      (∀ k ∈ before, ∀ i j o p, ¬Clash os k i j o p) ∧ ∃ i j o p functionName,
      FirstClash os key? i j o p ∧ ({} : Config).apiFunctionName key? = .ok functionName ∧
      e = .clash o.name p.name (methodName p) functionName) ∧
    (∀ key? i j o p, FirstClash os key? i j o p →
      ∀ i' o', Clash os key? i' j o' p → i' = i ∧ o' = o) ∧
    (∀ g : Generator, g.config = {} → g.declared = d → ∀ e, built = .error e →
      ∃ fault, (g.build os).1 = .error fault ∧ fault.message = e.message) ∧
    ∀ apis, built = .ok apis → apis.map (·.key?) = scopes ∧ ∀ a ∈ apis,
      a.operations = os.filter (Scope.accepts a.key?) ∧
      a.protocol.methods.map (·.name) = a.operations.map methodName ∧
      (a.protocol.methods.map (·.name)).Nodup := by
  intro scopes built
  have hbuilt : built = (buildApis ⟨{}, d.scalars⟩ os).outcome := settle_buildApis_of_default d os
  refine ⟨?_, fun e => ?_, fun key? i j o p h i' o' h' => h.eq_of_clash h', ?_, ?_⟩
  · rw [hbuilt]
    exact exists_error_iff_clash
  · rw [hbuilt]
    exact buildApis_outcome_eq_error
  · rintro g hconfig rfl e he
    refine ⟨.build e, ?_, rfl⟩
    have hbuild : (g.build os).1 = ((buildApis ⟨g.config, g.declared.scalars⟩ os).settle
        g.declared).outcome.mapError .build := rfl
    rw [hbuild, hconfig]
    have hsettled : ((buildApis ⟨{}, g.declared.scalars⟩ os).settle g.declared).outcome = .error e :=
      he
    rw [hsettled]
    rfl
  · intro apis hapis
    rw [hbuilt] at hapis
    refine ⟨keys_of_buildApis hapis, fun a ha => ?_⟩
    have hapi := buildApi_of_mem hapis ha
    have hnames := protocolNames_of_buildApi hapi
    refine ⟨buildApi_operations hapi, hnames, ?_⟩
    rw [hnames]
    exact methodNames_nodup hapi

end Default

namespace GraphQL

/-- A parent with a variable beside its id. -/
def Operation.sampleParent (selections : List Selection) : Operation :=
  ⟨.query, some "team", [.sampleId, ⟨"since", .named "DateTime", none, []⟩], [],
    [.field none "team" [] [] selections]⟩

/-- A document with a parent and two operations of the root that have one method
name. -/
def Document.clashing : Document :=
  ⟨[.operation (.sampleParent []),
    .operation ⟨.query, some "viewer", [], [], [.field none "viewer" [] [] []]⟩,
    .operation ⟨.query, some "Viewer", [], [], [.field none "viewer" [] [] []]⟩]⟩

end GraphQL

/-- Why there is no outcome. -/
def fault? {ε α : Type} : Except ε α → Option ε
  | .error e => some e
  | .ok _ => none

theorem eq_error_of_fault? {ε α : Type} {x : Except ε α} {e : ε} (h : fault? x = some e) :
    x = .error e := by
  cases x with
  | error e' =>
    cases h
    rfl
  | ok a => cases h

open GraphQL in
/-- Two operations of the root whose names differ in the case of a letter clash, and
the error names them. -/
theorem sample_clash : ∃ os before key? after i j o p,
    (classifyAll {} Document.clashing).mapM (describe {}) = .ok os ∧
    ((buildApis ⟨{}, .withAliases []⟩ os).settle { scalars := .withAliases [] }).outcome =
      .error (.clash "viewer" "Viewer" "viewer" "create_raw_sdk") ∧
    none :: (chainKeys os).map some = before ++ key? :: after ∧
    FirstClash os key? i j o p ∧ o.name = "viewer" ∧ p.name = "Viewer" := by
  have hrun : (((classifyAll {} Document.clashing).mapM (describe {})).toOption.any fun os =>
      fault? ((buildApis ⟨{}, .withAliases []⟩ os).settle { scalars := .withAliases [] }).outcome =
        some (.clash "viewer" "Viewer" "viewer" "create_raw_sdk")) = true := by decide +kernel
  obtain ⟨os, hos, hrun⟩ := (Option.any_eq_true _ _).mp hrun
  have hfails := eq_error_of_fault? (of_decide_eq_true hrun)
  obtain ⟨-, herror, -⟩ := buildApis_clash_iff { scalars := .withAliases [] } os
  obtain ⟨before, key?, after, hscopes, -, i, j, o, p, functionName, hfirst, -, hnamed⟩ :=
    (herror _).mp hfails
  obtain ⟨ho, hp, -, -⟩ := BuildError.clash.inj hnamed
  exact ⟨os, before, key?, after, i, j, o, p, eq_ok_of_toOption hos, hfails, hscopes, hfirst,
    ho.symm, hp.symm⟩

end ChainedSdk
