/-
# Scopes do not interfere

The API of a scope is built from the operations that belong to the scope, from
the configuration and from what scalars are called, and from nothing else. The
other operations, and the order in which they are mixed with those of the scope,
decide which scopes there are and what is declared, but they do not show in the
API (`buildApi_congr`). Nor does it show what was declared before and which
scalars were used: building does not look back (`buildApis_withUsed`), and what
it leaves behind answers as before (`Emit.settle_sameAnswers`). So two builds
that give a scope the same operations give it the same API
(`buildApis_noninterference`).

Leaving out operations never makes a build fail (`exists_buildApis_of_sublist`):
fewer methods cannot clash, and no new name has to be made. So where a hook
drops a parent, the API of its key is built from the children that remain, as it
was before.

Key definitions: `ScalarRegistry.SameAnswers`.
Key theorems: `buildApi_congr`, `exists_buildApis_of_sublist`,
`buildApis_noninterference`.
-/
import ChainedSdk.Proofs.Building

namespace ChainedSdk

/-! ### Registries that answer alike -/

namespace ScalarRegistry

/-- The registries have the same aliases and handlers. They may differ in the
scalars that were used. -/
structure SameAnswers (r q : ScalarRegistry) : Prop where
  aliases : q.aliases = r.aliases
  handlers : q.handlers = r.handlers

variable {r q : ScalarRegistry}

theorem SameAnswers.trans {p : ScalarRegistry} (h : r.SameAnswers q) (h' : q.SameAnswers p) :
    r.SameAnswers p :=
  ⟨h'.aliases.trans h.aliases, h'.handlers.trans h.handlers⟩

theorem sameAnswers_markUsed (r : ScalarRegistry) (name : String) :
    r.SameAnswers (r.markUsed name) := by
  unfold markUsed
  split
  · exact ⟨rfl, rfl⟩
  · exact ⟨rfl, rfl⟩

end ScalarRegistry

theorem Declared.sameAnswers_of_absorb {ε : Type} {d d' : Declared} {e : Effect ε}
    (h : d.absorb e = .ok d') : d.scalars.SameAnswers d'.scalars := by
  cases e with
  | log r =>
    cases h
    exact ⟨rfl, rfl⟩
  | scalar name =>
    cases h
    exact d.scalars.sameAnswers_markUsed name
  | record c =>
    cases h
    exact ⟨rfl, rfl⟩
  | result name declaration =>
    simp only [absorb] at h
    split at h
    · cases h
      exact ⟨rfl, rfl⟩
    · cases declaration with
      | error fault => cases h
      | ok c =>
        cases h
        exact ⟨rfl, rfl⟩

/-- **No computation registers anything.** Scalars are answered after it as they
were before, whether it succeeds or fails. -/
theorem Emit.settle_sameAnswers {ε α : Type} (x : Emit ε α) (d : Declared) :
    d.scalars.SameAnswers (x.settle d).declared.scalars := by
  have hfrom : ∀ (es : List (Effect ε)) (d : Declared) (log : List LogRecord),
      d.scalars.SameAnswers (settleFrom x.outcome d log es).declared.scalars := by
    intro es
    induction es with
    | nil => exact fun d log => ⟨rfl, rfl⟩
    | cons e es ih =>
      intro d log
      unfold settleFrom
      cases hd : d.absorb e with
      | error fault => exact ⟨rfl, rfl⟩
      | ok d' =>
        have hstep := Declared.sameAnswers_of_absorb hd
        cases e <;> exact hstep.trans (ih d' _)
  exact hfrom x.effects d []

/-- Conventions whose registries answer alike differ in the scalars that were used. -/
theorem ScalarRegistry.SameAnswers.withUsed {c : Config} {r q : ScalarRegistry}
    (h : r.SameAnswers q) : (⟨c, q⟩ : Conventions) = (⟨c, r⟩ : Conventions).withUsed q.used := by
  obtain ⟨haliases, hhandlers⟩ := h
  cases q
  cases haliases
  cases hhandlers
  rfl

/-- APIs do not depend on the scalars that were used. -/
theorem buildApis_sameAnswers {c : Config} {r q : ScalarRegistry} (h : r.SameAnswers q)
    (os : List SdkOperation) : buildApis ⟨c, q⟩ os = buildApis ⟨c, r⟩ os := by
  rw [h.withUsed, buildApis_withUsed]

/-! ### Operations of other scopes -/

variable {s : Conventions} {os ps : List SdkOperation}

/-- **One API** is built from the operations that belong to its scope. -/
theorem buildApi_congr {key? : Option String}
    (h : os.filter (Scope.accepts key?) = ps.filter (Scope.accepts key?)) :
    buildApi s os key? = buildApi s ps key? := by
  have hvisit : ∀ functionName typeName,
      Scope.visitAll ⟨s, key?, functionName, typeName, []⟩ os =
        Scope.visitAll ⟨s, key?, functionName, typeName, []⟩ ps := by
    intro functionName typeName
    rw [Scope.visitAll_eq, Scope.visitAll_eq, h]
  unfold buildApi Scope.empty
  simp only [bind_assoc, pure_bind, hvisit]

/-! ### Operations that are left out -/

theorem exists_forall₂ {α β : Type} {R : α → β → Prop} : ∀ {xs : List α},
    (∀ x ∈ xs, ∃ y, R x y) → ∃ ys, List.Forall₂ R xs ys
  | [], _ => ⟨[], .nil⟩
  | x :: xs, h => by
    obtain ⟨y, hy⟩ := h x List.mem_cons_self
    obtain ⟨ys, hys⟩ := exists_forall₂ fun x hx => h x (List.mem_cons_of_mem _ hx)
    exact ⟨y :: ys, .cons hy hys⟩

theorem exists_buildApi_of_sublist (hsub : ps.Sublist os) {key? : Option String} {a : ScopedApi}
    (h : (buildApi s os key?).outcome = .ok a) : ∃ b, (buildApi s ps key?).outcome = .ok b := by
  obtain ⟨functionName, typeName, ms, hfunction, htype, hms, -⟩ := buildApi_outcome_eq_ok.mp h
  obtain ⟨-, hnodup, hall⟩ := Scope.members_outcome_eq_ok.mp hms
  have hkept := hsub.filter (Scope.accepts key?)
  -- the members of an API differ from each other and can be built each by itself
  obtain ⟨ks, hks⟩ := exists_forall₂ fun o ho => exists_of_forall₂ hall (hkept.subset ho)
  exact ⟨_, buildApi_outcome_eq_ok.mpr ⟨functionName, typeName, ks, hfunction, htype,
    Scope.members_outcome_eq_ok.mpr ⟨by simp, hnodup.sublist (hkept.map methodName), hks⟩, rfl⟩⟩

/-- Every scope of the operations that are left is one of all operations. -/
theorem scopes_subset (hsub : ps.Sublist os) {key? : Option String}
    (h : key? ∈ none :: (chainKeys ps).map some) : key? ∈ none :: (chainKeys os).map some := by
  rcases List.mem_cons.mp h with rfl | h
  · exact List.mem_cons_self
  · obtain ⟨key, hkey, rfl⟩ := List.mem_map.mp h
    obtain ⟨o, ho, hok⟩ := mem_chainKeys.mp hkey
    have hkey : key ∈ chainKeys os := mem_chainKeys.mpr ⟨o, hsub.subset ho, hok⟩
    exact List.mem_cons_of_mem _ (List.mem_map.mpr ⟨key, hkey, rfl⟩)

/-- **Leaving out operations** never makes a build fail. -/
theorem exists_buildApis_of_sublist (hsub : ps.Sublist os) {apis : List ScopedApi}
    (h : (buildApis s os).outcome = .ok apis) : ∃ kept, (buildApis s ps).outcome = .ok kept := by
  have hall := buildApis_outcome_eq_ok.mp h
  obtain ⟨kept, hkept⟩ := exists_forall₂ fun key? hk =>
    have ⟨_, ha⟩ := exists_of_forall₂ hall (scopes_subset hsub hk)
    exists_buildApi_of_sublist hsub ha
  exact ⟨kept, buildApis_outcome_eq_ok.mpr hkept⟩

/-! ### Two builds -/

section Builds

variable {c : Config} {d e : Declared} {apis others : List ScopedApi}

theorem eq_of_accepted_eq (hreg : d.scalars.SameAnswers e.scalars)
    (h : (buildApis ⟨c, d.scalars⟩ os).outcome = .ok apis)
    (h' : (buildApis ⟨c, e.scalars⟩ ps).outcome = .ok others) {a b : ScopedApi} (ha : a ∈ apis)
    (hb : b ∈ others) (hk : a.key? = b.key?)
    (hsame : os.filter (Scope.accepts a.key?) = ps.filter (Scope.accepts a.key?)) : a = b := by
  rw [buildApis_sameAnswers hreg] at h'
  have hba := buildApi_of_mem h ha
  have hbb := buildApi_of_mem h' hb
  rw [← hk, ← buildApi_congr hsame, hba] at hbb
  exact Except.ok.inj hbb

/-- Where some operations are left out but the API of a key keeps its children, of
which there is one at least, that API is built as before. -/
theorem exists_mem_of_sublist (hreg : d.scalars.SameAnswers e.scalars)
    (h : (buildApis ⟨c, d.scalars⟩ os).outcome = .ok apis) (hsub : ps.Sublist os) {key : String}
    (hsame : ps.filter (Scope.accepts (some key)) = os.filter (Scope.accepts (some key)))
    (hchild : ∃ p ∈ ps, p.role = .child key) {a : ScopedApi} (ha : a ∈ apis)
    (hk : a.key? = some key) :
    ∃ kept, ((buildApis ⟨c, e.scalars⟩ ps).settle e).outcome = .ok kept ∧ a ∈ kept := by
  obtain ⟨kept, hkept⟩ := exists_buildApis_of_sublist hsub h
  rw [← buildApis_sameAnswers hreg] at hkept
  refine ⟨kept, (settle_buildApis hkept e).1, ?_⟩
  have hkey : key ∈ chainKeys ps := by
    -- the key of an API is not empty, so the child brings it along
    obtain ⟨p, hp, hr⟩ := hchild
    refine mem_chainKeys.mpr ⟨p, hp, ?_⟩
    rw [hr]
    exact present_of_mem_chainKeys (mem_chainKeys_of_mem h ha hk)
  obtain ⟨b, hb, hbk⟩ :=
    exists_api hkept (List.mem_cons_of_mem _ (List.mem_map.mpr ⟨key, hkey, rfl⟩))
  have hab : a = b := by
    refine eq_of_accepted_eq hreg h hkept ha hb (hk.trans hbk.symm) ?_
    rw [hk, hsame]
  exact hab ▸ hb

/-- **Scopes do not interfere.** Two builds under one configuration, where scalars
are answered alike, give a scope the same API if they give it the same
operations, whatever the other operations are, and whatever was declared and
used before. An API stays as it is where operations that are not its own are left
out and one of its own remains; so it does where a parent of its key is
dropped. -/
theorem buildApis_noninterference (hreg : d.scalars.SameAnswers e.scalars)
    (h : ((buildApis ⟨c, d.scalars⟩ os).settle d).outcome = .ok apis) :
    (∀ ps others, ((buildApis ⟨c, e.scalars⟩ ps).settle e).outcome = .ok others →
      ∀ a ∈ apis, ∀ b ∈ others, a.key? = b.key? →
        os.filter (Scope.accepts a.key?) = ps.filter (Scope.accepts a.key?) → a = b) ∧
    (∀ ps : List SdkOperation, ps.Sublist os → ∀ a ∈ apis, ∀ key, a.key? = some key →
      ps.filter (Scope.accepts (some key)) = os.filter (Scope.accepts (some key)) →
      (∃ p ∈ ps, p.role = .child key) →
      ∃ kept, ((buildApis ⟨c, e.scalars⟩ ps).settle e).outcome = .ok kept ∧ a ∈ kept) ∧
    (∀ before o after key, os = before ++ o :: after → o.role = .parent key →
      (∃ p ∈ before ++ after, p.role = .child key) → ∀ a ∈ apis, a.key? = some key →
      ∃ kept, ((buildApis ⟨c, e.scalars⟩ (before ++ after)).settle e).outcome = .ok kept ∧
        a ∈ kept) := by
  obtain ⟨hbuilt, -⟩ := Emit.settle_outcome_eq_ok.mp h
  refine ⟨?_, ?_, ?_⟩
  · intro ps others h' a ha b hb hk hsame
    obtain ⟨hother, -⟩ := Emit.settle_outcome_eq_ok.mp h'
    exact eq_of_accepted_eq hreg hbuilt hother ha hb hk hsame
  · intro ps hsub a ha key hk hsame hchild
    exact exists_mem_of_sublist hreg hbuilt hsub hsame hchild ha hk
  · rintro before o after key rfl hr hchild a ha hk
    have hsub : (before ++ after).Sublist (before ++ o :: after) :=
      (List.Sublist.refl before).append (List.sublist_cons_self o after)
    have hparent : Scope.accepts (some key) o = false := by simp [Scope.accepts, hr]
    refine exists_mem_of_sublist hreg hbuilt hsub ?_ hchild ha hk
    rw [List.filter_append, List.filter_append, List.filter_cons_of_neg (by simp [hparent])]

end Builds

open GraphQL in
/-- After the sample was built, it is built again without its parent: the API of
the parent's key is the same. -/
theorem sample_noninterference : ∃ os apis kept a,
    (classifyAll {} Document.sample).mapM (describe {}) = .ok os ∧
    ((buildApis ⟨{}, .withAliases []⟩ os).settle { scalars := .withAliases [] }).outcome = .ok apis ∧
    let left := ((buildApis ⟨{}, .withAliases []⟩ os).settle { scalars := .withAliases [] }).declared
    left.results.map (·.1) = ["TeamQueryResult"] ∧
    ((buildApis ⟨{}, left.scalars⟩ (os.drop 1)).settle left).outcome = .ok kept ∧
    a ∈ apis ∧ a ∈ kept ∧ a.key? = some "team" ∧ a.operations.map (·.name) = ["TeamIssues"] := by
  have hrun : (((classifyAll {} Document.sample).mapM (describe {})).toOption.any fun os =>
      let built := (buildApis ⟨{}, .withAliases []⟩ os).settle { scalars := .withAliases [] }
      decide (os.map (·.role) = [.parent "team", .root, .child "team", .root]) &&
      (decide (built.declared.results.map (·.1) = ["TeamQueryResult"]) &&
      built.outcome.toOption.any fun apis => apis.any fun a =>
        a.key? = some "team" && a.operations.map (·.name) = ["TeamIssues"])) = true := by
    decide +kernel
  obtain ⟨os, hos, hrun⟩ := (Option.any_eq_true _ _).mp hrun
  simp only [Bool.and_eq_true, decide_eq_true_eq] at hrun
  obtain ⟨hroles, hresults, hbuilt⟩ := hrun
  obtain ⟨apis, hapis, hrun⟩ := (Option.any_eq_true _ _).mp hbuilt
  obtain ⟨a, ha, hrun⟩ := List.any_eq_true.mp hrun
  simp only [Bool.and_eq_true, decide_eq_true_eq] at hrun
  obtain ⟨hkey, hnames⟩ := hrun
  obtain ⟨o, rest, rfl⟩ : ∃ o rest, os = o :: rest := by
    cases os with
    | nil => simp at hroles
    | cons o rest => exact ⟨o, rest, rfl⟩
  obtain ⟨hparent, hrest⟩ := List.cons.inj hroles
  have hchild : ∃ p ∈ [] ++ rest, p.role = .child "team" := by
    have hm : Role.child "team" ∈ rest.map (·.role) := by
      rw [hrest]
      simp
    exact List.mem_map.mp hm
  obtain ⟨-, -, hdropped⟩ := buildApis_noninterference (c := {})
    (Emit.settle_sameAnswers (buildApis ⟨{}, .withAliases []⟩ (o :: rest))
      { scalars := .withAliases [] }) (eq_ok_of_toOption hapis)
  obtain ⟨kept, hkept, hak⟩ := hdropped [] o rest "team" rfl hparent hchild a ha hkey
  exact ⟨_, apis, kept, a, eq_ok_of_toOption hos, eq_ok_of_toOption hapis, hresults, hkept, ha, hak,
    hkey, hnames⟩

end ChainedSdk
