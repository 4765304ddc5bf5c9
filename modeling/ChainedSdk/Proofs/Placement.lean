/-
# Every operation is placed in one API

The APIs of a document are that of the root and one for each chain key, in the
order in which the keys come first (`keys_of_buildApis`). A child is in the API
of its key and in no other, and all other operations are in that of the root,
so that the APIs are the blocks of a partition of the document
(`buildApis_partition`): nothing is lost, nothing is doubled, and the order of
the document is kept in each of them.

Three passes have to agree for this. Classification gives the keys of children
and parents alike, the keys are collected from what it gave, and every scope
looks through all operations again. They agree since each scope is the fibre of
its key under one function of an operation, its child key, and all values of
that function are among the keys collected.

What the loader returns is a document as the theorem asks for
(`partition_of_loadDocuments`).

Key theorems: `flatMap_filter_perm`, `buildApis_partition`,
`partition_of_loadDocuments`.
-/
import ChainedSdk.Proofs.Assembly
import ChainedSdk.Proofs.Parsing

namespace ChainedSdk

/-- The fibres of a function on a list, one after the other, are the list in
another order, if every value has its place among the keys. -/
theorem flatMap_filter_perm {α κ : Type} [DecidableEq κ] {owner : α → κ} {keys : List κ}
    (hn : keys.Nodup) : ∀ {xs : List α}, (∀ x ∈ xs, owner x ∈ keys) →
      (keys.flatMap fun k => xs.filter fun x => owner x = k).Perm xs
  | [], _ => by simp
  | x :: xs, h => by
    have ih := flatMap_filter_perm hn fun y hy => h y (List.mem_cons_of_mem _ hy)
    obtain ⟨before, after, hk⟩ := List.append_of_mem (h x List.mem_cons_self)
    rw [hk] at hn ih ⊢
    have hmid := List.nodup_middle.mp hn
    have hskip : ∀ ks : List κ, owner x ∉ ks →
        (ks.flatMap fun k => (x :: xs).filter fun y => owner y = k) =
          ks.flatMap fun k => xs.filter fun y => owner y = k := by
      intro ks hks
      refine List.flatMap_congr fun k hkm => ?_
      have hne : ¬owner x = k := fun e => hks (e ▸ hkm)
      simp [hne]
    have hbefore : owner x ∉ before := fun hm =>
      (List.nodup_cons.mp hmid).1 (List.mem_append_left _ hm)
    have hafter : owner x ∉ after := fun hm =>
      (List.nodup_cons.mp hmid).1 (List.mem_append_right _ hm)
    rw [List.flatMap_append, List.flatMap_cons] at ih ⊢
    rw [hskip before hbefore, hskip after hafter]
    have hhead : ((x :: xs).filter fun y => owner y = owner x) =
        x :: xs.filter fun y => owner y = owner x := by simp
    rw [hhead, List.cons_append]
    exact List.perm_middle.trans (ih.cons x)

section Placement

variable {c : Config} {d : GraphQL.Document} {os : List SdkOperation}

/-- The chain keys of described operations are those of their definitions. -/
theorem chainKeys_of_described (hos : ∀ o ∈ os, Described c o) :
    chainKeys os = ((os.map (·.definition)).filterMap (·.chainKey? c)).eraseDups := by
  rw [chainKeys_eq_eraseDups, List.filterMap_map]
  congr 1
  refine List.filterMap_congr fun o ho => ?_
  have h := hos o ho
  rw [h.present_key?, h.role_eq, key?_classify h.wellNamed]
  rfl

/-- A described operation belongs to the scope of a key if it is a child of
that key, and to the root if it is a child of none. -/
theorem childKey?_eq_iff {o : SdkOperation} (h : Described c o) (key? : Option String) :
    o.role.childKey? = key? ↔ match key? with
      | some key => o.definition.IsChildOf c key
      | none => ∀ key, ¬o.definition.IsChildOf c key := by
  have hchild : ∀ key, o.role.childKey? = some key ↔ o.definition.IsChildOf c key := by
    intro key
    rw [← classify_eq_child_iff h.wellNamed, ← h.role_eq]
    cases o.role <;> simp [Role.childKey?]
  cases key? with
  | some key => exact hchild key
  | none =>
    simp only [← hchild]
    cases hk : o.role.childKey? with
    | none => simp
    | some key => simp

/-- The scope of an operation is the root or one of the chain keys. -/
theorem childKey?_mem_scopes (hos : ∀ o ∈ os, Described c o) :
    ∀ o ∈ os, o.role.childKey? ∈ none :: (chainKeys os).map some := by
  intro o ho
  cases hr : o.role with
  | root => exact List.mem_cons_self
  | parent key => exact List.mem_cons_self
  | child key =>
    refine List.mem_cons_of_mem _ (List.mem_map.mpr ⟨key, mem_chainKeys.mpr ⟨o, ho, ?_⟩, rfl⟩)
    rw [(hos o ho).present_key?, hr]
    rfl

section Apis

variable {scalars : ScalarRegistry} {apis : List ScopedApi}

/-- The operations of an API are those whose child key is its key. -/
theorem operations_of_mem (h : (buildApis ⟨c, scalars⟩ os).outcome = .ok apis) {a : ScopedApi}
    (ha : a ∈ apis) : a.operations = os.filter fun o => o.role.childKey? = a.key? := by
  rw [buildApi_operations (buildApi_of_mem h ha)]
  exact List.filter_congr fun o _ => Scope.accepts_eq a.key? o

theorem existsUnique_api (hos : ∀ o ∈ os, Described c o)
    (h : (buildApis ⟨c, scalars⟩ os).outcome = .ok apis) {o : SdkOperation} (ho : o ∈ os) :
    ∃! a, a ∈ apis ∧ o ∈ a.operations := by
  obtain ⟨a, ha, hk⟩ := exists_api h (childKey?_mem_scopes hos o ho)
  refine ⟨a, ⟨ha, (mem_operations_iff h ha).mpr ⟨ho, hk.symm⟩⟩, fun b hb => ?_⟩
  have hkb := ((mem_operations_iff h hb.1).mp hb.2).2
  exact eq_of_key? h hb.1 ha (hkb.symm.trans hk.symm)

theorem flatMap_operations_perm (hos : ∀ o ∈ os, Described c o)
    (h : (buildApis ⟨c, scalars⟩ os).outcome = .ok apis) :
    (apis.flatMap (·.operations)).Perm os := by
  have hflat : apis.flatMap (·.operations) =
      (apis.map (·.key?)).flatMap fun k => os.filter fun o => o.role.childKey? = k := by
    rw [List.flatMap_map]
    exact List.flatMap_congr fun a ha => operations_of_mem h ha
  rw [hflat, keys_of_buildApis h]
  exact flatMap_filter_perm (scopes_nodup os) (childKey?_mem_scopes hos)

end Apis

/-- **Every operation is placed in one API.** Where the APIs of a document can
be built, they are those of the root and of the chain keys, each once and in the
order in which they come first; an operation is in the API of a key exactly if
it is a child of that key, and in that of the root if it is a child of none; and
the operations of the APIs are parts of the document, in its order, which
together make up the document. -/
theorem buildApis_partition (hd : d.WellNamed)
    (hos : (classifyAll c d).mapM (describe c) = .ok os) {scalars : ScalarRegistry}
    {declared : Declared} {apis : List ScopedApi}
    (h : ((buildApis ⟨c, scalars⟩ os).settle declared).outcome = .ok apis) :
    os.map (·.definition) = d.operations ∧
    apis.map (·.key?) = none :: (d.operations.filterMap (·.chainKey? c)).eraseDups.map some ∧
    (∀ a ∈ apis, ∀ o ∈ os, o ∈ a.operations ↔ match a.key? with
      | some key => o.definition.IsChildOf c key
      | none => ∀ key, ¬o.definition.IsChildOf c key) ∧
    (∀ o ∈ os, ∃! a, a ∈ apis ∧ o ∈ a.operations) ∧
    (∀ a ∈ apis, a.operations.Sublist os) ∧
    (apis.flatMap (·.operations)).Perm os := by
  obtain ⟨hbuilt, -⟩ := Emit.settle_outcome_eq_ok.mp h
  have hdesc := described_of_mem hd hos
  have hdef : os.map (·.definition) = d.operations := by
    have hmap := map_eq_of_forall₂ (f := id) (g := (·.definition)) (fun _ _ ho => ho.1.symm)
      (forall₂_described hd hos)
    rw [← hmap, List.map_id]
  refine ⟨hdef, ?_, ?_, fun o ho => existsUnique_api hdesc hbuilt ho, ?_,
    flatMap_operations_perm hdesc hbuilt⟩
  · rw [keys_of_buildApis hbuilt, chainKeys_of_described hdesc, hdef]
  · intro a ha o ho
    rw [mem_operations_iff hbuilt ha, and_iff_right ho]
    exact childKey?_eq_iff (hdesc o ho) a.key?
  · intro a ha
    rw [operations_of_mem hbuilt ha]
    exact List.filter_sublist

/-- What is loaded from files is well named, so every operation of the files is placed in
one API. -/
theorem partition_of_loadDocuments {files : List SourceFile}
    (hload : (loadDocuments files).outcome = .ok d)
    (hos : (classifyAll c d).mapM (describe c) = .ok os) {scalars : ScalarRegistry}
    {declared : Declared} {apis : List ScopedApi}
    (h : ((buildApis ⟨c, scalars⟩ os).settle declared).outcome = .ok apis) :
    (∀ o ∈ os, ∃! a, a ∈ apis ∧ o ∈ a.operations) ∧ (apis.flatMap (·.operations)).Perm os := by
  obtain ⟨hbuilt, -⟩ := Emit.settle_outcome_eq_ok.mp h
  have hdesc := described_of_mem (wellNamed_of_loadDocuments hload) hos
  exact ⟨fun o ho => existsUnique_api hdesc hbuilt ho, flatMap_operations_perm hdesc hbuilt⟩

end Placement

open GraphQL in
/-- In the sample the parent and its child are in different APIs. -/
theorem sample_partition : ∃ os apis, Document.sample.WellNamed ∧
    (classifyAll {} Document.sample).mapM (describe {}) = .ok os ∧
    ((buildApis ⟨{}, .withAliases []⟩ os).settle { scalars := .withAliases [] }).outcome = .ok apis ∧
    apis.map (·.key?) = [none, some "team"] ∧ (∀ o ∈ os, ∃! a, a ∈ apis ∧ o ∈ a.operations) ∧
    (apis.flatMap (·.operations)).Perm os := by
  have hrun : (((classifyAll {} Document.sample).mapM (describe {})).toOption.bind fun os =>
      ((buildApis ⟨{}, .withAliases []⟩ os).settle
        { scalars := .withAliases [] }).outcome.toOption).isSome = true := by decide +kernel
  obtain ⟨apis, hrun⟩ := Option.isSome_iff_exists.mp hrun
  obtain ⟨os, hos, hrun⟩ := Option.bind_eq_some_iff.mp hrun
  have hos := eq_ok_of_toOption hos
  have hapis := eq_ok_of_toOption hrun
  have hkeys : (Document.sample.operations.filterMap (·.chainKey? {})).eraseDups = ["team"] := by
    decide +kernel
  obtain ⟨-, hk, -, hone, -, hperm⟩ := buildApis_partition Document.sample_wellNamed hos hapis
  rw [hkeys] at hk
  exact ⟨os, apis, Document.sample_wellNamed, hos, hapis, hk, hone, hperm⟩

end ChainedSdk
