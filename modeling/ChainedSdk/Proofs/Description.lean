/-
# What classification and description promise

The operations of a document come with a role and with the names of what is
generated for them. The role is decided by the first field that an operation
selects: if the operation takes an id and its name is that of the field, or
starts with it ignoring case, then the field is its chain key
(`key?_classify`), and it is a child of that key if the names differ
(`classify_eq_child_iff`). Description keeps the definition and the role, and
gives a name to every operation (`describe_eq_ok`).

Key definitions: `GraphQL.Operation.WellNamed`, `GraphQL.Operation.IsChildOf`,
`GraphQL.Operation.chainKey?`, `Named`, `Described`.
Key theorems: `key?_classify`, `classify_eq_child_iff`, `forall₂_described`.
-/
import ChainedSdk.Proofs.Names

namespace ChainedSdk

namespace GraphQL

/-- The names of an operation that a role depends on are names of GraphQL, as
they are in every document that was read from a text. -/
structure Operation.WellNamed (o : Operation) : Prop where
  name : ∀ s ∈ o.name?, isName s = true
  field : ∀ s ∈ o.firstField?, isName s = true
  declared : ∀ v ∈ o.declared, isName v.name = true

instance (o : Operation) : Decidable o.WellNamed :=
  decidable_of_iff ((∀ s ∈ o.name?, isName s = true) ∧ (∀ s ∈ o.firstField?, isName s = true) ∧
      ∀ v ∈ o.declared, isName v.name = true)
    ⟨fun h => ⟨h.1, h.2.1, h.2.2⟩, fun h => ⟨h.name, h.field, h.declared⟩⟩

/-- The operations of a document are well named. -/
def Document.WellNamed (d : Document) : Prop :=
  ∀ o ∈ d.operations, o.WellNamed

instance (d : Document) : Decidable d.WellNamed := by
  unfold Document.WellNamed
  infer_instance

/-- The declaration of an id. -/
def VariableDefinition.sampleId : VariableDefinition := ⟨"id", .nonNull (.named "ID"), none, []⟩

/-- A document with a parent, two operations of the root, and a child whose
name starts with its key only if case does not count. -/
def Document.sample : Document := ⟨[
  .operation ⟨.query, some "team", [.sampleId], [], [.field none "team" [] [] []]⟩,
  .operation ⟨.query, some "viewer", [], [], [.field none "viewer" [] [] []]⟩,
  .operation ⟨.query, some "TeamIssues", [.sampleId, ⟨"first", .named "Int", none, []⟩], [],
    [.field none "team" [] [] []]⟩,
  .operation ⟨.mutation, some "issueCreate", [⟨"input", .nonNull (.named "IssueInput"), none, []⟩],
    [], [.field none "issueCreate" [] [] []]⟩]⟩

theorem Document.sample_wellNamed : Document.sample.WellNamed := by decide +kernel

namespace Operation

/-- The operation belongs to the API of a key: the key is the first field it
selects, it takes an id, and its name is not the key but starts with it when
both are in lower case. -/
def IsChildOf (c : Config) (key : String) (o : Operation) : Prop :=
  o.firstField? = some key ∧ o.hasId c = true ∧
    ∃ name, o.name? = some name ∧ name ≠ key ∧
      Text.startsWith (Text.lower name) (Text.lower key) = true

/-- The first field of an operation that takes an id and has the name of the
field, or one that starts with it when both are in lower case. -/
def chainKey? (c : Config) (o : Operation) : Option String :=
  match o.firstField?, o.name? with
  | some field, some name =>
    if o.hasId c && (name = field || Text.startsWith (Text.lower name) (Text.lower field)) then
      some field
    else none
  | _, _ => none

end Operation
end GraphQL

open GraphQL (isName)

/-! ### Roles -/

theorem isParent_iff {c : Config} {o : GraphQL.Operation} {field : String}
    (hf : o.firstField? = some field) :
    o.isParent c = true ↔ o.hasId c = true ∧ o.name? = some field := by
  simp [GraphQL.Operation.isParent, hf]

theorem isChild_iff {c : Config} {o : GraphQL.Operation} (ho : o.WellNamed) {field : String}
    (hf : o.firstField? = some field) : o.isChild c = true ↔
      ∃ name, o.name? = some name ∧ o.hasId c = true ∧
        Text.startsWith (Text.lower name) (Text.lower field) = true := by
  unfold GraphQL.Operation.isChild
  cases hn : o.name? with
  | none => simp [hf]
  | some name =>
    simp only [hf, startsIgnoringCase_eq_lower (ho.name _ hn) (ho.field _ hf), Bool.and_eq_true,
      Option.some.injEq, exists_eq_left']

theorem classify_of_firstField {c : Config} {o : GraphQL.Operation} {field : String}
    (hf : o.firstField? = some field) : classify c o =
      if o.isParent c then .parent field else if o.isChild c then .child field else .root := by
  simp [classify, hf]

theorem classify_of_no_firstField {c : Config} {o : GraphQL.Operation} (hf : o.firstField? = none) :
    classify c o = .root := by
  simp [classify, hf]

/-- **The children of a key.** -/
theorem classify_eq_child_iff {c : Config} {o : GraphQL.Operation} (ho : o.WellNamed) {key : String} :
    classify c o = .child key ↔ o.IsChildOf c key := by
  unfold GraphQL.Operation.IsChildOf
  cases hf : o.firstField? with
  | none => simp [classify_of_no_firstField hf]
  | some field =>
    have hparent := isParent_iff (c := c) hf
    have hchild := isChild_iff (c := c) ho hf
    rw [classify_of_firstField hf]
    by_cases hp : o.isParent c = true
    · have hname := (hparent.mp hp).2
      rw [if_pos hp]
      constructor
      · intro h
        cases h
      · rintro ⟨hk, -, name, hn, hne, -⟩
        cases hk
        exact absurd (Option.some.inj (hn.symm.trans hname)) hne
    · rw [if_neg hp]
      by_cases hc : o.isChild c = true
      · rw [if_pos hc, Role.child.injEq]
        obtain ⟨name, hn, hid, hs⟩ := hchild.mp hc
        constructor
        · rintro rfl
          refine ⟨rfl, hid, name, hn, ?_, hs⟩
          rintro rfl
          exact hp (hparent.mpr ⟨hid, hn⟩)
        · exact fun h => Option.some.inj h.1
      · rw [if_neg hc]
        constructor
        · intro h
          cases h
        · rintro ⟨hk, hid, name, hn, -, hs⟩
          cases hk
          exact absurd (hchild.mpr ⟨name, hn, hid, hs⟩) hc

/-- An operation with the role of a parent is named like its first field,
which is its key. -/
theorem classify_eq_parent_iff {c : Config} {o : GraphQL.Operation} {key : String} :
    classify c o = .parent key ↔
      o.firstField? = some key ∧ o.hasId c = true ∧ o.name? = some key := by
  cases hf : o.firstField? with
  | none => simp [classify_of_no_firstField hf]
  | some field =>
    have hparent := isParent_iff (c := c) hf
    rw [classify_of_firstField hf]
    by_cases hp : o.isParent c = true
    · rw [if_pos hp, Role.parent.injEq]
      obtain ⟨hid, hn⟩ := hparent.mp hp
      constructor
      · rintro rfl
        exact ⟨rfl, hid, hn⟩
      · exact fun h => Option.some.inj h.1
    · rw [if_neg hp]
      constructor
      · intro h
        split at h <;> cases h
      · rintro ⟨hk, hid, hn⟩
        cases hk
        exact absurd (hparent.mpr ⟨hid, hn⟩) hp

/-- **The chain key of an operation** is its first field, if the operation
takes an id and has the name of the field or one that starts with it. -/
theorem key?_classify {c : Config} {o : GraphQL.Operation} (ho : o.WellNamed) :
    (classify c o).key? = o.chainKey? c := by
  unfold GraphQL.Operation.chainKey?
  cases hf : o.firstField? with
  | none => rw [classify_of_no_firstField hf]; rfl
  | some field =>
    have hparent := isParent_iff (c := c) hf
    have hchild := isChild_iff (c := c) ho hf
    rw [classify_of_firstField hf]
    cases hn : o.name? with
    | none =>
      have hp : ¬o.isParent c = true := fun h => by simpa [hn] using (hparent.mp h).2
      have hc : ¬o.isChild c = true := fun h => by
        obtain ⟨name, hname, -⟩ := hchild.mp h
        simp [hn] at hname
      simp [hp, hc, Role.key?]
    | some name =>
      have hp : o.isParent c = true ↔ o.hasId c = true ∧ name = field := by
        rw [hparent, hn, Option.some.injEq]
      have hc : o.isChild c = true ↔ o.hasId c = true ∧
          Text.startsWith (Text.lower name) (Text.lower field) = true := by
        rw [hchild, hn]
        simp
      by_cases hid : o.hasId c = true
      · by_cases he : name = field
        · simp [hp, hid, he, Role.key?]
        · by_cases hs : Text.startsWith (Text.lower name) (Text.lower field) = true
          · simp [hp, hc, hid, he, hs, Role.key?]
          · simp [hp, hc, hid, he, hs, Role.key?]
      · simp [hp, hc, hid, Role.key?]

/-- A chain key is a name of GraphQL. -/
theorem isName_key_classify {c : Config} {o : GraphQL.Operation} (ho : o.WellNamed) {key : String}
    (h : (classify c o).key? = some key) : isName key = true := by
  apply ho.field
  cases hf : o.firstField? with
  | none => simp [classify_of_no_firstField hf, Role.key?] at h
  | some field =>
    rw [classify_of_firstField hf] at h
    split at h
    · exact h
    · split at h
      · exact h
      · cases h

/-! ### Descriptions -/

/-- The operation is what classification and description make of a well named
definition. -/
def Described (c : Config) (o : SdkOperation) : Prop :=
  ∃ d : GraphQL.Operation, d.WellNamed ∧ describe c ⟨d, classify c d⟩ = .ok o

/-- The operation has a name of GraphQL, and the names that description gives for
it. -/
def Named (c : Config) (o : SdkOperation) : Prop :=
  isName o.name = true ∧
    ∃ kind : GraphQL.OperationKind, c.operationNames o.name kind.word = .ok o.names

theorem describe_eq_ok {c : Config} {o : Classified} {s : SdkOperation} (h : describe c o = .ok s) :
    s.definition = o.definition ∧ s.role = o.role ∧ o.definition.name? = some s.name ∧
      c.operationNames s.name o.definition.kind.word = .ok s.names := by
  unfold describe at h
  cases hn : present o.definition.name? with
  | none => simp [hn] at h
  | some name =>
    have hname : o.definition.name? = some name := (Option.filter_eq_some_iff.mp hn).1
    simp only [hn] at h
    cases ht : c.operationNames name o.definition.kind.word with
    | error e => simp [ht] at h
    | ok names =>
      simp only [ht, Except.ok.injEq] at h
      subst h
      exact ⟨rfl, rfl, hname, ht⟩

namespace Described

variable {c : Config} {o : SdkOperation}

theorem wellNamed (h : Described c o) : o.definition.WellNamed := by
  obtain ⟨d, hd, h⟩ := h
  rw [(describe_eq_ok h).1]
  exact hd

theorem role_eq (h : Described c o) : o.role = classify c o.definition := by
  obtain ⟨d, hd, h⟩ := h
  rw [(describe_eq_ok h).1, (describe_eq_ok h).2.1]

theorem name?_eq (h : Described c o) : o.definition.name? = some o.name := by
  obtain ⟨d, hd, h⟩ := h
  rw [(describe_eq_ok h).1]
  exact (describe_eq_ok h).2.2.1

theorem isName_name (h : Described c o) : isName o.name = true :=
  h.wellNamed.name _ h.name?_eq

theorem operationNames_eq (h : Described c o) :
    c.operationNames o.name o.definition.kind.word = .ok o.names := by
  obtain ⟨d, hd, h⟩ := h
  rw [(describe_eq_ok h).1]
  exact (describe_eq_ok h).2.2.2

theorem named (h : Described c o) : Named c o :=
  ⟨h.isName_name, o.definition.kind, h.operationNames_eq⟩

theorem isName_key (h : Described c o) {key : String} (hk : o.role.key? = some key) :
    isName key = true :=
  isName_key_classify h.wellNamed (h.role_eq ▸ hk)

/-- The key of a described operation counts, since it is not empty. -/
theorem present_key? (h : Described c o) : present o.role.key? = o.role.key? := by
  cases hk : o.role.key? with
  | none => rfl
  | some key => exact GraphQL.present_of_isName (h.isName_key hk)

theorem present_parentKey? (h : Described c o) : present o.role.parentKey? = o.role.parentKey? := by
  cases hr : o.role with
  | root => rfl
  | child key => rfl
  | parent key => exact GraphQL.present_of_isName (h.isName_key (by rw [hr]; rfl))

end Described

/-! ### The operations of a document -/

theorem eq_ok_of_toOption {ε α : Type} {x : Except ε α} {a : α} (h : x.toOption = some a) :
    x = .ok a := by
  cases x with
  | error e => cases h
  | ok b =>
    cases h
    rfl

theorem exists_of_forall₂ {α β : Type} {R : α → β → Prop} {xs : List α} {ys : List β}
    (h : List.Forall₂ R xs ys) {x : α} (hx : x ∈ xs) : ∃ y, R x y := by
  obtain ⟨i, hi, rfl⟩ := List.getElem_of_mem hx
  exact ⟨_, h.get hi (h.length_eq ▸ hi)⟩

/-- A list can be mapped if every element can. -/
theorem mapM_except_eq_ok {ε α β : Type} {f : α → Except ε β} : ∀ {xs : List α} {ys : List β},
    xs.mapM f = .ok ys ↔ List.Forall₂ (fun x y => f x = .ok y) xs ys
  | [], ys => by cases ys <;> simp [pure, Except.pure]
  | x :: xs, ys => by
    rw [List.mapM_cons]
    cases hx : f x with
    | error e =>
      constructor
      · intro h
        cases h
      · intro h
        cases h with
        | cons hy _ => cases hx.symm.trans hy
    | ok y =>
      cases hxs : xs.mapM f with
      | error e =>
        constructor
        · intro h
          cases h
        · intro h
          cases h with
          | cons _ hys => cases hxs.symm.trans (mapM_except_eq_ok.mpr hys)
      | ok zs =>
        have hzs := mapM_except_eq_ok.mp hxs
        constructor
        · intro h
          cases h
          exact .cons hx hzs
        · intro h
          cases h with
          | cons hy hys =>
            have hz := hxs.symm.trans (mapM_except_eq_ok.mpr hys)
            rw [hx] at hy
            cases hy
            cases hz
            rfl

/-- The operations of a document, one by one: each is described, and keeps its
definition. -/
theorem forall₂_described {c : Config} {d : GraphQL.Document} (hd : d.WellNamed)
    {os : List SdkOperation} (h : (classifyAll c d).mapM (describe c) = .ok os) :
    List.Forall₂ (fun o s => s.definition = o ∧ Described c s) d.operations os := by
  have hall := mapM_except_eq_ok.mp h
  unfold classifyAll at hall
  rw [List.forall₂_map_left_iff] at hall
  have hmem : ∀ {ops : List GraphQL.Operation} {os : List SdkOperation},
      (∀ o ∈ ops, o.WellNamed) →
      List.Forall₂ (fun o s => describe c ⟨o, classify c o⟩ = .ok s) ops os →
      List.Forall₂ (fun o s => s.definition = o ∧ Described c s) ops os := by
    intro ops os hops h
    induction h with
    | nil => exact .nil
    | cons ho _ ih =>
      exact .cons ⟨(describe_eq_ok ho).1, _, hops _ List.mem_cons_self, ho⟩
        (ih fun x hx => hops x (List.mem_cons_of_mem _ hx))
  exact hmem hd hall

theorem described_of_mem {c : Config} {d : GraphQL.Document} (hd : d.WellNamed)
    {os : List SdkOperation} (h : (classifyAll c d).mapM (describe c) = .ok os) :
    ∀ o ∈ os, Described c o := by
  have hall := forall₂_described hd h
  intro o ho
  obtain ⟨i, hi, rfl⟩ := List.getElem_of_mem ho
  exact (hall.get (by rw [hall.length_eq]; exact hi) hi).2

end ChainedSdk
