/-
# What a computation comes to, step by step

A computation that leaves things behind succeeds if all of its steps do, and
leaves behind what they leave behind, in order (`Emit.bind_outcome_eq_ok`,
`Emit.bind_effects`). Over a list it is the list of its outcomes
(`Emit.mapM_outcome_eq_ok`). Mapping it changes nothing but its outcome
(`Emit.settle_map`). Settled where something is declared already, it
declares what is new and nothing twice (`Declared.absorbAll_eq_ok`): what was
declared stays first and as it is, and the rest follows in the order in which
it came up (`Assoc.addAll_eq_append`).

Key definitions: `Assoc.addAll`, `Effect.record?`, `Effect.result?`,
`Effect.scalar?`, `Declared.absorbAll`.
Key theorems: `Emit.mapM_outcome_eq_ok`, `Emit.settle_outcome_eq_ok`,
`Declared.absorbAll_eq_ok`, `Assoc.addAll_eq_append`.
-/
import ChainedSdk.Emit
import Mathlib.Data.List.Forall2
import Mathlib.Data.List.Induction
import Mathlib.Data.List.Nodup

namespace ChainedSdk

open Code (ClassDecl)

/-- Lists that are related element by element have one image under functions that
agree on what is related. -/
theorem map_eq_of_forall₂ {α β γ : Type} {R : α → β → Prop} {f : α → γ} {g : β → γ}
    (hfg : ∀ x y, R x y → f x = g y) {xs : List α} {ys : List β} (h : List.Forall₂ R xs ys) :
    xs.map f = ys.map g := by
  induction h with
  | nil => rfl
  | cons hx _ ih => rw [List.map_cons, List.map_cons, hfg _ _ hx, ih]

/-! ### Dictionaries to which entries are added -/

namespace Assoc

variable {κ α : Type} [DecidableEq κ]

/-- Adds entries in order. -/
def addAll (d entries : List (κ × α)) : List (κ × α) :=
  entries.foldl (fun d e => add e.1 e.2 d) d

theorem get?_append (key : κ) : ∀ d e : List (κ × α),
    get? key (d ++ e) = (get? key d).or (get? key e)
  | [], _ => by simp [get?]
  | (k, a) :: d, e => by
    by_cases h : k = key
    · simp [get?, h]
    · simp [get?, h, get?_append key d e]

example : get? 2 ([(1, 'a')] ++ [(2, 'b')]) = some 'b' := by cbv

theorem get?_map {β : Type} (f : α → β) (key : κ) : ∀ d : List (κ × α),
    get? key (d.map fun e => (e.1, f e.2)) = (get? key d).map f
  | [] => rfl
  | (k, a) :: d => by
    by_cases hk : k = key
    · simp [get?, hk]
    · simp [get?, hk, get?_map f key d]

theorem has_iff_mem {key : κ} : ∀ {d : List (κ × α)}, has key d = true ↔ key ∈ d.map (·.1)
  | [] => by simp [has, get?]
  | (k, a) :: d => by
    have ih : has key d = true ↔ key ∈ d.map (·.1) := has_iff_mem
    unfold has at ih ⊢
    by_cases h : k = key
    · simp [get?, h]
    · simp only [get?, h, if_false, ih, List.map_cons, List.mem_cons]
      exact ⟨Or.inr, fun h' => h'.resolve_left fun e => h e.symm⟩

theorem get?_of_notMem {key : κ} {d : List (κ × α)} (h : key ∉ d.map (·.1)) : get? key d = none := by
  by_contra hne
  exact h (has_iff_mem.mp (Option.isSome_iff_ne_none.mpr hne))

theorem mem_of_get? {key : κ} {a : α} : ∀ {d : List (κ × α)}, get? key d = some a → (key, a) ∈ d
  | (k, b) :: d, h => by
    by_cases hk : k = key
    · simp only [get?, hk, if_true, Option.some.injEq] at h
      rw [hk, h]
      exact List.mem_cons_self
    · simp only [get?, hk, if_false] at h
      exact List.mem_cons_of_mem _ (mem_of_get? h)

theorem get?_of_mem {key : κ} {a : α} : ∀ {d : List (κ × α)}, (d.map (·.1)).Nodup →
    (key, a) ∈ d → get? key d = some a
  | (k, b) :: d, hn, h => by
    simp only [List.map_cons, List.nodup_cons] at hn
    rcases List.mem_cons.mp h with h | h
    · obtain ⟨rfl, rfl⟩ := Prod.mk.inj h
      simp [get?]
    · have hk : k ≠ key := fun e => hn.1 (e ▸ List.mem_map.mpr ⟨_, h, rfl⟩)
      simp only [get?, hk, if_false]
      exact get?_of_mem hn.2 h

theorem addAll_cons (d : List (κ × α)) (e : κ × α) (entries : List (κ × α)) :
    addAll d (e :: entries) = addAll (add e.1 e.2 d) entries := rfl

theorem addAll_append (d xs ys : List (κ × α)) : addAll d (xs ++ ys) = addAll (addAll d xs) ys :=
  List.foldl_append

theorem add_of_mem {e : κ × α} {d : List (κ × α)} (h : e.1 ∈ d.map (·.1)) : add e.1 e.2 d = d := by
  unfold add
  rw [if_pos (has_iff_mem.mpr h)]

theorem add_of_notMem {e : κ × α} {d : List (κ × α)} (h : e.1 ∉ d.map (·.1)) :
    add e.1 e.2 d = d ++ [e] := by
  unfold add
  rw [if_neg fun hh => h (has_iff_mem.mp hh)]

theorem add_nodup {e : κ × α} {d : List (κ × α)} (h : (d.map (·.1)).Nodup) :
    ((add e.1 e.2 d).map (·.1)).Nodup := by
  by_cases hm : e.1 ∈ d.map (·.1)
  · rw [add_of_mem hm]
    exact h
  · rw [add_of_notMem hm, List.map_append]
    exact List.nodup_append'.mpr ⟨h, by simp, by simpa using hm⟩

theorem addAll_nodup : ∀ {entries d : List (κ × α)}, (d.map (·.1)).Nodup →
    ((addAll d entries).map (·.1)).Nodup
  | [], _, h => h
  | e :: entries, d, h => by
    rw [addAll_cons]
    exact addAll_nodup (add_nodup h)

theorem mem_keys_addAll {key : κ} : ∀ {entries d : List (κ × α)},
    key ∈ (addAll d entries).map (·.1) ↔ key ∈ d.map (·.1) ∨ key ∈ entries.map (·.1)
  | [], d => by simp [addAll]
  | e :: entries, d => by
    rw [addAll_cons, mem_keys_addAll]
    by_cases hm : e.1 ∈ d.map (·.1)
    · rw [add_of_mem hm, List.map_cons, List.mem_cons]
      constructor
      · exact fun h => h.imp_right Or.inr
      · rintro (h | rfl | h)
        exacts [Or.inl h, Or.inl hm, Or.inr h]
    · rw [add_of_notMem hm]
      simp only [List.map_append, List.map_cons, List.map_nil, List.mem_append, List.mem_cons,
        List.not_mem_nil, or_false]
      tauto

theorem mem_addAll {x : κ × α} : ∀ {entries d : List (κ × α)}, x ∈ addAll d entries →
    x ∈ d ∨ x ∈ entries
  | [], _, h => Or.inl h
  | e :: entries, d, h => by
    rw [addAll_cons] at h
    rcases mem_addAll h with h | h
    · by_cases hm : e.1 ∈ d.map (·.1)
      · rw [add_of_mem hm] at h
        exact Or.inl h
      · rw [add_of_notMem hm] at h
        rcases List.mem_append.mp h with h | h
        · exact Or.inl h
        · exact Or.inr (by rw [List.mem_singleton.mp h]; exact List.mem_cons_self)
    · exact Or.inr (List.mem_cons_of_mem _ h)

/-- **What is declared stays first and as it is.** Adding entries to a
dictionary appends those entries of the dictionary they make by themselves
whose keys it lacks. -/
theorem addAll_eq_append (d : List (κ × α)) : ∀ entries : List (κ × α),
    addAll d entries = d ++ (addAll [] entries).filter fun e => e.1 ∉ d.map (·.1) := by
  intro entries
  induction entries using List.reverseRecOn with
  | nil => simp [addAll]
  | append_singleton entries e ih =>
    have hkeys : ∀ d' : List (κ × α), addAll d' (entries ++ [e]) = add e.1 e.2 (addAll d' entries) :=
      fun d' => addAll_append d' entries [e]
    rw [hkeys, hkeys]
    by_cases hown : e.1 ∈ (addAll [] entries).map (·.1)
    · have hall : e.1 ∈ (addAll d entries).map (·.1) :=
        mem_keys_addAll.mpr (Or.inr (by simpa using mem_keys_addAll.mp hown))
      rw [add_of_mem hown, add_of_mem hall, ih]
    · rw [add_of_notMem hown, List.filter_append]
      have hnew : e.1 ∉ entries.map (·.1) := fun h => hown (mem_keys_addAll.mpr (Or.inr h))
      by_cases hd : e.1 ∈ d.map (·.1)
      · rw [add_of_mem (mem_keys_addAll.mpr (Or.inl hd)), ih]
        have : [e].filter (fun e => e.1 ∉ d.map (·.1)) = [] := by
          rw [List.filter_eq_nil_iff]
          intro x hx
          rw [List.mem_singleton.mp hx]
          simpa using hd
        rw [this, List.append_nil]
      · have hall : e.1 ∉ (addAll d entries).map (·.1) := fun h =>
          (mem_keys_addAll.mp h).elim hd hnew
        have : [e].filter (fun e => e.1 ∉ d.map (·.1)) = [e] := by
          rw [List.filter_eq_self]
          intro x hx
          rw [List.mem_singleton.mp hx]
          simpa using hd
        rw [add_of_notMem hall, this, ih, List.append_assoc]

theorem addAll_of_nodup {es : List (κ × α)} (h : (es.map (·.1)).Nodup) : addAll [] es = es := by
  induction es using List.reverseRecOn with
  | nil => rfl
  | append_singleton es e ih =>
    rw [List.map_append] at h
    obtain ⟨hes, -, hdisjoint⟩ := List.nodup_append'.mp h
    rw [addAll_append, ih hes]
    exact add_of_notMem fun hm => hdisjoint hm (List.mem_singleton.mpr rfl)

/-- What comes out is the dictionary that is added exactly if that one starts with
what was there before. -/
theorem append_filter_eq_iff {d own : List (κ × α)} (h : (own.map (·.1)).Nodup) :
    d ++ own.filter (fun e => e.1 ∉ d.map (·.1)) = own ↔ d <+: own := by
  constructor
  · exact fun heq => ⟨_, heq⟩
  · rintro ⟨rest, rfl⟩
    rw [List.map_append] at h
    obtain ⟨-, -, hdisjoint⟩ := List.nodup_append'.mp h
    have hold : d.filter (fun e => e.1 ∉ d.map (·.1)) = [] := by
      rw [List.filter_eq_nil_iff]
      intro e he
      simpa using ⟨e.2, he⟩
    have hnew : rest.filter (fun e => e.1 ∉ d.map (·.1)) = rest := by
      rw [List.filter_eq_self]
      intro e he
      exact decide_eq_true fun hm => hdisjoint hm (List.mem_map.mpr ⟨e, he, rfl⟩)
    rw [List.filter_append, hold, hnew, List.nil_append]

/-- Entries may be collected before they are added. -/
theorem addAll_addAll_nil (d es : List (κ × α)) : addAll d (addAll [] es) = addAll d es := by
  have hown : addAll [] (addAll [] es) = addAll [] es := addAll_of_nodup (addAll_nodup List.nodup_nil)
  rw [addAll_eq_append d (addAll [] es), hown, ← addAll_eq_append]

/-- Where entries have one key at most, that key is added if it is new. -/
theorem keys_addAll_of_iff {d entries : List (κ × α)} {key? : Option κ}
    (h : ∀ key, key ∈ entries.map (·.1) ↔ key? = some key) :
    (addAll d entries).map (·.1) = d.map (·.1) ++ key?.toList.filter (· ∉ d.map (·.1)) := by
  have hown : (addAll [] entries).map (·.1) = key?.toList := by
    have hnodup : ((addAll [] entries).map (·.1)).Nodup := addAll_nodup List.nodup_nil
    have hmem : ∀ key, key ∈ (addAll [] entries).map (·.1) ↔ key ∈ key?.toList := by
      intro key
      rw [mem_keys_addAll, h, Option.mem_toList]
      simp
    cases key? with
    | none => exact List.eq_nil_iff_forall_not_mem.mpr fun key hkey => nomatch (hmem key).mp hkey
    | some key =>
      refine List.perm_singleton.mp ((List.perm_ext_iff_of_nodup hnodup ?_).mpr hmem)
      exact List.nodup_singleton key
  rw [addAll_eq_append, List.map_append, ← hown, List.filter_map]
  rfl

end Assoc

/-! ### Effects -/

namespace Effect

variable {ε : Type}

/-- The record that an effect declares, under its name. -/
def record? : Effect ε → Option (String × ClassDecl)
  | .record c => some (c.name, c)
  | _ => none

/-- The result that an effect declares, under its name, if the declaration
can be worked out. -/
def result? : Effect ε → Option (String × ClassDecl)
  | .result name (.ok c) => some (name, c)
  | _ => none

/-- The scalar that an effect uses. -/
def scalar? : Effect ε → Option String
  | .scalar name => some name
  | _ => none

end Effect

namespace Declared

variable {ε : Type}

/-- What is declared after effects. -/
def absorbAll (d : Declared) (es : List (Effect ε)) : Except ε Declared :=
  es.foldlM absorb d

theorem absorbAll_cons_eq_ok {d d' : Declared} {e : Effect ε} {es : List (Effect ε)} :
    d.absorbAll (e :: es) = .ok d' ↔ ∃ d₁, d.absorb e = .ok d₁ ∧ d₁.absorbAll es = .ok d' := by
  unfold absorbAll
  rw [List.foldlM_cons]
  cases d.absorb e with
  | error fault => simp [bind, Except.bind]
  | ok d₁ => simp [bind, Except.bind]

/-- **What effects declare.** If the effects can be absorbed, then records and
results are added under new names only, in the order in which they come up,
and the scalars are marked as used. -/
theorem absorbAll_eq_ok : ∀ {es : List (Effect ε)} {d d' : Declared}, d.absorbAll es = .ok d' →
    d'.records = Assoc.addAll d.records (es.filterMap Effect.record?) ∧
    d'.results = Assoc.addAll d.results (es.filterMap Effect.result?) ∧
    d'.scalars = (es.filterMap Effect.scalar?).foldl ScalarRegistry.markUsed d.scalars
  | [], d, d', h => by
    cases h
    exact ⟨rfl, rfl, rfl⟩
  | e :: es, d, d', h => by
    obtain ⟨d₁, h₁, h₂⟩ := absorbAll_cons_eq_ok.mp h
    obtain ⟨hrec, hres, hsc⟩ := absorbAll_eq_ok h₂
    cases e with
    | log r =>
      cases h₁
      exact ⟨hrec, hres, hsc⟩
    | scalar name =>
      cases h₁
      exact ⟨hrec, hres, hsc⟩
    | record c =>
      cases h₁
      exact ⟨hrec, hres, hsc⟩
    | result name declaration =>
      simp only [absorb] at h₁
      cases declaration with
      | ok c =>
        by_cases hn : Assoc.has name d.results = true
        · rw [if_pos hn] at h₁
          cases h₁
          refine ⟨hrec, ?_, hsc⟩
          have hd : Assoc.add name c d.results = d.results :=
            Assoc.add_of_mem (e := (name, c)) (Assoc.has_iff_mem.mp hn)
          have hstep : Assoc.addAll d.results ((.result name (.ok c) :: es).filterMap Effect.result?) =
              Assoc.addAll (Assoc.add name c d.results) (es.filterMap Effect.result?) := rfl
          rw [hstep, hd, hres]
        · rw [if_neg hn] at h₁
          cases h₁
          exact ⟨hrec, hres, hsc⟩
      | error fault =>
        by_cases hn : Assoc.has name d.results = true
        · rw [if_pos hn] at h₁
          cases h₁
          exact ⟨hrec, hres, hsc⟩
        · rw [if_neg hn] at h₁
          cases h₁

/-- Effects can be absorbed if all declarations can be worked out. -/
theorem exists_absorbAll : ∀ {es : List (Effect ε)} (d : Declared),
    (∀ name declaration, .result name declaration ∈ es → ∃ c, declaration = .ok c) →
    ∃ d', d.absorbAll es = .ok d'
  | [], d, _ => ⟨d, rfl⟩
  | e :: es, d, h => by
    have hstep : ∃ d₁, d.absorb e = .ok d₁ := by
      cases e with
      | log r => exact ⟨_, rfl⟩
      | scalar name => exact ⟨_, rfl⟩
      | record c => exact ⟨_, rfl⟩
      | result name declaration =>
        obtain ⟨c, rfl⟩ := h name declaration List.mem_cons_self
        simp only [absorb]
        split
        · exact ⟨_, rfl⟩
        · exact ⟨_, rfl⟩
    obtain ⟨d₁, h₁⟩ := hstep
    obtain ⟨d', h'⟩ := exists_absorbAll d₁ fun name declaration hm =>
      h name declaration (List.mem_cons_of_mem _ hm)
    exact ⟨d', absorbAll_cons_eq_ok.mpr ⟨d₁, h₁, h'⟩⟩

/-- A result whose declaration fails is declared under its name already. -/
theorem result_mem_of_absorbAll : ∀ {es : List (Effect ε)} {d d' : Declared} {name : String}
    {declaration : Except ε ClassDecl}, d.absorbAll es = .ok d' →
    .result name declaration ∈ es → name ∈ d'.results.map (·.1)
  | e :: es, d, d', name, declaration, h, hm => by
    obtain ⟨d₁, h₁, h₂⟩ := absorbAll_cons_eq_ok.mp h
    rcases List.mem_cons.mp hm with rfl | hm
    · rw [(absorbAll_eq_ok h₂).2.1, Assoc.mem_keys_addAll]
      left
      simp only [absorb] at h₁
      by_cases hn : Assoc.has name d.results = true
      · rw [if_pos hn] at h₁
        cases h₁
        exact Assoc.has_iff_mem.mp hn
      · rw [if_neg hn] at h₁
        cases declaration with
        | error fault => cases h₁
        | ok c =>
          cases h₁
          show name ∈ (Assoc.add name c d.results).map (·.1)
          rw [Assoc.add_of_notMem (e := (name, c)) fun hh => hn (Assoc.has_iff_mem.mpr hh)]
          simp
    · exact result_mem_of_absorbAll h₂ hm

end Declared

/-! ### Outcomes -/

namespace Emit

variable {ε α β : Type}

theorem pure_eq (a : α) : (pure a : Emit ε α) = ⟨[], .ok a⟩ := rfl

theorem bind_of_ok {x : Emit ε α} {f : α → Emit ε β} {a : α} (h : x.outcome = .ok a) :
    x >>= f = ⟨x.effects ++ (f a).effects, (f a).outcome⟩ := by
  show x.andThen f = _
  unfold andThen
  rw [h]

theorem bind_of_error {x : Emit ε α} {f : α → Emit ε β} {e : ε} (h : x.outcome = .error e) :
    x >>= f = ⟨x.effects, .error e⟩ := by
  show x.andThen f = _
  unfold andThen
  rw [h]

instance : LawfulMonad (Emit ε) := LawfulMonad.mk' _
  (fun x => by
    obtain ⟨es, o⟩ := x
    cases o with
    | ok a =>
      show (⟨es, .ok a⟩ : Emit ε _) >>= (fun a => pure (id a)) = _
      rw [bind_of_ok (a := a) rfl]
      simp [pure_eq]
    | error e => rfl)
  (fun a f => by rw [bind_of_ok (a := a) rfl]; simp [pure_eq])
  (fun x f g => by
    cases hx : x.outcome with
    | error e => rw [bind_of_error hx, bind_of_error (e := e) rfl, bind_of_error hx]
    | ok a =>
      rw [bind_of_ok hx, bind_of_ok hx]
      cases hf : (f a).outcome with
      | error e => rw [bind_of_error (e := e) rfl, bind_of_error hf]
      | ok b => rw [bind_of_ok (a := b) rfl, bind_of_ok hf, List.append_assoc])

/-- Two steps succeed if the first one does and the second one does from its
value on. -/
theorem bind_outcome_eq_ok {x : Emit ε α} {f : α → Emit ε β} {b : β} :
    (x >>= f).outcome = .ok b ↔ ∃ a, x.outcome = .ok a ∧ (f a).outcome = .ok b := by
  cases hx : x.outcome with
  | error e => rw [bind_of_error hx]; simp
  | ok a => rw [bind_of_ok hx]; simp

/-- Two steps fail if the first one does, or the second one does from its value
on. -/
theorem bind_outcome_eq_error {x : Emit ε α} {f : α → Emit ε β} {e : ε} :
    (x >>= f).outcome = .error e ↔
      x.outcome = .error e ∨ ∃ a, x.outcome = .ok a ∧ (f a).outcome = .error e := by
  cases hx : x.outcome with
  | error e => rw [bind_of_error hx]; simp
  | ok a => rw [bind_of_ok hx]; simp

theorem bind_effects {x : Emit ε α} {f : α → Emit ε β} {a : α} (h : x.outcome = .ok a) :
    (x >>= f).effects = x.effects ++ (f a).effects := by
  rw [bind_of_ok h]

/-- What the first step leaves behind is left behind, whether or not the second one
succeeds. -/
theorem mem_bind_effects_of_first {x : Emit ε α} {f : α → Emit ε β} {e : Effect ε}
    (h : e ∈ x.effects) : e ∈ (x >>= f).effects := by
  cases hx : x.outcome with
  | error fault => rwa [bind_of_error hx]
  | ok a =>
    rw [bind_of_ok hx]
    exact List.mem_append_left _ h

theorem mem_bind_effects_of_second {x : Emit ε α} {f : α → Emit ε β} {e : Effect ε} {a : α}
    (hx : x.outcome = .ok a) (h : e ∈ (f a).effects) : e ∈ (x >>= f).effects := by
  rw [bind_of_ok hx]
  exact List.mem_append_right _ h

theorem tell_bind {es : List (Effect ε)} {f : Unit → Emit ε β} :
    tell es >>= f = ⟨es ++ (f ()).effects, (f ()).outcome⟩ :=
  bind_of_ok rfl

/-- A computation over a list succeeds if it succeeds for every element, and
then leaves behind what it leaves behind for them, in order. -/
theorem mapM_outcome_eq_ok {f : α → Emit ε β} : ∀ {xs : List α} {ys : List β},
    (xs.mapM f).outcome = .ok ys ↔ List.Forall₂ (fun x y => (f x).outcome = .ok y) xs ys
  | [], ys => by
    rw [List.mapM_nil, pure_eq]
    cases ys <;> simp
  | x :: xs, ys => by
    rw [List.mapM_cons, bind_outcome_eq_ok]
    constructor
    · rintro ⟨y, hy, h⟩
      obtain ⟨ys', hys, h⟩ := bind_outcome_eq_ok.mp h
      cases h
      exact .cons hy (mapM_outcome_eq_ok.mp hys)
    · intro h
      cases h with
      | cons hy hys => exact ⟨_, hy, bind_outcome_eq_ok.mpr ⟨_, mapM_outcome_eq_ok.mpr hys, rfl⟩⟩

/-- A computation over a list fails with the first element it fails for. -/
theorem mapM_outcome_eq_error {f : α → Emit ε β} {e : ε} : ∀ {xs : List α},
    (xs.mapM f).outcome = .error e ↔ ∃ before x after, xs = before ++ x :: after ∧
      (∀ y ∈ before, ∃ b, (f y).outcome = .ok b) ∧ (f x).outcome = .error e
  | [] => by
    rw [List.mapM_nil, pure_eq]
    simp
  | x :: xs => by
    rw [List.mapM_cons, bind_outcome_eq_error]
    constructor
    · rintro (hx | ⟨b, hb, hrest⟩)
      · exact ⟨[], x, xs, rfl, by simp, hx⟩
      · have hrest : (xs.mapM f).outcome = .error e := by
          rcases bind_outcome_eq_error.mp hrest with hrest | ⟨_, _, hpure⟩
          · exact hrest
          · cases hpure
        obtain ⟨before, y, after, rfl, hbefore, hy⟩ := mapM_outcome_eq_error.mp hrest
        refine ⟨x :: before, y, after, rfl, fun z hz => ?_, hy⟩
        rcases List.mem_cons.mp hz with rfl | hz
        exacts [⟨b, hb⟩, hbefore z hz]
    · rintro ⟨before, y, after, hxs, hbefore, hy⟩
      cases before with
      | nil =>
        cases hxs
        exact Or.inl hy
      | cons z before =>
        cases hxs
        obtain ⟨b, hb⟩ := hbefore x List.mem_cons_self
        have hrest : ((before ++ y :: after).mapM f).outcome = .error e :=
          mapM_outcome_eq_error.mpr
            ⟨before, y, after, rfl, fun w hw => hbefore w (List.mem_cons_of_mem _ hw), hy⟩
        exact Or.inr ⟨b, hb, bind_outcome_eq_error.mpr (Or.inl hrest)⟩

theorem mapM_effects {f : α → Emit ε β} : ∀ {xs : List α} {ys : List β},
    (xs.mapM f).outcome = .ok ys → (xs.mapM f).effects = xs.flatMap fun x => (f x).effects
  | [], _, _ => rfl
  | x :: xs, ys, h => by
    rw [List.mapM_cons] at h ⊢
    obtain ⟨y, hy, h⟩ := bind_outcome_eq_ok.mp h
    obtain ⟨ys', hys, -⟩ := bind_outcome_eq_ok.mp h
    rw [bind_effects hy, bind_effects hys, mapM_effects hys, List.flatMap_cons, pure_eq, List.append_nil]

/-- Settling succeeds if the computation does and its effects can be
absorbed. -/
theorem settleFrom_outcome_eq_ok {o : Except ε α} {a : α} : ∀ {es : List (Effect ε)} {d : Declared}
    {log : List LogRecord}, (settleFrom o d log es).outcome = .ok a ↔
      o = .ok a ∧ d.absorbAll es = .ok (settleFrom o d log es).declared
  | [], d, log => by simp [settleFrom, Declared.absorbAll, pure, Except.pure]
  | e :: es, d, log => by
    rw [Declared.absorbAll_cons_eq_ok]
    unfold settleFrom
    cases hd : d.absorb e with
    | error fault => simp
    | ok d₁ =>
      cases e <;> simp [settleFrom_outcome_eq_ok]

theorem settleFrom_outcome_of_absorbAll {o : Except ε α} : ∀ {es : List (Effect ε)} {d d' : Declared}
    {log : List LogRecord}, d.absorbAll es = .ok d' →
      (settleFrom o d log es).outcome = o ∧ (settleFrom o d log es).declared = d'
  | [], d, d', log, h => by
    cases h
    exact ⟨rfl, rfl⟩
  | e :: es, d, d', log, h => by
    obtain ⟨d₁, h₁, h₂⟩ := Declared.absorbAll_cons_eq_ok.mp h
    unfold settleFrom
    rw [h₁]
    cases e <;> exact settleFrom_outcome_of_absorbAll h₂

/-- A computation whose effects can be absorbed comes to its own outcome. -/
theorem settle_of_absorbAll {x : Emit ε α} {d d' : Declared} (h : d.absorbAll x.effects = .ok d') :
    (x.settle d).outcome = x.outcome ∧ (x.settle d).declared = d' :=
  settleFrom_outcome_of_absorbAll h

/-- If all results can be declared, a computation comes to its own outcome, and all that
it leaves behind is declared. -/
theorem settle_of_results {x : Emit ε α}
    (h : ∀ name declaration, .result name declaration ∈ x.effects → ∃ r, declaration = .ok r)
    (d : Declared) : (x.settle d).outcome = x.outcome ∧
      d.absorbAll x.effects = .ok (x.settle d).declared := by
  obtain ⟨d', hd'⟩ := Declared.exists_absorbAll d h
  obtain ⟨houtcome, hdeclared⟩ := settle_of_absorbAll hd'
  exact ⟨houtcome, hd'.trans (congrArg Except.ok hdeclared.symm)⟩

theorem settle_outcome_eq_ok {x : Emit ε α} {d : Declared} {a : α} :
    (x.settle d).outcome = .ok a ↔
      x.outcome = .ok a ∧ d.absorbAll x.effects = .ok (x.settle d).declared :=
  settleFrom_outcome_eq_ok

/-! ### Mapping computations -/

theorem map_eq (f : α → β) (x : Emit ε α) : f <$> x = ⟨x.effects, x.outcome.map f⟩ := by
  show x >>= (fun a => pure (f a)) = _
  cases hx : x.outcome with
  | error e => rw [bind_of_error hx]; rfl
  | ok a => rw [bind_of_ok hx, pure_eq, List.append_nil]; rfl

/-- What two steps are mapped to is made of what each of them is mapped to. -/
theorem bind_bind_pure {α' β' : Type} (x : Emit ε α) (y : Emit ε β) (f : α → α') (g : β → β')
    {γ : Type} (h : α' → β' → γ) : (do let a ← x; let b ← y; pure (h (f a) (g b))) =
      (do let a ← f <$> x; let b ← g <$> y; pure (h a b)) := by
  simp only [map_eq_pure_bind, bind_assoc, pure_bind]

theorem map_mapM {γ : Type} (f : α → Emit ε β) (g : β → γ) : ∀ xs : List α,
    List.map g <$> xs.mapM f = xs.mapM fun x => g <$> f x
  | [] => rfl
  | x :: xs => by
    rw [List.mapM_cons, List.mapM_cons, ← map_mapM f g xs]
    simp only [map_eq_pure_bind, bind_assoc, pure_bind, List.map_cons]

theorem settleFrom_map (f : α → β) (outcome : Except ε α) : ∀ (es : List (Effect ε)) (d : Declared)
    (log : List LogRecord), settleFrom (outcome.map f) d log es =
      ⟨(settleFrom outcome d log es).outcome.map f, (settleFrom outcome d log es).declared,
        (settleFrom outcome d log es).log⟩
  | [], _, _ => rfl
  | e :: es, d, log => by
    unfold settleFrom
    cases d.absorb e with
    | error fault => rfl
    | ok d₁ => cases e <;> exact settleFrom_map f outcome es d₁ _

/-- Mapping a computation maps what it comes to. -/
theorem settle_map (f : α → β) (x : Emit ε α) (d : Declared) :
    (f <$> x).settle d = ⟨(x.settle d).outcome.map f, (x.settle d).declared, (x.settle d).log⟩ := by
  rw [map_eq]
  exact settleFrom_map f x.outcome x.effects d []

end Emit
end ChainedSdk
