/-
# The order of arguments

Of several arguments with one name the last one counts (`Arg.LastIn`), and it stands
where the first one of that name stood among those that are no less required than it
is (`Arg.Precedes`): so an argument that is given again may go over to the optional
ones, and takes with it the place that its name came to have first. These rules tell
all of an argument list, its parameters and its documentation
(`ofArgs_eq_iff_arranges`).

The dictionary of the arguments grows by one entry with each argument that is given.
So its entries are the last ones of their names (`mem_uniqueArgs_iff`), and their
names stand in the order in which they came up (`uniqueArgs_pairwise`). A list is
known by its elements and an order that they are in.

A list that is built from its own arguments has them in that order already, each name
once, so it stays as it is (`rebuilt_ofArgs`).

Key definitions: `Arg.LastIn`, `Arg.firstPlace`, `Arg.Precedes`, `ArgList.Arranges`,
`ArgList.rebuilt`.
Key theorems: `mem_uniqueArgs_iff`, `uniqueArgs_pairwise`, `arranges_ofArgs`,
`ofArgs_eq_iff_arranges`, `arguments_arranged`, `rebuilding_changes_nothing`.
-/
import ChainedSdk.Proofs.Arguments
import ChainedSdk.Proofs.Assembly
import Mathlib

namespace ChainedSdk

namespace Arg

/-- The argument is given, and none of its name is given after it. -/
def LastIn (xs : List (Option Arg)) (a : Arg) : Prop :=
  ∃ before after, xs = before ++ some a :: after ∧ ∀ b, some b ∈ after → b.name ≠ a.name

/-- The place at which an argument of some name is given first; missing arguments have
places too. -/
def firstPlace (xs : List (Option Arg)) (name : String) : Nat :=
  xs.findIdx fun x => x.any fun a => a.name = name

/-- One argument stands before another: a required one before an optional one, and of
two that are both required, or both optional, the one whose name is given first. -/
def Precedes (xs : List (Option Arg)) (a b : Arg) : Prop :=
  a.isOptional = false ∧ b.isOptional = true ∨
    a.isOptional = b.isOptional ∧ firstPlace xs a.name < firstPlace xs b.name

theorem Precedes.asymm {xs : List (Option Arg)} {a b : Arg} (h : Precedes xs a b) :
    ¬Precedes xs b a := by
  rintro (⟨hb, ha⟩ | ⟨hkind, hlt⟩)
  · rcases h with ⟨ha', -⟩ | ⟨hkind, -⟩
    · simp [ha] at ha'
    · simp [ha, hb] at hkind
  · rcases h with ⟨ha, hb⟩ | ⟨-, hlt'⟩
    · simp [ha, hb] at hkind
    · omega

end Arg

/-- **The argument list that is meant** by arguments some of which are missing or
repeated. -/
structure ArgList.Arranges (l : ArgList) (xs : List (Option Arg)) : Prop where
  names : ∀ name, name ∈ l.names ↔ ∃ a, some a ∈ xs ∧ a.name = name
  once : l.names.Nodup
  last : ∀ a ∈ l.args, a.LastIn xs
  order : l.args.Pairwise (Arg.Precedes xs)
  params : l.params = l.args.map Arg.param
  docs : l.docs = l.args.map Arg.doc

/-! ### Dictionaries that grow by an entry -/

namespace Assoc

variable {κ α : Type} [DecidableEq κ]

theorem keys_put (key : κ) (value : α) : ∀ d : List (κ × α), (put key value d).map (·.1) =
    if key ∈ d.map (·.1) then d.map (·.1) else d.map (·.1) ++ [key]
  | [] => rfl
  | (k, a) :: d => by
    unfold put
    by_cases hk : k = key
    · simp [hk]
    · have hiff : key ∈ ((k, a) :: d).map (·.1) ↔ key ∈ d.map (·.1) := by simp [Ne.symm hk]
      rw [if_neg hk, if_congr hiff rfl rfl, List.map_cons, keys_put key value d]
      split <;> rfl

theorem keys_put_nodup {key : κ} {value : α} {d : List (κ × α)} (h : (d.map (·.1)).Nodup) :
    ((put key value d).map (·.1)).Nodup := by
  rw [keys_put]
  by_cases hm : key ∈ d.map (·.1)
  · rwa [if_pos hm]
  · rw [if_neg hm]
    exact List.nodup_append'.mpr ⟨h, by simp, by simpa using hm⟩

theorem keys_ofList_nodup (es : List (κ × α)) : ((ofList es).map (·.1)).Nodup := by
  induction es using List.reverseRecOn with
  | nil => exact List.nodup_nil
  | append_singleton es e ih =>
    rw [ofList_concat]
    exact keys_put_nodup ih

/-- Of the entries with the key, the one that is put is all that is left. -/
theorem mem_put_iff {key : κ} {value : α} {e : κ × α} {d : List (κ × α)}
    (h : (d.map (·.1)).Nodup) :
    e ∈ put key value d ↔ e = (key, value) ∨ e ∈ d ∧ e.1 ≠ key := by
  have hput := get?_put key e.1 value d
  constructor
  · intro hm
    have hget := get?_of_mem (keys_put_nodup h) hm
    rw [hput] at hget
    by_cases hk : key = e.1
    · rw [if_pos hk] at hget
      exact Or.inl (Prod.ext hk.symm (Option.some.inj hget).symm)
    · rw [if_neg hk] at hget
      exact Or.inr ⟨mem_of_get? hget, Ne.symm hk⟩
  · intro hm
    refine mem_of_get? (hput.trans ?_)
    rcases hm with rfl | ⟨hm, hk⟩
    · exact if_pos rfl
    · rw [if_neg hk.symm]
      exact get?_of_mem h hm

end Assoc

/-! ### One more argument -/

section Growing

variable {xs : List (Option Arg)} {a b : Arg}

theorem uniqueArgs_concat_none : uniqueArgs (xs ++ [none]) = uniqueArgs xs := by
  unfold uniqueArgs
  rw [List.filterMap_append]
  simp

/-- The dictionary of arguments by their names. -/
theorem exists_dictionary (xs : List (Option Arg)) : ∃ d : List (String × Arg),
    (d.map (·.1)).Nodup ∧ (∀ e ∈ d, e.1 = e.2.name) ∧ uniqueArgs xs = d.map (·.2) ∧
      ∀ a : Arg, uniqueArgs (xs ++ [some a]) = (Assoc.put a.name a d).map (·.2) := by
  refine ⟨_, Assoc.keys_ofList_nodup ((xs.filterMap id).map fun a => (a.name, a)), fun e he => ?_,
    rfl, fun a => ?_⟩
  · obtain ⟨b, -, rfl⟩ := List.mem_map.mp (Assoc.mem_ofList he)
    rfl
  · unfold uniqueArgs
    rw [List.filterMap_append, List.map_append]
    exact congrArg _ (Assoc.ofList_concat _ (a.name, a))

theorem names_eq_keys {d : List (String × Arg)} (h : ∀ e ∈ d, e.1 = e.2.name) :
    (d.map (·.2)).map (·.name) = d.map (·.1) := by
  rw [List.map_map]
  exact List.map_congr_left fun e he => (h e he).symm

theorem mem_uniqueArgs_concat {x : Option Arg} :
    b ∈ uniqueArgs (xs ++ [x]) ↔ x = some b ∨ b ∈ uniqueArgs xs ∧ ∀ a ∈ x, a.name ≠ b.name := by
  cases x with
  | none => simp [uniqueArgs_concat_none]
  | some a =>
    obtain ⟨d, hnodup, hkeys, hxs, hnext⟩ := exists_dictionary xs
    simp only [hxs, hnext, List.mem_map, Assoc.mem_put_iff hnodup]
    constructor
    · rintro ⟨e, rfl | ⟨he, hne⟩, rfl⟩
      · exact Or.inl rfl
      · refine Or.inr ⟨⟨e, he, rfl⟩, ?_⟩
        rintro c ⟨⟩
        exact fun hname => hne ((hkeys e he).trans hname.symm)
    · rintro (h | ⟨⟨e, he, rfl⟩, hne⟩)
      · exact ⟨_, Or.inl rfl, Option.some.inj h⟩
      · exact ⟨e, Or.inr ⟨he, fun hkey => hne a rfl (hkey.symm.trans (hkeys e he))⟩, rfl⟩

/-- A name that is new comes last. -/
theorem names_uniqueArgs_concat : (uniqueArgs (xs ++ [some a])).map (·.name) =
    if a.name ∈ (uniqueArgs xs).map (·.name) then (uniqueArgs xs).map (·.name)
    else (uniqueArgs xs).map (·.name) ++ [a.name] := by
  obtain ⟨d, hnodup, hkeys, hxs, hnext⟩ := exists_dictionary xs
  have hkeys' : ∀ e ∈ Assoc.put a.name a d, e.1 = e.2.name := by
    intro e he
    rcases Assoc.mem_put he with rfl | he
    · rfl
    · exact hkeys e he
  rw [hnext, hxs, names_eq_keys hkeys, names_eq_keys hkeys', Assoc.keys_put]

theorem lastIn_concat {x : Option Arg} :
    b.LastIn (xs ++ [x]) ↔ x = some b ∨ b.LastIn xs ∧ ∀ a ∈ x, a.name ≠ b.name := by
  constructor
  · rintro ⟨before, after, heq, hafter⟩
    rcases List.eq_nil_or_concat' after with rfl | ⟨after, y, rfl⟩
    · exact Or.inl (List.cons.inj (List.append_inj' heq rfl).2).1
    · rw [← List.cons_append, ← List.append_assoc] at heq
      obtain ⟨rfl, hy⟩ := List.append_inj' heq rfl
      obtain ⟨rfl, -⟩ := List.cons.inj hy
      refine Or.inr ⟨⟨before, after, rfl, fun c hc => hafter c (List.mem_append_left _ hc)⟩, ?_⟩
      rintro a rfl
      exact hafter a (by simp)
  · rintro (rfl | ⟨⟨before, after, rfl, hafter⟩, hne⟩)
    · exact ⟨xs, [], rfl, by simp⟩
    · refine ⟨before, after ++ [x], by simp, fun c hc => ?_⟩
      rcases List.mem_append.mp hc with hc | hc
      · exact hafter c hc
      · exact hne c (List.mem_singleton.mp hc).symm

theorem firstPlace_lt {name : String} : Arg.firstPlace xs name < xs.length ↔
    ∃ a, some a ∈ xs ∧ a.name = name := by
  unfold Arg.firstPlace
  rw [List.findIdx_lt_length]
  constructor
  · rintro ⟨x, hx, hname⟩
    obtain ⟨a, rfl, hname⟩ := (Option.any_eq_true _ _).mp hname
    exact ⟨a, hx, of_decide_eq_true hname⟩
  · rintro ⟨a, ha, rfl⟩
    exact ⟨some a, ha, by simp⟩

theorem firstPlace_append {ys : List (Option Arg)} {name : String}
    (h : ∃ a, some a ∈ xs ∧ a.name = name) :
    Arg.firstPlace (xs ++ ys) name = Arg.firstPlace xs name := by
  have hlt := firstPlace_lt.mpr h
  unfold Arg.firstPlace at hlt ⊢
  rw [List.findIdx_append, if_pos hlt]

end Growing

/-! ### The arguments that count -/

/-- **The last argument of each name counts.** -/
theorem mem_uniqueArgs_iff {xs : List (Option Arg)} :
    ∀ {a : Arg}, a ∈ uniqueArgs xs ↔ a.LastIn xs := by
  induction xs using List.reverseRecOn with
  | nil => simp [uniqueArgs, Assoc.ofList, Arg.LastIn]
  | append_singleton xs x ih =>
    intro a
    rw [mem_uniqueArgs_concat, lastIn_concat, ih]

theorem mem_names_uniqueArgs {xs : List (Option Arg)} {name : String} :
    name ∈ (uniqueArgs xs).map (·.name) ↔ ∃ a, some a ∈ xs ∧ a.name = name := by
  induction xs using List.reverseRecOn with
  | nil => simp [uniqueArgs, Assoc.ofList]
  | append_singleton xs x ih =>
    cases x with
    | none => simpa [uniqueArgs_concat_none] using ih
    | some b =>
      have hstep : (∃ a, some a ∈ xs ++ [some b] ∧ a.name = name) ↔
          (∃ a, some a ∈ xs ∧ a.name = name) ∨ name = b.name := by
        constructor
        · rintro ⟨a, ha, rfl⟩
          rcases List.mem_append.mp ha with ha | ha
          · exact Or.inl ⟨a, ha, rfl⟩
          · obtain rfl : a = b := by simpa using ha
            exact Or.inr rfl
        · rintro (⟨a, ha, rfl⟩ | rfl)
          · exact ⟨a, List.mem_append_left _ ha, rfl⟩
          · exact ⟨b, by simp, rfl⟩
      rw [hstep, ← ih, names_uniqueArgs_concat]
      split
      case isTrue hb => exact ⟨Or.inl, fun h => h.elim id fun he => he ▸ hb⟩
      case isFalse => rw [List.mem_append, List.mem_singleton]

/-- **Names stand in the order in which they are first given.** -/
theorem uniqueArgs_pairwise (xs : List (Option Arg)) :
    ((uniqueArgs xs).map (·.name)).Pairwise fun m n =>
      Arg.firstPlace xs m < Arg.firstPlace xs n := by
  induction xs using List.reverseRecOn with
  | nil => exact List.Pairwise.nil
  | append_singleton xs x ih =>
    have hold : ((uniqueArgs xs).map (·.name)).Pairwise fun m n =>
        Arg.firstPlace (xs ++ [x]) m < Arg.firstPlace (xs ++ [x]) n := by
      refine ih.imp_of_mem fun hm hn hlt => ?_
      rwa [firstPlace_append (mem_names_uniqueArgs.mp hm),
        firstPlace_append (mem_names_uniqueArgs.mp hn)]
    cases x with
    | none => rwa [uniqueArgs_concat_none]
    | some a =>
      rw [names_uniqueArgs_concat]
      split
      case isTrue => exact hold
      case isFalse ha =>
        refine List.pairwise_append.mpr ⟨hold, List.pairwise_singleton _ _, fun m hm n hn => ?_⟩
        obtain rfl := List.mem_singleton.mp hn
        have hm := mem_names_uniqueArgs.mp hm
        have hnew : ¬Arg.firstPlace xs a.name < xs.length := fun hlt =>
          ha (mem_names_uniqueArgs.mpr (firstPlace_lt.mp hlt))
        have hle : xs.length ≤ Arg.firstPlace (xs ++ [some a]) a.name := by
          unfold Arg.firstPlace at hnew ⊢
          rw [List.findIdx_append, if_neg hnew]
          exact Nat.le_add_left _ _
        rw [firstPlace_append hm]
        exact (firstPlace_lt.mpr hm).trans_le hle

theorem names_uniqueArgs_nodup (xs : List (Option Arg)) : ((uniqueArgs xs).map (·.name)).Nodup :=
  (uniqueArgs_pairwise xs).imp fun hlt he => by simp [he] at hlt

/-! ### The whole list -/

theorem args_ofArgs_perm (xs : List (Option Arg)) :
    (ArgList.ofArgs xs).args.Perm (uniqueArgs xs) := by
  have hperm := List.filter_append_perm Arg.isOptional (uniqueArgs xs)
  exact List.perm_append_comm.trans hperm

/-- The arguments given come in the order that is meant. -/
theorem arranges_ofArgs (xs : List (Option Arg)) : (ArgList.ofArgs xs).Arranges xs where
  names name := by
    rw [← mem_names_uniqueArgs]
    exact ((args_ofArgs_perm xs).map _).mem_iff
  once := ((args_ofArgs_perm xs).map _).nodup_iff.mpr (names_uniqueArgs_nodup xs)
  last a ha := mem_uniqueArgs_iff.mp ((args_ofArgs_perm xs).mem_iff.mp ha)
  order := by
    have hplace : (uniqueArgs xs).Pairwise fun a b =>
        Arg.firstPlace xs a.name < Arg.firstPlace xs b.name := by
      have hnames := uniqueArgs_pairwise xs
      rwa [List.pairwise_map] at hnames
    -- within a group all are of one kind
    have hgroup : ∀ (p : Arg → Bool) (optional : Bool),
        (∀ a, p a = true → a.isOptional = optional) →
        ((uniqueArgs xs).filter p).Pairwise (Arg.Precedes xs) := by
      intro p optional hp
      refine (hplace.filter p).imp_of_mem fun ha hb hlt => Or.inr ⟨?_, hlt⟩
      rw [hp _ (List.mem_filter.mp ha).2, hp _ (List.mem_filter.mp hb).2]
    refine List.pairwise_append.mpr ⟨hgroup _ false ?_, hgroup _ true fun a h => h, ?_⟩
    · exact fun a h => by simpa using h
    · exact fun a ha b hb => Or.inl ⟨by simpa using (List.mem_filter.mp ha).2,
        (List.mem_filter.mp hb).2⟩
  params := rfl
  docs := rfl

/-- Two lists that are meant by the same arguments are the same. -/
theorem ArgList.Arranges.unique {xs : List (Option Arg)} {l m : ArgList} (hl : l.Arranges xs)
    (hm : m.Arranges xs) : l = m := by
  have hsub : ∀ {k k' : ArgList}, k.Arranges xs → k'.Arranges xs → ∀ a ∈ k.args, a ∈ k'.args := by
    intro k k' hk hk' a ha
    have hlast := hk.last a ha
    obtain ⟨b, hb, hname⟩ : ∃ b ∈ k'.args, b.name = a.name :=
      List.mem_map.mp ((hk'.names a.name).mpr ((hk.names a.name).mp (List.mem_map_of_mem ha)))
    have hab : b = a := List.inj_on_of_nodup_map (names_uniqueArgs_nodup xs)
      (mem_uniqueArgs_iff.mpr (hk'.last b hb)) (mem_uniqueArgs_iff.mpr hlast) hname
    exact hab ▸ hb
  have hperm : l.args.Perm m.args :=
    (List.perm_ext_iff_of_nodup (List.Nodup.of_map _ hl.once) (List.Nodup.of_map _ hm.once)).mpr
      fun a => ⟨hsub hl hm a, hsub hm hl a⟩
  have hargs : l.args = m.args :=
    hperm.eq_of_pairwise (fun a b _ _ hab hba => absurd hba hab.asymm) hl.order hm.order
  have hparams : l.params = m.params := by rw [hl.params, hm.params, hargs]
  have hdocs : l.docs = m.docs := by rw [hl.docs, hm.docs, hargs]
  cases l
  cases m
  simp_all

/-- **The rules tell all of an argument list.** -/
theorem ofArgs_eq_iff_arranges {xs : List (Option Arg)} {l : ArgList} :
    ArgList.ofArgs xs = l ↔ l.Arranges xs :=
  ⟨fun h => h ▸ arranges_ofArgs xs, fun h => (arranges_ofArgs xs).unique h⟩

/-- An argument that is given again, as a required one, keeps the place of its name. -/
example : (ArgList.ofArgs [some ⟨"id", .named "int", true, "", none⟩, none,
    some ⟨"first", .named "int", false, "", none⟩,
    some ⟨"id", .named "str", false, "", none⟩]).print = "id: str, first: int" := by
  decide +kernel

theorem isSome_default?_param (a : Arg) : a.param.default?.isSome = a.isOptional := by
  unfold Arg.param Arg.isOptional
  cases a.default? with
  | some value => simp
  | none => cases a.optional <;> simp

/-- **Argument lists.** The list of the arguments given is the one that the rules tell:
one argument for each name, the last one of that name; required ones before optional
ones, and those of a kind in the order in which their names are first given; with the
parameter and the documentation of each. So no two parameters have one name, and after
one with a default there is none without. -/
theorem arguments_arranged (xs : List (Option Arg)) :
    (∀ l : ArgList, ArgList.ofArgs xs = l ↔ l.Arranges xs) ∧
    ((ArgList.ofArgs xs).params.map (·.name)).Nodup ∧
    (ArgList.ofArgs xs).params.Pairwise fun p q =>
      p.default?.isSome = true → q.default?.isSome = true := by
  have hl := arranges_ofArgs xs
  refine ⟨fun l => ofArgs_eq_iff_arranges, ?_, ?_⟩
  · rw [params_names]
    exact hl.once
  · rw [hl.params, List.pairwise_map]
    refine hl.order.imp fun {a b} hab hdefault => ?_
    rw [isSome_default?_param] at hdefault ⊢
    rcases hab with ⟨ha, -⟩ | ⟨hkind, -⟩
    · simp [ha] at hdefault
    · rwa [← hkind]

/-! ### Building a list again -/

/-- The argument list of the arguments that an argument list has. -/
def ArgList.rebuilt (l : ArgList) : ArgList :=
  ofArgs (l.args.map some)

/-- Elements that are parted already stay where they are. -/
theorem filter_parted {α : Type} (p : α → Bool) (xs : List α) :
    let parted := xs.filter (fun x => !p x) ++ xs.filter p
    parted.filter (fun x => !p x) ++ parted.filter p = parted := by
  intro parted
  have hrequired : parted.filter (fun x => !p x) = xs.filter fun x => !p x := by
    simp [parted, List.filter_append, List.filter_filter]
  have hoptional : parted.filter p = xs.filter p := by
    simp [parted, List.filter_append, List.filter_filter]
  rw [hrequired, hoptional]

theorem rebuilt_ofArgs (xs : List (Option Arg)) :
    (ArgList.ofArgs xs).rebuilt = ArgList.ofArgs xs := by
  unfold ArgList.rebuilt
  rw [ofArgs_of_nodup (arranges_ofArgs xs).once]
  exact congrArg ArgList.ofOrdered (filter_parted Arg.isOptional (uniqueArgs xs))

/-- The parameter of an argument takes nothing, and has this for its default, exactly
if the argument is optional and has no default of its own. -/
theorem param_eq (a : Arg) : a.param.name = a.name ∧
    if a.optional = true ∧ a.default? = none then
      a.param.type? = some (.optional a.type) ∧ a.param.default? = some (.literal .null)
    else a.param.type? = some a.type ∧ a.param.default? = a.default? := by
  refine ⟨param_name a, ?_⟩
  unfold Arg.param
  cases hd : a.default? with
  | some value => simp
  | none =>
    cases ho : a.optional with
    | true => simp
    | false => simp

/-- **Rebuilding changes nothing.** An argument list that is built from arguments and
then, any number of times, from its own arguments is the same in its arguments,
parameters and documentation. Its arguments are as they were given: only in the
parameters does an optional argument without a default also take nothing, and this
once, however often the list is built. -/
theorem rebuilding_changes_nothing (xs : List (Option Arg)) :
    let l := ArgList.ofArgs xs
    l.rebuilt = l ∧ ∀ n : ℕ, let m := ArgList.rebuilt^[n] l
      m.args = l.args ∧ m.params = l.params ∧ m.docs = l.docs ∧
      List.Forall₂ (fun a p => some a ∈ xs ∧ p.name = a.name ∧
        if a.optional = true ∧ a.default? = none then
          p.type? = some (.optional a.type) ∧ p.default? = some (.literal .null)
        else p.type? = some a.type ∧ p.default? = a.default?) m.args m.params := by
  intro l
  have hfixed : l.rebuilt = l := rebuilt_ofArgs xs
  refine ⟨hfixed, fun n => ?_⟩
  rw [Function.iterate_fixed hfixed n]
  refine ⟨rfl, rfl, rfl, ?_⟩
  have hl := arranges_ofArgs xs
  rw [hl.params, List.forall₂_map_right_iff, List.forall₂_same]
  intro a ha
  obtain ⟨before, after, hgiven, -⟩ := hl.last a ha
  exact ⟨by simp [hgiven], param_eq a⟩

end ChainedSdk
