/-
# The fragments an operation needs are found

An operation needs the fragments that it spreads, at any depth, and those that these
need in turn (`GraphQL.Document.Needs`). The search for them goes through the spreads
in order and enters each fragment as soon as it comes upon it (`GraphQL.Visits`). It
does not count how deep it is, but every fragment is entered once, so that it ends; the
bound on the depth of `GraphQL.spreads` is never met (`GraphQL.visits_iff_spreads`).

What carries the proof is that the fragments found are those entered and not yet left
(`entered`), and those that are done, of which everything they spread is found
(`GraphQL.Document.Closed`). So a way through a fragment that is done leads to nothing
new (`GraphQL.Route.mem_found`): the fragments are found in the order of their first
routes (`GraphQL.Visits.inOrder`), where a route to a fragment is the positions of
the spreads that lead there and that is before another one like a word is in a
dictionary (`GraphQL.FirstRoute`).

The constants of operations then have the definitions of the fragments that are needed,
the last one of each name, and no others, and they are there exactly if all of these are
defined (`documents_self_contained`).

Key definitions: `GraphQL.Document.Needs`, `GraphQL.Visits`, `GraphQL.Route`,
`GraphQL.FirstRoute`, `GraphQL.Document.Collected`, `SelfContained`.
Key theorems: `GraphQL.visits_iff_spreads`, `GraphQL.Visits.inOrder`,
`GraphQL.Document.collected_of_visits`, `documents_self_contained`.
-/
import ChainedSdk.Generator
import ChainedSdk.Proofs.Arguments
import ChainedSdk.Proofs.Description
import Mathlib.Data.Finset.Card

namespace ChainedSdk
namespace GraphQL

/-! ### Spreads -/

mutual

/-- The names that a selection spreads, at any depth, in order. -/
def Selection.spreadNames : Selection → List String
  | .field _ _ _ _ selections => spreadNamesOf selections
  | .inline _ _ selections => spreadNamesOf selections
  | .spread name _ => [name]

/-- The names that selections spread, at any depth, in order. -/
def spreadNamesOf : List Selection → List String
  | [] => []
  | s :: rest => s.spreadNames ++ spreadNamesOf rest

end

/-- The names that a fragment spreads. -/
def Fragment.spreadNames (f : Fragment) : List String :=
  spreadNamesOf f.selections

/-- The definition of a fragment, of several with one name the last one. -/
def Document.fragment? (d : Document) (name : String) : Option Fragment :=
  d.fragments.reverse.find? (·.name = name)

/-- **A fragment is needed** for names that are spread if it is one of them, or if one
of them is a fragment that needs it. -/
inductive Document.Needs (d : Document) : List String → String → Prop
  | spread {names : List String} {name : String} : name ∈ names → d.Needs names name
  | inside {names : List String} {outer name : String} {f : Fragment} : outer ∈ names →
      d.fragment? outer = some f → d.Needs f.spreadNames name → d.Needs names name

theorem Document.Needs.mono {d : Document} {names names' : List String} {name : String}
    (h : d.Needs names name) (hsub : ∀ n ∈ names, n ∈ names') : d.Needs names' name := by
  cases h with
  | spread hm => exact .spread (hsub _ hm)
  | inside hm hf h => exact .inside (hsub _ hm) hf h

/-- What a needed fragment spreads is needed. -/
theorem Document.Needs.trans {d : Document} {names : List String} {outer name : String}
    {f : Fragment} (h : d.Needs names outer) (hf : d.fragment? outer = some f)
    (hm : name ∈ f.spreadNames) : d.Needs names name := by
  induction h with
  | spread ho => exact .inside ho hf (.spread hm)
  | inside ho hg _ ih => exact .inside ho hg (ih hf)

theorem Document.name_of_fragment? {d : Document} {name : String} {f : Fragment}
    (h : d.fragment? name = some f) : f.name = name := by
  simpa using List.find?_some h

/-- The table of the fragments holds the last definition of each name. -/
theorem Document.get?_fragmentTable (d : Document) (name : String) :
    Assoc.get? name d.fragmentTable = d.fragment? name := by
  unfold fragmentTable fragment?
  induction d.fragments using List.reverseRecOn with
  | nil => rfl
  | append_singleton fs f ih =>
    rw [List.map_append, Assoc.get?_ofList_append, ih, List.reverse_append]
    by_cases hf : f.name = name
    · simp [Assoc.ofList, Assoc.put, Assoc.get?, hf]
    · simp [Assoc.ofList, Assoc.put, Assoc.get?, hf]

/-! ### The search -/

/-- **The search for fragments**: spread after spread, and into a fragment at the first
spread of it. It starts with fragments that were found, and ends with those that are
found then, or with a name that has no definition. -/
inductive Visits (d : Document) : List String → List String → Found → Prop
  | done {found : List String} : Visits d found [] (.ok found)
  | seen {found names : List String} {name : String} {r : Found} : name ∈ found →
      Visits d found names r → Visits d found (name :: names) r
  | enters {found mid names : List String} {name : String} {f : Fragment} {r : Found} :
      name ∉ found → d.fragment? name = some f →
      Visits d (found ++ [name]) f.spreadNames (.ok mid) → Visits d mid names r →
      Visits d found (name :: names) r
  | fails {found names : List String} {name missing : String} {f : Fragment} :
      name ∉ found → d.fragment? name = some f →
      Visits d (found ++ [name]) f.spreadNames (.error missing) →
      Visits d found (name :: names) (.error missing)
  | missing {found names : List String} {name : String} : name ∉ found →
      d.fragment? name = none → Visits d found (name :: names) (.error name)

section Search

variable {d : Document} {found names : List String} {r r' : Found}

/-- A search has one end. -/
theorem Visits.unique (h : Visits d found names r) (h' : Visits d found names r') : r = r' := by
  induction h generalizing r' with
  | done =>
    cases h'
    rfl
  | seen hm _ ih =>
    cases h' with
    | seen _ h' => exact ih h'
    | enters hm' | fails hm' | missing hm' => exact absurd hm hm'
  | enters hm hf _ _ ihf ih =>
    cases h' with
    | seen hm' => exact absurd hm' hm
    | enters _ hf' h₁ h₂ =>
      cases hf.symm.trans hf'
      cases ihf h₁
      exact ih h₂
    | fails _ hf' h₁ =>
      cases hf.symm.trans hf'
      cases ihf h₁
    | missing _ hf' => cases hf.symm.trans hf'
  | fails hm hf _ ihf =>
    cases h' with
    | seen hm' => exact absurd hm' hm
    | enters _ hf' h₁ _ =>
      cases hf.symm.trans hf'
      cases ihf h₁
    | fails _ hf' h₁ =>
      cases hf.symm.trans hf'
      cases ihf h₁
      rfl
    | missing _ hf' => cases hf.symm.trans hf'
  | missing hm hf =>
    cases h' with
    | seen hm' => exact absurd hm' hm
    | enters _ hf' | fails _ hf' => cases hf.symm.trans hf'
    | missing => rfl

/-- Induction on a search that does not fail. -/
@[elab_as_elim]
theorem Visits.ok_induction
    {motive : ∀ found names out, Visits d found names (.ok out) → Prop}
    (done : ∀ {found}, motive found [] found .done)
    (seen : ∀ {found names name out} (hm : name ∈ found) (h : Visits d found names (.ok out)),
      motive found names out h → motive found (name :: names) out (.seen hm h))
    (enters : ∀ {found mid names name f out} (hm : name ∉ found)
      (hf : d.fragment? name = some f) (h₁ : Visits d (found ++ [name]) f.spreadNames (.ok mid))
      (h₂ : Visits d mid names (.ok out)), motive (found ++ [name]) f.spreadNames mid h₁ →
      motive mid names out h₂ → motive found (name :: names) out (.enters hm hf h₁ h₂))
    {out : List String} (h : Visits d found names (.ok out)) : motive found names out h := by
  suffices hr : ∀ {found names : List String} {r : Found} (h : Visits d found names r)
      {out : List String} (hout : r = .ok out), motive found names out (hout ▸ h) from hr h rfl
  intro found names r h
  induction h with
  | done =>
    rintro out ⟨⟩
    exact done
  | seen hm h ih =>
    rintro out rfl
    exact seen hm h (ih rfl)
  | enters hm hf h₁ h₂ ih₁ ih₂ =>
    rintro out rfl
    exact enters hm hf h₁ h₂ (ih₁ rfl) (ih₂ rfl)
  | fails | missing => rintro out ⟨⟩

/-- What was found stays found. -/
theorem Visits.isPrefix {out : List String} (h : Visits d found names (.ok out)) :
    found <+: out := by
  induction h using Visits.ok_induction with
  | done => exact List.prefix_rfl
  | seen _ _ ih => exact ih
  | enters _ _ _ _ ih₁ ih₂ => exact ((List.prefix_append _ _).trans ih₁).trans ih₂

end Search

/-- One step of the walk through selections. -/
def visit (enter : String → List String → Found) (found : List String) (name : String) :
    Found :=
  if found.contains name then .ok found else enter name found

mutual

theorem walkSelection_eq (enter : String → List String → Found) :
    ∀ (s : Selection) (found : List String),
      walkSelection enter found s = s.spreadNames.foldlM (visit enter) found
  | .field _ _ _ _ selections, found => by
    rw [walkSelection, Selection.spreadNames, walk_eq enter selections found]
  | .inline _ _ selections, found => by
    rw [walkSelection, Selection.spreadNames, walk_eq enter selections found]
  | .spread name _, found => by
    rw [walkSelection, Selection.spreadNames, List.foldlM_cons]
    simp only [List.foldlM_nil, bind_pure, visit]

/-- **The walk through selections** goes through the names that they spread. -/
theorem walk_eq (enter : String → List String → Found) :
    ∀ (selections : List Selection) (found : List String),
      walk enter found selections = (spreadNamesOf selections).foldlM (visit enter) found
  | [], found => by
    rw [walk, spreadNamesOf]
    rfl
  | s :: rest, found => by
    rw [walk, spreadNamesOf, List.foldlM_append, walkSelection_eq enter s found]
    cases s.spreadNames.foldlM (visit enter) found with
    | error name => rfl
    | ok found => exact walk_eq enter rest found

end

/-- The number of defined fragments that were not found yet. -/
def Document.unfound (d : Document) (found : List String) : Nat :=
  ((d.fragmentTable.map (·.1)).toFinset \ found.toFinset).card

theorem Document.unfound_mono (d : Document) {found found' : List String}
    (h : ∀ name ∈ found, name ∈ found') : d.unfound found' ≤ d.unfound found := by
  refine Finset.card_le_card (Finset.sdiff_subset_sdiff (Finset.Subset.refl _) fun name hm => ?_)
  exact List.mem_toFinset.mpr (h name (List.mem_toFinset.mp hm))

/-- Entering a fragment leaves fewer to be found. -/
theorem Document.unfound_lt (d : Document) {found : List String} {name : String} {f : Fragment}
    (hm : name ∉ found) (hf : d.fragment? name = some f) :
    d.unfound (found ++ [name]) < d.unfound found := by
  have hkey : name ∈ d.fragmentTable.map (·.1) := by
    rw [← d.get?_fragmentTable] at hf
    exact List.mem_map_of_mem (Assoc.mem_of_get? hf)
  refine Finset.card_lt_card (Finset.ssubset_iff_of_subset ?_ |>.mpr ⟨name, ?_, ?_⟩)
  · refine Finset.sdiff_subset_sdiff (Finset.Subset.refl _) fun n hn => ?_
    exact List.mem_toFinset.mpr (List.mem_append_left _ (List.mem_toFinset.mp hn))
  · simpa [hm] using hkey
  · simp

/-- The walk is the search, as deep as there are fragments to be found. -/
theorem visits_foldlM (d : Document) : ∀ (depth : Nat) (names found : List String),
    d.unfound found < depth →
    Visits d found names (names.foldlM (visit (enterFragment d.fragmentTable depth)) found)
  | 0, _, _, h => absurd h (Nat.not_lt_zero _)
  | _ + 1, [], found, _ => .done
  | depth + 1, name :: names, found, h => by
    rw [List.foldlM_cons, visit]
    by_cases hm : name ∈ found
    · rw [if_pos (by simpa using hm)]
      exact .seen hm (visits_foldlM d (depth + 1) names found h)
    · rw [if_neg (by simpa using hm), enterFragment, d.get?_fragmentTable]
      cases hf : d.fragment? name with
      | none => exact .missing hm hf
      | some f =>
        have hinside := visits_foldlM d depth f.spreadNames (found ++ [name])
          (by have := d.unfound_lt hm hf; omega)
        simp only [walk_eq]
        change Visits d found (name :: names) (f.spreadNames.foldlM _ _ >>= _)
        cases hr : f.spreadNames.foldlM (visit (enterFragment d.fragmentTable depth))
            (found ++ [name]) with
        | error missing =>
          rw [hr] at hinside
          exact .fails hm hf hinside
        | ok mid =>
          rw [hr] at hinside
          have hmid : d.unfound mid ≤ d.unfound found := d.unfound_mono fun n hn =>
            hinside.isPrefix.subset (List.mem_append_left _ hn)
          exact .enters hm hf hinside (visits_foldlM d (depth + 1) names mid (by omega))

/-- **The search ends**, and its end is that of the walk: the bound on the depth is
never met. -/
theorem visits_iff_spreads {d : Document} {selections : List Selection} {r : Found} :
    Visits d [] (spreadNamesOf selections) r ↔ spreads d.fragmentTable selections = r := by
  have hunfound : d.unfound [] < d.fragmentTable.length + 1 := by
    unfold Document.unfound
    have hcard := List.toFinset_card_le (d.fragmentTable.map (·.1))
    rw [List.length_map] at hcard
    simpa using Nat.lt_succ_of_le hcard
  have hspreads := visits_foldlM d _ (spreadNamesOf selections) [] hunfound
  rw [← walk_eq] at hspreads
  exact ⟨fun h => hspreads.unique h, fun h => h ▸ hspreads⟩

/-! ### What is found -/

/-- Everything that the fragments found spread is found, but for those that are
`entered` and not yet left. -/
def Document.Closed (d : Document) (entered found : List String) : Prop :=
  ∀ name ∈ found, name ∉ entered → ∀ f, d.fragment? name = some f →
    ∀ inner ∈ f.spreadNames, inner ∈ found

section Closed

variable {d : Document} {entered found : List String} {name : String} {f : Fragment}

theorem Document.Closed.weaken (h : d.Closed entered found) (name : String) :
    d.Closed (name :: entered) found :=
  fun n hm hn => h n hm fun he => hn (List.mem_cons_of_mem _ he)

theorem Document.Closed.enter (h : d.Closed entered found) (name : String) :
    d.Closed (name :: entered) (found ++ [name]) := by
  intro n hm hn f hf inner hinner
  obtain ⟨hname, hn⟩ := not_or.mp (List.mem_cons.not.mp hn)
  have hm : n ∈ found := by simpa [hname] using hm
  exact List.mem_append_left _ (h n hm hn f hf inner hinner)

/-- A fragment may be left when everything that it spreads was found. -/
theorem Document.Closed.leave (h : d.Closed (name :: entered) found)
    (hf : d.fragment? name = some f) (hspread : ∀ inner ∈ f.spreadNames, inner ∈ found) :
    d.Closed entered found := by
  intro n hm hn g hg
  by_cases hname : n = name
  · subst hname
    cases hf.symm.trans hg
    exact hspread
  · exact h n hm (by simp [hname, hn]) g hg

end Closed

/-- **What a search leaves**: all the names that it goes through are found, and
everything that the fragments spread that it has entered. -/
theorem Visits.closed {d : Document} {found names out : List String}
    (h : Visits d found names (.ok out)) {entered : List String} (hc : d.Closed entered found) :
    d.Closed entered out ∧ ∀ name ∈ names, name ∈ out := by
  induction h using Visits.ok_induction generalizing entered with
  | done => exact ⟨hc, fun _ hm => absurd hm (by simp)⟩
  | seen hm h ih =>
    obtain ⟨hclosed, hnames⟩ := ih hc
    exact ⟨hclosed, List.forall_mem_cons.mpr ⟨h.isPrefix.subset hm, hnames⟩⟩
  | enters hm hf h₁ h₂ ih₁ ih₂ =>
    obtain ⟨hmid, hspread⟩ := ih₁ (hc.enter _)
    obtain ⟨hclosed, hnames⟩ := ih₂ (hmid.leave hf hspread)
    exact ⟨hclosed, List.forall_mem_cons.mpr
      ⟨h₂.isPrefix.subset (h₁.isPrefix.subset (by simp)), hnames⟩⟩

/-- What is found new is needed and defined, and was not found before. -/
theorem Visits.sound {d : Document} {found names out : List String}
    (h : Visits d found names (.ok out)) (hn : found.Nodup) :
    out.Nodup ∧ ∀ name ∈ out, name ∈ found ∨
      d.Needs names name ∧ ∃ f, d.fragment? name = some f := by
  induction h using Visits.ok_induction with
  | done => exact ⟨hn, fun _ hm => .inl hm⟩
  | seen _ _ ih =>
    obtain ⟨hnodup, hout⟩ := ih hn
    exact ⟨hnodup, fun n hm => (hout n hm).imp_right fun ⟨hneed, hdef⟩ =>
      ⟨hneed.mono fun _ => List.mem_cons_of_mem _, hdef⟩⟩
  | @enters found mid names name f out hm hf h₁ h₂ ih₁ ih₂ =>
    have hentered : (found ++ [name]).Nodup := by
      rw [← List.concat_eq_append]
      exact hn.concat hm
    obtain ⟨hnodup₁, hmid⟩ := ih₁ hentered
    obtain ⟨hnodup, hout⟩ := ih₂ hnodup₁
    refine ⟨hnodup, fun n hn => ?_⟩
    rcases hout n hn with hn | ⟨hneed, hdef⟩
    · rcases hmid n hn with hn | ⟨hneed, hdef⟩
      · rcases List.mem_append.mp hn with hn | hn
        · exact .inl hn
        · cases List.mem_singleton.mp hn
          exact .inr ⟨.spread List.mem_cons_self, f, hf⟩
      · exact .inr ⟨.inside List.mem_cons_self hf hneed, hdef⟩
    · exact .inr ⟨hneed.mono fun _ => List.mem_cons_of_mem _, hdef⟩

/-- The name that a search ends with is needed and has no definition. -/
theorem Visits.missing_of_error {d : Document} {found names : List String} {missing : String}
    (h : Visits d found names (.error missing)) :
    d.Needs names missing ∧ d.fragment? missing = none := by
  suffices hr : ∀ {found names : List String} {r : Found}, Visits d found names r →
      r = .error missing → d.Needs names missing ∧ d.fragment? missing = none from hr h rfl
  clear h
  intro found names r h
  induction h with
  | done => rintro ⟨⟩
  | seen _ _ ih | enters _ _ _ _ _ ih =>
    intro hr
    exact (ih hr).imp_left fun hneed => hneed.mono fun _ => List.mem_cons_of_mem _
  | fails _ hf _ ih =>
    rintro ⟨⟩
    exact (ih rfl).imp_left fun hneed => .inside List.mem_cons_self hf hneed
  | missing _ hf =>
    rintro ⟨⟩
    exact ⟨.spread List.mem_cons_self, hf⟩

/-- What is needed is found where the search has left all that it has entered. -/
theorem Document.Needs.mem_of_closed {d : Document} {names found : List String} {name : String}
    (h : d.Needs names name) (hc : d.Closed [] found) (hnames : ∀ n ∈ names, n ∈ found) :
    name ∈ found := by
  induction h with
  | spread hm => exact hnames _ hm
  | inside hm hf _ ih => exact ih (hc _ (hnames _ hm) (by simp) _ hf)

/-! ### The order in which fragments are found -/

/-- **A route to a name** among names that are spread: the position of the spread that
has it, behind the positions of the spreads of the fragments around, outermost first.
Inside of the fragments `entered`, none of these is entered. -/
inductive Route (d : Document) : List String → List String → List Nat → String → Prop
  | here {entered names : List String} {name : String} : Route d entered (name :: names) [0] name
  | inside {entered names : List String} {outer name : String} {path : List Nat} {f : Fragment} :
      outer ∉ entered → d.fragment? outer = some f →
      Route d (outer :: entered) f.spreadNames path name →
      Route d entered (outer :: names) (0 :: path) name
  | next {entered names : List String} {first name : String} {i : Nat} {path : List Nat} :
      Route d entered names (i :: path) name →
      Route d entered (first :: names) ((i + 1) :: path) name

/-- The first route to a name: none comes before it, as words do in a dictionary. -/
structure FirstRoute (d : Document) (entered names : List String) (path : List Nat)
    (name : String) : Prop where
  route : Route d entered names path name
  least : ∀ {path' : List Nat}, Route d entered names path' name → ¬ path' < path

/-- The first route to a name comes before the first one to another. -/
def Before (d : Document) (entered names : List String) (m n : String) : Prop :=
  ∃ p q, FirstRoute d entered names p m ∧ FirstRoute d entered names q n ∧ p < q

section Routes

variable {d : Document} {entered found names : List String} {outer m n : String}
  {p q : List Nat} {i : Nat} {f : Fragment}

theorem Route.ne_nil (h : Route d entered names p n) : p ≠ [] := by
  cases h <;> simp

/-- **Routes through what is done lead to nothing new.** -/
theorem Route.mem_found (h : Route d entered names p n) (hc : d.Closed entered found)
    (hnames : ∀ name ∈ names, name ∈ found) : n ∈ found := by
  induction h with
  | here => exact hnames _ List.mem_cons_self
  | inside hout hf _ ih => exact ih (hc.weaken _) (hc _ (hnames _ List.mem_cons_self) hout _ hf)
  | next _ ih => exact ih hc fun name hm => hnames name (List.mem_cons_of_mem _ hm)

theorem FirstRoute.here : FirstRoute d entered (n :: names) [0] n where
  route := .here
  least h := by
    cases h with
    | here => exact lt_irrefl _
    | inside _ _ _ | next _ => simp [List.cons_lt_cons_iff]

theorem FirstRoute.inside (h : FirstRoute d (outer :: entered) f.spreadNames p n)
    (hout : outer ∉ entered) (hf : d.fragment? outer = some f) (hne : n ≠ outer) :
    FirstRoute d entered (outer :: names) (0 :: p) n where
  route := .inside hout hf h.route
  least h' := by
    cases h' with
    | here => exact absurd rfl hne
    | inside _ hf' h' =>
      cases hf.symm.trans hf'
      simpa [List.cons_lt_cons_iff] using h.least h'
    | next _ => simp [List.cons_lt_cons_iff]

/-- Behind another spread, a route is the first one if that spread does not lead to
the name. -/
theorem FirstRoute.next (h : FirstRoute d entered names (i :: p) n)
    (hn : ∀ path, ¬ Route d entered [outer] path n) :
    FirstRoute d entered (outer :: names) ((i + 1) :: p) n where
  route := .next h.route
  least h' := by
    cases h' with
    | here => exact absurd .here (hn _)
    | inside hout hf h' => exact absurd (.inside hout hf h') (hn _)
    | next h' => simpa [List.cons_lt_cons_iff] using h.least h'

/-- A name that is spread first comes before all others. -/
theorem Before.here (h : ∃ p, FirstRoute d entered (m :: names) p n) (hne : n ≠ m) :
    Before d entered (m :: names) m n := by
  obtain ⟨p, hp⟩ := h
  refine ⟨[0], p, .here, hp, ?_⟩
  cases hp.route with
  | here => exact absurd rfl hne
  | @inside _ _ _ _ path _ _ _ h =>
    obtain ⟨i, path, rfl⟩ := List.exists_cons_of_ne_nil h.ne_nil
    simp
  | next _ => simp [List.cons_lt_cons_iff]

theorem Before.inside (h : Before d (outer :: entered) f.spreadNames m n)
    (hout : outer ∉ entered) (hf : d.fragment? outer = some f) (hm : m ≠ outer) (hn : n ≠ outer) :
    Before d entered (outer :: names) m n := by
  obtain ⟨p, q, hp, hq, hlt⟩ := h
  exact ⟨0 :: p, 0 :: q, hp.inside hout hf hm, hq.inside hout hf hn,
    List.cons_lt_cons_iff.mpr (.inr ⟨rfl, hlt⟩)⟩

theorem Before.next (h : Before d entered names m n)
    (hm : ∀ path, ¬ Route d entered [outer] path m)
    (hn : ∀ path, ¬ Route d entered [outer] path n) :
    Before d entered (outer :: names) m n := by
  obtain ⟨p, q, hp, hq, hlt⟩ := h
  obtain ⟨i, p, rfl⟩ := List.exists_cons_of_ne_nil hp.route.ne_nil
  obtain ⟨j, q, rfl⟩ := List.exists_cons_of_ne_nil hq.route.ne_nil
  refine ⟨_, _, hp.next hm, hq.next hn, ?_⟩
  simpa [List.cons_lt_cons_iff] using hlt

/-- The names `new` are found in order, where `found` were found before: there is a first
route to each, and these routes come one after the other. -/
structure InOrder (d : Document) (entered names found new : List String) : Prop where
  fresh : ∀ n ∈ new, n ∉ found
  first : ∀ n ∈ new, ∃ p, FirstRoute d entered names p n
  before : new.Pairwise (Before d entered names)

section InOrder

variable {new new₁ new₂ : List String}

theorem InOrder.ne (h : InOrder d entered names (found ++ [outer]) new) : ∀ n ∈ new, n ≠ outer :=
  fun n hn he => h.fresh n hn (by simp [he])

/-- What is found behind a spread that does not lead there. -/
theorem InOrder.exists_next (h : InOrder d entered names found new)
    (hskip : ∀ n ∈ new, ∀ path, ¬ Route d entered [outer] path n) :
    ∀ n ∈ new, ∃ i p, FirstRoute d entered (outer :: names) ((i + 1) :: p) n := by
  intro n hn
  obtain ⟨p, hp⟩ := h.first n hn
  obtain ⟨i, p, rfl⟩ := List.exists_cons_of_ne_nil hp.route.ne_nil
  exact ⟨i, p, hp.next (hskip n hn)⟩

theorem InOrder.next (h : InOrder d entered names found new)
    (hskip : ∀ n ∈ new, ∀ path, ¬ Route d entered [outer] path n) :
    InOrder d entered (outer :: names) found new where
  fresh := h.fresh
  first n hn := by
    obtain ⟨i, p, hp⟩ := h.exists_next hskip n hn
    exact ⟨_, hp⟩
  before := h.before.imp_of_mem fun hm hn hlt => hlt.next (hskip _ hm) (hskip _ hn)

/-- What is found inside of a fragment, and the fragment itself. -/
theorem InOrder.exists_inside (h : InOrder d (outer :: entered) f.spreadNames (found ++ [outer]) new)
    (hout : outer ∉ entered) (hf : d.fragment? outer = some f) :
    ∀ n ∈ outer :: new, ∃ p, FirstRoute d entered (outer :: names) (0 :: p) n := by
  refine List.forall_mem_cons.mpr ⟨⟨[], .here⟩, fun n hn => ?_⟩
  obtain ⟨p, hp⟩ := h.first n hn
  exact ⟨p, hp.inside hout hf (h.ne n hn)⟩

theorem InOrder.inside (h : InOrder d (outer :: entered) f.spreadNames (found ++ [outer]) new)
    (hm : outer ∉ found) (hout : outer ∉ entered) (hf : d.fragment? outer = some f) :
    InOrder d entered (outer :: names) found (outer :: new) where
  fresh := List.forall_mem_cons.mpr ⟨hm, fun n hn hfound =>
    h.fresh n hn (List.mem_append_left _ hfound)⟩
  first n hn := by
    obtain ⟨p, hp⟩ := h.exists_inside hout hf n hn
    exact ⟨_, hp⟩
  before := by
    refine List.pairwise_cons.mpr ⟨fun n hn => ?_, ?_⟩
    · obtain ⟨p, hp⟩ := h.exists_inside hout hf n (List.mem_cons_of_mem _ hn)
      exact Before.here ⟨_, hp⟩ (h.ne n hn)
    · exact h.before.imp_of_mem fun hm hn hlt => hlt.inside hout hf (h.ne _ hm) (h.ne _ hn)

/-- What is found inside of a fragment comes before what is found behind its spread. -/
theorem InOrder.append (h₁ : InOrder d entered (outer :: names) found new₁)
    (h₂ : InOrder d entered names (found ++ new₁) new₂)
    (hinside : ∀ n ∈ new₁, ∃ p, FirstRoute d entered (outer :: names) (0 :: p) n)
    (hskip : ∀ n ∈ new₂, ∀ path, ¬ Route d entered [outer] path n) :
    InOrder d entered (outer :: names) found (new₁ ++ new₂) where
  fresh n hn := by
    rcases List.mem_append.mp hn with hn | hn
    · exact h₁.fresh n hn
    · exact fun hfound => h₂.fresh n hn (List.mem_append_left _ hfound)
  first n hn := by
    rcases List.mem_append.mp hn with hn | hn
    · exact h₁.first n hn
    · exact (h₂.next hskip).first n hn
  before := by
    refine List.pairwise_append.mpr ⟨h₁.before, (h₂.next hskip).before, fun m hm n hn => ?_⟩
    obtain ⟨p, hp⟩ := hinside m hm
    obtain ⟨i, q, hq⟩ := h₂.exists_next hskip n hn
    exact ⟨_, _, hp, hq, List.cons_lt_cons_iff.mpr (.inl (Nat.succ_pos i))⟩

end InOrder

/-- **The fragments are found in the order of their first routes.** -/
theorem Visits.inOrder {out : List String} (h : Visits d found names (.ok out))
    (hentered : ∀ name ∈ entered, name ∈ found) (hc : d.Closed entered found) :
    ∃ new, out = found ++ new ∧ InOrder d entered names found new := by
  induction h using Visits.ok_induction generalizing entered with
  | done => exact ⟨[], (List.append_nil _).symm, by simp, by simp, .nil⟩
  | @seen found names name out hm h ih =>
    obtain ⟨new, rfl, hnew⟩ := ih hentered hc
    -- the spread leads only to what was found before
    refine ⟨new, rfl, hnew.next fun n hn path hroute => hnew.fresh n hn ?_⟩
    exact hroute.mem_found hc (by simpa using hm)
  | @enters found mid names name f out hm hf h₁ h₂ ih₁ ih₂ =>
    have hout : name ∉ entered := fun he => hm (hentered name he)
    obtain ⟨hmid, hspread⟩ := h₁.closed (hc.enter name)
    have hleft := hmid.leave hf hspread
    obtain ⟨new₁, rfl, hnew₁⟩ := ih₁ (List.forall_mem_cons.mpr
      ⟨by simp, fun n hn => List.mem_append_left _ (hentered n hn)⟩) (hc.enter name)
    obtain ⟨new₂, rfl, hnew₂⟩ := ih₂ (fun n hn => by simp [hentered n hn]) hleft
    -- what the fragment leads to was found inside of it
    have hskip : ∀ n ∈ new₂, ∀ path, ¬ Route d entered [name] path n := fun n hn path hroute =>
      hnew₂.fresh n hn (hroute.mem_found hleft (by simp))
    refine ⟨name :: new₁ ++ new₂, by simp, ?_⟩
    refine (hnew₁.inside hm hout hf).append ?_ (hnew₁.exists_inside hout hf) hskip
    simpa using hnew₂

end Routes

/-! ### The result of the search -/

/-- **The fragments that names need**: each once, in the order of their first routes,
which is that of a walk that enters each fragment as soon as it comes upon it. -/
structure Document.Collected (d : Document) (names found : List String) : Prop where
  nodup : found.Nodup
  mem_iff : ∀ name, name ∈ found ↔ d.Needs names name
  before : found.Pairwise (Before d [] names)

/-- **A search from nothing** finds the fragments that are needed, and all of them are
defined. -/
theorem Document.collected_of_visits {d : Document} {names found : List String}
    (h : Visits d [] names (.ok found)) :
    d.Collected names found ∧ ∀ name ∈ found, ∃ f, d.fragment? name = some f := by
  have hc : d.Closed [] [] := fun _ hm => absurd hm (by simp)
  obtain ⟨hnodup, hsound⟩ := h.sound List.nodup_nil
  obtain ⟨hclosed, hnames⟩ := h.closed hc
  obtain ⟨_, hnew, horder⟩ := h.inOrder (fun _ hm => absurd hm (by simp)) hc
  rw [List.nil_append] at hnew
  have hbefore := hnew ▸ horder.before
  have hneeds : ∀ name ∈ found, d.Needs names name ∧ ∃ f, d.fragment? name = some f :=
    fun name hm => (hsound name hm).resolve_left (by simp)
  exact ⟨⟨hnodup, fun name => ⟨fun hm => (hneeds name hm).1,
    fun hneed => hneed.mem_of_closed hclosed hnames⟩, hbefore⟩, fun name hm => (hneeds name hm).2⟩

end GraphQL

/-! ### Constants -/

section Constants

open Code (Statement)
open GraphQL (Document Fragment Visits Found spreads)

/-- The names that an operation spreads. -/
def SdkOperation.spreadNames (o : SdkOperation) : List String :=
  GraphQL.spreadNamesOf o.definition.selections

/-- **A constant stands for itself**: below the operation it has the fragments that the
operation needs, the definitions that count, and so every fragment that is spread in
the constant. -/
structure SelfContained (d : Document) (o : SdkOperation) (s : Statement)
    (fragments : List Fragment) : Prop where
  text : s = .text o.documentName
    (Text.joinWith "\n\n" (o.definition.print :: fragments.map Fragment.print))
  counts : ∀ f ∈ fragments, d.fragment? f.name = some f
  collected : d.Collected o.spreadNames (fragments.map (·.name))
  spread : ∀ name ∈ o.spreadNames ++ fragments.flatMap (·.spreadNames),
    name ∈ fragments.map (·.name)

variable {d : Document} {o : SdkOperation}

/-- A search fails exactly if a fragment is needed that is not defined. -/
theorem spreads_error_iff : (∃ name, spreads d.fragmentTable o.definition.selections = .error name)
    ↔ ∃ name, d.Needs o.spreadNames name ∧ d.fragment? name = none := by
  constructor
  · rintro ⟨name, h⟩
    exact ⟨name, (GraphQL.visits_iff_spreads.mpr h).missing_of_error⟩
  · rintro ⟨name, hneed, hnone⟩
    cases h : spreads d.fragmentTable o.definition.selections with
    | error missing => exact ⟨missing, rfl⟩
    | ok found =>
      obtain ⟨hcollected, hdefined⟩ :=
        Document.collected_of_visits (GraphQL.visits_iff_spreads.mpr h)
      obtain ⟨f, hf⟩ := hdefined name ((hcollected.mem_iff name).mpr hneed)
      cases hnone.symm.trans hf

theorem Document.map_name_filterMap : ∀ {names : List String},
    (∀ name ∈ names, ∃ f, d.fragment? name = some f) →
    (names.filterMap fun name => Assoc.get? name d.fragmentTable).map (·.name) = names
  | [], _ => rfl
  | name :: names, h => by
    obtain ⟨⟨f, hf⟩, h⟩ := List.forall_mem_cons.mp h
    rw [List.filterMap_cons, d.get?_fragmentTable, hf]
    simp only [List.map_cons]
    rw [Document.map_name_filterMap h, Document.name_of_fragment? hf]

/-- **The constant of an operation** stands for itself. -/
theorem selfContained_of_operationDocument {s : Statement}
    (h : operationDocument d.fragmentTable o = .ok s) :
    ∃ fragments, SelfContained d o s fragments := by
  unfold operationDocument at h
  cases hr : spreads d.fragmentTable o.definition.selections with
  | error missing =>
    rw [hr] at h
    cases h
  | ok found =>
    rw [hr] at h
    cases h
    obtain ⟨hcollected, hdefined⟩ :=
      Document.collected_of_visits (GraphQL.visits_iff_spreads.mpr hr)
    have hnames := Document.map_name_filterMap hdefined
    have hcounts : ∀ f ∈ found.filterMap fun name => Assoc.get? name d.fragmentTable,
        d.fragment? f.name = some f := by
      intro f hf
      obtain ⟨name, -, hget⟩ := List.mem_filterMap.mp hf
      rw [d.get?_fragmentTable] at hget
      rwa [Document.name_of_fragment? hget]
    refine ⟨_, rfl, hcounts, hnames.symm ▸ hcollected, fun name hm => ?_⟩
    rw [hnames, hcollected.mem_iff]
    rcases List.mem_append.mp hm with hm | hm
    · exact .spread hm
    · obtain ⟨f, hf, hm⟩ := List.mem_flatMap.mp hm
      have hfound : f.name ∈ found := hnames ▸ List.mem_map_of_mem hf
      exact ((hcollected.mem_iff _).mp hfound).trans (hcounts f hf) hm

/-- An operation has no constant exactly if a fragment is needed that is not defined,
and the error names one. -/
theorem operationDocument_error_iff {e : GenerationError} :
    operationDocument d.fragmentTable o = .error e ↔
      ∃ name, spreads d.fragmentTable o.definition.selections = .error name
        ∧ e = .unknownFragment name o.name := by
  unfold operationDocument
  cases spreads d.fragmentTable o.definition.selections with
  | error missing => simp [eq_comm]
  | ok found => simp

theorem exists_error_of_mapM {ε α β : Type} {f : α → Except ε β} {e : ε} : ∀ {xs : List α},
    xs.mapM f = .error e → ∃ x ∈ xs, f x = .error e
  | [], h => by cases h
  | x :: xs, h => by
    rw [List.mapM_cons] at h
    cases hx : f x with
    | error e' =>
      rw [hx] at h
      cases h
      exact ⟨x, List.mem_cons_self, hx⟩
    | ok y =>
      rw [hx] at h
      cases hxs : xs.mapM f with
      | error e' =>
        rw [hxs] at h
        cases h
        obtain ⟨x', hm, hx'⟩ := exists_error_of_mapM hxs
        exact ⟨x', List.mem_cons_of_mem _ hm, hx'⟩
      | ok ys =>
        rw [hxs] at h
        cases h

/-- **Constants stand for themselves.** The search for the fragments of an operation
ends, with those that are needed, each once and in the order in which they come first,
or with one that is needed and not defined, if there is one. So the constants of
operations are there exactly if all the fragments are defined that are needed; each has
the definitions of those that its operation needs, and everything that is spread in it. -/
theorem documents_self_contained (d : Document) (os : List SdkOperation) :
    (∀ (o : SdkOperation) (r : Found), Visits d [] o.spreadNames r ↔
      spreads d.fragmentTable o.definition.selections = r)
    ∧ (∀ (o : SdkOperation) (found : List String),
      spreads d.fragmentTable o.definition.selections = .ok found →
        d.Collected o.spreadNames found)
    ∧ (∀ o : SdkOperation,
      (∃ name, spreads d.fragmentTable o.definition.selections = .error name) ↔
        ∃ name, d.Needs o.spreadNames name ∧ d.fragment? name = none)
    ∧ ((∃ e, operationDocuments d os = .error e) ↔
      ∃ o ∈ os, ∃ name, d.Needs o.spreadNames name ∧ d.fragment? name = none)
    ∧ (∀ e, operationDocuments d os = .error e →
      ∃ o ∈ os, ∃ name, e = .unknownFragment name o.name
        ∧ d.Needs o.spreadNames name ∧ d.fragment? name = none)
    ∧ ∀ documents, operationDocuments d os = .ok documents →
      List.Forall₂ (fun o s => ∃ fragments, SelfContained d o s fragments) os documents := by
  have herror : ∀ e, operationDocuments d os = .error e →
      ∃ o ∈ os, ∃ name, e = .unknownFragment name o.name
        ∧ d.Needs o.spreadNames name ∧ d.fragment? name = none := by
    intro e he
    obtain ⟨o, ho, he⟩ := exists_error_of_mapM he
    obtain ⟨name, hname, rfl⟩ := operationDocument_error_iff.mp he
    exact ⟨o, ho, name, rfl, (GraphQL.visits_iff_spreads.mpr hname).missing_of_error⟩
  refine ⟨fun o r => GraphQL.visits_iff_spreads, fun o found h => ?_, fun o => spreads_error_iff,
    ⟨?_, ?_⟩, herror, fun documents h => ?_⟩
  · exact (Document.collected_of_visits (GraphQL.visits_iff_spreads.mpr h)).1
  · rintro ⟨e, he⟩
    obtain ⟨o, ho, name, -, hmissing⟩ := herror e he
    exact ⟨o, ho, name, hmissing⟩
  · rintro ⟨o, ho, hmissing⟩
    cases h : operationDocuments d os with
    | error e => exact ⟨e, rfl⟩
    | ok documents =>
      obtain ⟨name, hname⟩ := spreads_error_iff.mpr hmissing
      obtain ⟨s, hs⟩ := exists_of_forall₂ (mapM_except_eq_ok.mp h) ho
      cases hs.symm.trans (operationDocument_error_iff.mpr ⟨name, hname, rfl⟩)
  · exact (mapM_except_eq_ok.mp h).imp fun _ _ hs => selfContained_of_operationDocument hs

/-- Two fragments that spread each other are found once each, the one first that is
spread first. -/
example : spreads
    [("A", ⟨"A", "Team", [], [.inline none [] [.spread "B" []]]⟩),
      ("B", ⟨"B", "Team", [], [.field none "owner" [] [] [.spread "A" []]]⟩)]
    [.spread "B" [], .spread "A" []] = .ok ["B", "A"] := rfl

end Constants

end ChainedSdk
