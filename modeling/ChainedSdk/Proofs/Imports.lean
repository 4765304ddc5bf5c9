/-
# The imports of the scalars used

The imports of a registry are a sorted list without repetitions, so they are
known once it is known which imports are among them (`Text.sortedSet_eq_iff`).
Marking scalars as used adds their imports and takes none away
(`mem_usedImports_markAll`): a registry in which more scalars were used before gives
the same imports as another one exactly if the imports from before are among those
of the other one (`usedImports_markAll_eq_iff`).

Key definitions: `ScalarRegistry.markAll`.
Key theorems: `Text.sortedSet_eq_iff`, `usedImports_markAll_eq_iff`.
-/
import ChainedSdk.Proofs.Emission
import Mathlib.Data.List.Sort
import Mathlib.Data.String.Basic

namespace ChainedSdk

namespace Text

theorem mem_insertSorted {s x : String} : ∀ {ts : List String},
    x ∈ insertSorted s ts ↔ x = s ∨ x ∈ ts
  | [] => by simp [insertSorted]
  | t :: ts => by
    unfold insertSorted
    by_cases he : s = t
    · rw [if_pos he, he, List.mem_cons, or_self_left]
    · rw [if_neg he]
      by_cases hlt : s < t
      · rw [if_pos hlt, List.mem_cons]
      · rw [if_neg hlt, List.mem_cons, mem_insertSorted, List.mem_cons]
        tauto

theorem insertSorted_pairwise {s : String} : ∀ {ts : List String}, ts.Pairwise (· < ·) →
    (insertSorted s ts).Pairwise (· < ·)
  | [], _ => List.pairwise_singleton _ _
  | t :: ts, h => by
    obtain ⟨ht, hts⟩ := List.pairwise_cons.mp h
    unfold insertSorted
    by_cases he : s = t
    · rw [if_pos he]
      exact h
    · rw [if_neg he]
      by_cases hlt : s < t
      · rw [if_pos hlt]
        refine List.pairwise_cons.mpr ⟨fun x hx => ?_, h⟩
        rcases List.mem_cons.mp hx with rfl | hx
        · exact hlt
        · exact lt_trans hlt (ht x hx)
      · rw [if_neg hlt]
        refine List.pairwise_cons.mpr ⟨fun x hx => ?_, insertSorted_pairwise hts⟩
        rcases mem_insertSorted.mp hx with rfl | hx
        · exact lt_of_le_of_ne (not_lt.mp hlt) (Ne.symm he)
        · exact ht x hx

theorem mem_sortedSet {x : String} : ∀ {xs : List String}, x ∈ sortedSet xs ↔ x ∈ xs
  | [] => Iff.rfl
  | y :: ys => by
    show x ∈ insertSorted y (sortedSet ys) ↔ _
    rw [mem_insertSorted, mem_sortedSet, List.mem_cons]

theorem sortedSet_pairwise : ∀ xs : List String, (sortedSet xs).Pairwise (· < ·)
  | [] => .nil
  | _ :: ys => insertSorted_pairwise (sortedSet_pairwise ys)

/-- **Sets of texts.** Two sorted lists without repetitions are equal exactly if
they have the same elements. -/
theorem sortedSet_eq_iff {xs ys : List String} :
    sortedSet xs = sortedSet ys ↔ ∀ x, x ∈ xs ↔ x ∈ ys := by
  constructor
  · intro h x
    rw [← mem_sortedSet, h, mem_sortedSet]
  · intro h
    refine (sortedSet_pairwise xs).eq_of_mem_iff (sortedSet_pairwise ys) fun x => ?_
    rw [mem_sortedSet, mem_sortedSet, h]

end Text

namespace ScalarRegistry

variable {r : ScalarRegistry} {name other : String}

/-- A handler that answers for a name is the one registered for it. -/
theorem get?_of_handler? {handler : ScalarHandler} (h : r.handler? name = some handler) :
    Assoc.get? name r.handlers = some handler := by
  unfold handler? at h
  by_cases hknown : (Assoc.has name builtinScalars || Assoc.has name r.aliases) = true
  · rw [if_pos hknown] at h
    cases h
  · rwa [if_neg hknown] at h

theorem markUsed_of_mem (h : name ∈ r.used) : r.markUsed name = r := by
  unfold markUsed
  rw [if_pos (List.contains_iff_mem.mpr h)]

theorem markUsed_of_notMem (h : name ∉ r.used) :
    r.markUsed name = { r with used := r.used ++ [name] } := by
  unfold markUsed
  rw [if_neg fun hh => h (List.contains_iff_mem.mp hh)]

theorem mem_used_markUsed : other ∈ (r.markUsed name).used ↔ other ∈ r.used ∨ other = name := by
  by_cases h : name ∈ r.used
  · rw [markUsed_of_mem h]
    constructor
    · exact Or.inl
    · rintro (hm | rfl)
      exacts [hm, h]
  · rw [markUsed_of_notMem h]
    simp

/-- The registry after several names were answered by handlers. -/
def markAll (r : ScalarRegistry) (names : List String) : ScalarRegistry :=
  names.foldl markUsed r

/-- Marking names changes nothing but what is used. -/
theorem markAll_eq : ∀ (names : List String) (r : ScalarRegistry),
    ∃ used, r.markAll names = { r with used } ∧ ∀ x, x ∈ used ↔ x ∈ r.used ∨ x ∈ names
  | [], r => ⟨r.used, rfl, by simp⟩
  | name :: names, r => by
    obtain ⟨used, hr, hused⟩ := markAll_eq names (r.markUsed name)
    have hmark : r.markUsed name = { r with used := (r.markUsed name).used } := by
      by_cases hm : name ∈ r.used
      · rw [markUsed_of_mem hm]
      · rw [markUsed_of_notMem hm]
    refine ⟨used, ?_, fun x => ?_⟩
    · show (r.markUsed name).markAll names = _
      rw [hr, hmark]
    · rw [hused, mem_used_markUsed, List.mem_cons, or_assoc]

theorem handlers_markAll (names : List String) (r : ScalarRegistry) :
    (r.markAll names).handlers = r.handlers := by
  obtain ⟨used, hr, -⟩ := markAll_eq names r
  rw [hr]

theorem mem_usedImports {r : ScalarRegistry} {line : String} : line ∈ r.usedImports ↔
    ∃ name ∈ r.used, ∃ handler, Assoc.get? name r.handlers = some handler ∧
      handler.importLine = line := by
  unfold usedImports
  simp only [Text.mem_sortedSet, List.mem_filterMap, Option.map_eq_some_iff]

/-- The imports after names were marked are those from before and those of the
names, also where some names had been marked before. -/
theorem mem_usedImports_markAll {r s : ScalarRegistry} (hs : s.handlers = r.handlers)
    (hused : s.used ⊆ r.used) {names : List String} {line : String} :
    line ∈ (r.markAll names).usedImports ↔
      line ∈ r.usedImports ∨ line ∈ (s.markAll names).usedImports := by
  obtain ⟨used, hr, hmem⟩ := markAll_eq names r
  obtain ⟨used', hs', hmem'⟩ := markAll_eq names s
  rw [hr, hs']
  simp only [mem_usedImports, hmem, hmem', hs]
  constructor
  · rintro ⟨name, hm | hm, h⟩
    exacts [Or.inl ⟨name, hm, h⟩, Or.inr ⟨name, Or.inr hm, h⟩]
  · rintro (⟨name, hm, h⟩ | ⟨name, hm | hm, h⟩)
    exacts [⟨name, Or.inl hm, h⟩, ⟨name, Or.inl (hused hm), h⟩, ⟨name, Or.inr hm, h⟩]

/-- The imports of the handlers that every registry has are lines. -/
theorem line_of_mem_usedImports {r : ScalarRegistry} (hr : r.handlers = defaultHandlers)
    {line : String} (h : line ∈ r.usedImports) : line ≠ "" ∧ '\n' ∉ line.toList := by
  rw [mem_usedImports, hr] at h
  obtain ⟨name, -, handler, hget, rfl⟩ := h
  have hall : ∀ e ∈ defaultHandlers, e.2.importLine ≠ "" ∧ '\n' ∉ e.2.importLine.toList := by
    decide
  exact hall _ (Assoc.mem_of_get? hget)

/-- **Imports from before.** They make no difference exactly if all of them are
needed again. -/
theorem usedImports_markAll_eq_iff {r s : ScalarRegistry} (hs : s.handlers = r.handlers)
    (hused : s.used ⊆ r.used) {names : List String} :
    (r.markAll names).usedImports = (s.markAll names).usedImports ↔
      ∀ line ∈ r.usedImports, line ∈ (s.markAll names).usedImports := by
  have hmem : ∀ line, line ∈ (r.markAll names).usedImports ↔
      line ∈ r.usedImports ∨ line ∈ (s.markAll names).usedImports :=
    fun _ => mem_usedImports_markAll hs hused
  constructor
  · intro h line hline
    rw [← h]
    exact (hmem line).mpr (Or.inl hline)
  · intro h
    unfold usedImports at hmem h ⊢
    rw [Text.sortedSet_eq_iff]
    simp only [Text.mem_sortedSet] at hmem h
    intro line
    rw [hmem]
    exact ⟨fun hl => hl.elim (h line) id, Or.inr⟩

end ScalarRegistry
end ChainedSdk
