/-
# Arguments of different names

Where no two arguments have one name, none replaces another: the argument list
has all of them, the required ones before the optional ones
(`ofArgs_of_nodup`), and so has a parameter for each (`mem_params_ofArgs`). Where two
entries of a dictionary have one key, the later one counts
(`Assoc.get?_ofList_append`).

Key theorems: `Assoc.get?_ofList_append`, `uniqueArgs_of_nodup`, `ofArgs_of_nodup`,
`mem_params_ofArgs`.
-/
import ChainedSdk.ArgList
import ChainedSdk.Proofs.Emission

namespace ChainedSdk

namespace Assoc

variable {κ α : Type} [DecidableEq κ]

theorem put_of_notMem {key : κ} {value : α} : ∀ {d : List (κ × α)}, key ∉ d.map (·.1) →
    put key value d = d ++ [(key, value)]
  | [], _ => rfl
  | (k, a) :: d, h => by
    simp only [List.map_cons, List.mem_cons, not_or] at h
    rw [put, if_neg fun e => h.1 e.symm, put_of_notMem h.2, List.cons_append]

theorem ofList_concat (es : List (κ × α)) (e : κ × α) :
    ofList (es ++ [e]) = put e.1 e.2 (ofList es) := by
  unfold ofList
  rw [List.foldl_append]
  rfl

theorem ofList_of_nodup {entries : List (κ × α)} (h : (entries.map (·.1)).Nodup) :
    ofList entries = entries := by
  induction entries using List.reverseRecOn with
  | nil => rfl
  | append_singleton entries e ih =>
    rw [List.map_append] at h
    obtain ⟨hentries, -, hdisjoint⟩ := List.nodup_append'.mp h
    rw [ofList_concat, ih hentries]
    exact put_of_notMem fun hm => hdisjoint hm (List.mem_singleton.mpr rfl)

theorem mem_put {key : κ} {value : α} {e : κ × α} : ∀ {d : List (κ × α)}, e ∈ put key value d →
    e = (key, value) ∨ e ∈ d
  | [], h => Or.inl (List.mem_singleton.mp h)
  | (k, a) :: d, h => by
    unfold put at h
    by_cases hk : k = key
    · rw [if_pos hk] at h
      rcases List.mem_cons.mp h with h | h
      · exact Or.inl (by rw [h, hk])
      · exact Or.inr (List.mem_cons_of_mem _ h)
    · rw [if_neg hk] at h
      rcases List.mem_cons.mp h with h | h
      · exact Or.inr (by rw [h]; exact List.mem_cons_self)
      · exact (mem_put h).imp_right (List.mem_cons_of_mem _)

theorem mem_ofList {e : κ × α} {entries : List (κ × α)} (h : e ∈ ofList entries) :
    e ∈ entries := by
  induction entries using List.reverseRecOn with
  | nil => exact h
  | append_singleton entries x ih =>
    rw [ofList_concat] at h
    rcases mem_put h with rfl | h
    · exact List.mem_append_right _ List.mem_cons_self
    · exact List.mem_append_left _ (ih h)

theorem get?_put (key k : κ) (value : α) : ∀ d : List (κ × α),
    get? k (put key value d) = if key = k then some value else get? k d
  | [] => rfl
  | (l, a) :: d => by
    unfold put
    by_cases hl : l = key
    · subst hl
      by_cases hk : l = k
      · simp [get?, hk]
      · simp [get?, hk]
    · rw [if_neg hl]
      by_cases hk : l = k
      · subst hk
        simp [get?, Ne.symm hl]
      · simp [get?, hk, get?_put key k value d]

/-- **Of two entries with one key the later one counts.** -/
theorem get?_ofList_append (k : κ) (xs ys : List (κ × α)) :
    get? k (ofList (xs ++ ys)) = (get? k (ofList ys)).or (get? k (ofList xs)) := by
  induction ys using List.reverseRecOn with
  | nil => simp [ofList, get?]
  | append_singleton ys e ih =>
    rw [← List.append_assoc, ofList_concat, ofList_concat, get?_put, get?_put, ih]
    by_cases hk : e.1 = k
    · simp [hk]
    · simp [hk]

end Assoc

/-- Every parameter of an argument list is that of an argument given. -/
theorem arg_of_mem_params {xs : List (Option Arg)} {p : Code.Param}
    (h : p ∈ (ArgList.ofArgs xs).params) : ∃ a, some a ∈ xs ∧ a.param = p := by
  obtain ⟨a, ha, rfl⟩ := List.mem_map.mp h
  have ha : a ∈ uniqueArgs xs := by
    rcases List.mem_append.mp ha with ha | ha
    · exact (List.mem_filter.mp ha).1
    · exact (List.mem_filter.mp ha).1
  obtain ⟨e, he, rfl⟩ := List.mem_map.mp ha
  obtain ⟨b, hb, rfl⟩ := List.mem_map.mp (Assoc.mem_ofList he)
  obtain ⟨x, hx, hxb⟩ := List.mem_filterMap.mp hb
  exact ⟨b, by rw [← show x = some b from hxb]; exact hx, rfl⟩

theorem uniqueArgs_of_nodup {xs : List Arg} (h : (xs.map (·.name)).Nodup) :
    uniqueArgs (xs.map some) = xs := by
  have hkeys : ((xs.map fun a => (a.name, a)).map (·.1)).Nodup := by
    rw [List.map_map]
    exact h
  have hsome : (xs.map some).filterMap id = xs := by
    rw [List.filterMap_map]
    exact List.filterMap_some
  unfold uniqueArgs
  rw [hsome, Assoc.ofList_of_nodup hkeys, List.map_map]
  exact List.map_id xs

/-- **Arguments of different names** all count, required ones first. -/
theorem ofArgs_of_nodup {xs : List Arg} (h : (xs.map (·.name)).Nodup) :
    ArgList.ofArgs (xs.map some) =
      .ofOrdered (xs.filter (fun a => !a.isOptional) ++ xs.filter Arg.isOptional) := by
  unfold ArgList.ofArgs
  rw [uniqueArgs_of_nodup h]

theorem mem_params_ofArgs {xs : List Arg} (h : (xs.map (·.name)).Nodup) {p : Code.Param} :
    p ∈ (ArgList.ofArgs (xs.map some)).params ↔ ∃ a ∈ xs, a.param = p := by
  rw [ofArgs_of_nodup h]
  show p ∈ (xs.filter (fun a => !a.isOptional) ++ xs.filter Arg.isOptional).map Arg.param ↔ _
  simp only [List.mem_map, List.mem_append, List.mem_filter]
  constructor
  · rintro ⟨a, ha | ha, rfl⟩
    exacts [⟨a, ha.1, rfl⟩, ⟨a, ha.1, rfl⟩]
  · rintro ⟨a, ha, rfl⟩
    refine ⟨a, ?_, rfl⟩
    cases ho : a.isOptional with
    | true => exact Or.inr ⟨ha, rfl⟩
    | false => exact Or.inl ⟨ha, rfl⟩

end ChainedSdk
