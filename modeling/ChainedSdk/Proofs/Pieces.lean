/-
# Texts and their pieces

A text is its pieces with the separator between them (`Text.joinWith_splitAt`), and
texts without the separator are the pieces of what they make together
(`Text.split_joinWith`).

Key theorems: `Text.joinWith_concat`, `Text.joinWith_splitAt`, `Text.split_joinWith`.
-/
import ChainedSdk.Text.Basic

namespace ChainedSdk
namespace Text

theorem startsWith_append (s t : String) : startsWith (s ++ t) s = true := by
  unfold startsWith
  rw [String.toList_append, List.isPrefixOf_iff_prefix]
  exact List.prefix_append _ _

theorem endsWith_append (s t : String) : endsWith (s ++ t) t = true := by
  unfold endsWith
  rw [String.toList_append, List.isSuffixOf_iff_suffix]
  exact List.suffix_append _ _

/-! ### Texts with a separator between them -/

section Joining

variable {sep : String}

theorem joinWith_cons_cons (s t : String) (rest : List String) :
    joinWith sep (s :: t :: rest) = s ++ sep ++ joinWith sep (t :: rest) := rfl

example : joinWith "/" ["a", "b", "c"] = "a/b/c" := by cbv

/-- What stands before the first text stands before all of them. -/
theorem joinWith_append_head (p s : String) : ∀ rest : List String,
    joinWith sep ((p ++ s) :: rest) = p ++ joinWith sep (s :: rest)
  | [] => rfl
  | t :: rest => by
    rw [joinWith_cons_cons, joinWith_cons_cons]
    simp only [String.append_assoc]

/-- What stands behind the last text stands behind all of them. -/
theorem joinWith_append_last (s q : String) : ∀ xs : List String,
    joinWith sep (xs ++ [s ++ q]) = joinWith sep (xs ++ [s]) ++ q
  | [] => rfl
  | [x] => by
    simp only [List.cons_append, List.nil_append, joinWith, String.append_assoc]
  | x :: y :: xs => by
    have ih := joinWith_append_last s q (y :: xs)
    simp only [List.cons_append] at ih ⊢
    rw [joinWith_cons_cons, joinWith_cons_cons, ih, String.append_assoc, String.append_assoc,
      String.append_assoc]

/-- A separator behind every text but the last one. -/
theorem joinWith_concat (sep last : String) : ∀ xs : List String,
    joinWith sep (xs ++ [last]) = joinWith "" (xs.map (· ++ sep)) ++ last
  | [] => by simp [joinWith]
  | [x] => by simp [joinWith]
  | x :: y :: xs => by
    have ih := joinWith_concat sep last (y :: xs)
    simp only [List.cons_append, List.map_cons] at ih ⊢
    rw [joinWith_cons_cons, joinWith_cons_cons, ih]
    simp only [String.append_assoc, String.empty_append]

end Joining

/-! ### Texts one after the other -/

theorem joinWith_cons (s : String) : ∀ rest : List String,
    joinWith "" (s :: rest) = s ++ joinWith "" rest
  | [] => by simp [joinWith]
  | t :: rest => by simp [joinWith]

theorem joinWith_append : ∀ xs ys : List String,
    joinWith "" (xs ++ ys) = joinWith "" xs ++ joinWith "" ys
  | [], _ => by simp [joinWith]
  | x :: xs, ys => by
    rw [List.cons_append, joinWith_cons, joinWith_cons, joinWith_append xs ys, String.append_assoc]

/-! ### The pieces of a text -/

theorem splitAt_ne_nil (c : Char) : ∀ cs : List Char, splitAt c cs ≠ []
  | [] => by simp [splitAt]
  | d :: cs => by
    unfold splitAt
    split
    · simp
    · split <;> simp

/-- A text is its pieces with the separator between them. -/
theorem joinWith_splitAt (c : Char) : ∀ cs : List Char,
    joinWith (String.ofList [c]) ((splitAt c cs).map String.ofList) = String.ofList cs
  | [] => rfl
  | d :: cs => by
    have ih := joinWith_splitAt c cs
    obtain ⟨piece, pieces, hs⟩ := List.exists_cons_of_ne_nil (splitAt_ne_nil c cs)
    have hd : String.ofList (d :: cs) = String.ofList [d] ++ String.ofList cs := by
      rw [← String.ofList_append, List.singleton_append]
    rw [hs, List.map_cons] at ih
    unfold splitAt
    by_cases h : d = c
    · rw [if_pos h, hs, List.map_cons, List.map_cons, joinWith_cons_cons, ih, hd, h]
      rfl
    · have hpiece : String.ofList (d :: piece) = String.ofList [d] ++ String.ofList piece := by
        rw [← String.ofList_append, List.singleton_append]
      rw [if_neg h, hs, List.map_cons, hpiece, joinWith_append_head, ih, hd]

example : joinWith "/" ((splitAt '/' ['a', '/', 'b']).map String.ofList) = "a/b" := by cbv

/-- The pieces on both sides of a separator. -/
theorem splitAt_append (sep : Char) (rest : List Char) : ∀ cs : List Char,
    splitAt sep (cs ++ sep :: rest) = splitAt sep cs ++ splitAt sep rest
  | [] => by simp [splitAt]
  | c :: cs => by
    have ih := splitAt_append sep rest cs
    obtain ⟨piece, pieces, hs⟩ := List.exists_cons_of_ne_nil (splitAt_ne_nil sep cs)
    rw [hs, List.cons_append] at ih
    rw [List.cons_append, splitAt, splitAt, ih, hs]
    by_cases hc : c = sep
    · rw [if_pos hc, if_pos hc]
      rfl
    · rw [if_neg hc, if_neg hc]
      rfl

theorem splitAt_of_notMem {sep : Char} : ∀ {cs : List Char}, sep ∉ cs → splitAt sep cs = [cs]
  | [], _ => rfl
  | c :: cs, h => by
    simp only [List.mem_cons, not_or] at h
    rw [splitAt, if_neg (Ne.symm h.1), splitAt_of_notMem h.2]

theorem splitAt_line {sep : Char} {rest l : List Char} (h : sep ∉ l) :
    splitAt sep (l ++ sep :: rest) = l :: splitAt sep rest := by
  rw [splitAt_append, splitAt_of_notMem h]
  rfl

/-- The pieces of a text are without the separator, and of characters of the text. -/
theorem notMem_of_mem_splitAt {sep : Char} : ∀ {cs p : List Char}, p ∈ splitAt sep cs →
    sep ∉ p ∧ ∀ c ∈ p, c ∈ cs
  | [], p, h => by
    rw [List.mem_singleton.mp h]
    simp
  | d :: cs, p, h => by
    obtain ⟨q, qs, hq⟩ := List.exists_cons_of_ne_nil (splitAt_ne_nil sep cs)
    have ih := fun r (hr : r ∈ splitAt sep cs) => notMem_of_mem_splitAt hr
    rw [splitAt, hq] at h
    rw [hq] at ih
    by_cases hd : d = sep
    · rw [if_pos hd] at h
      rcases List.mem_cons.mp h with rfl | h
      · simp
      · exact ⟨(ih p h).1, fun c hc => List.mem_cons_of_mem _ ((ih p h).2 c hc)⟩
    · rw [if_neg hd] at h
      rcases List.mem_cons.mp h with rfl | h
      · obtain ⟨hsep, hsub⟩ := ih q List.mem_cons_self
        refine ⟨?_, fun c hc => ?_⟩
        · simp [Ne.symm hd, hsep]
        · exact (List.mem_cons.mp hc).elim (fun e => by simp [e])
            fun hc => List.mem_cons_of_mem _ (hsub c hc)
      · have hmem := ih p (List.mem_cons_of_mem _ h)
        exact ⟨hmem.1, fun c hc => List.mem_cons_of_mem _ (hmem.2 c hc)⟩

/-- What texts without the separator make together has them for its pieces. -/
theorem split_joinWith {sep : Char} : ∀ {xs : List String}, xs ≠ [] →
    (∀ x ∈ xs, sep ∉ x.toList) → split sep (joinWith (String.ofList [sep]) xs) = xs
  | [x], _, h => by
    unfold split joinWith
    rw [splitAt_of_notMem (h x List.mem_cons_self)]
    simp
  | x :: y :: xs, _, h => by
    have ih := split_joinWith (List.cons_ne_nil y xs) fun z hz => h z (List.mem_cons_of_mem _ hz)
    unfold split at ih ⊢
    rw [joinWith_cons_cons, String.append_assoc, String.toList_append, String.toList_append,
      String.toList_ofList, List.singleton_append, splitAt_line (h x List.mem_cons_self),
      List.map_cons, ih, String.ofList_toList]

/-- What stands behind a separator, without it, is the last piece. -/
theorem getLastD_split {sep : Char} {s last : String} (h : sep ∉ last.toList) :
    (split sep (s ++ String.ofList [sep] ++ last)).getLastD "" = last := by
  unfold split
  rw [String.toList_append, String.toList_append, String.toList_ofList, List.append_assoc,
    List.singleton_append, splitAt_append, splitAt_of_notMem h, List.map_append]
  simp

end Text
end ChainedSdk
