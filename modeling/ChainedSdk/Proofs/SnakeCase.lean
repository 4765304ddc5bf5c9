/-
# Snake case, character by character

Two substitutions and lower case make a name snake case. A substitution goes over a
text from left to right, replaces what matches, and goes on behind it (`rewrite`), so
that the first one, in which a match takes all of the small letters of a word, passes
over the words that start right after these. The passes of the library do what the two
substitutions do (`snakeCase_eq_rewrite`).

Together they come to a rule that needs no passes: a low line goes before a capital
letter that has a small letter or a digit before it, or a small letter behind it, and
nothing else changes but the case (`snakeCase_local`). What the first pass goes past
comes behind a small letter, so the second one finds it; and it finds nothing twice,
since the first one has put a low line there (`cutHumps_cutWords`). The rule looks at
capital letters only, of which it leaves none, so a second time it does nothing.

Key definitions: `rewriteFrom`, `wordRule`, `humpRule`, `spaced`, `startsWordAt`, `Small`.
Key theorems: `cutWords_eq_rewriteFrom`, `cutHumps_eq_rewriteFrom`, `cutHumps_cutWords`,
`toList_snakeCase`, `small_snakeCase`, `snakeCase_local`.
-/
import ChainedSdk.Proofs.Names
import ChainedSdk.Text.Snake

namespace ChainedSdk
namespace Text

open GraphQL (isName isNamePart isNameStart)

/-! ### Substitutions -/

/-- A rule of a substitution: of the characters that come next, at the start of the
text or inside of it, how many match, and what they are replaced by. -/
abbrev Rule := Bool → List Char → Option (Nat × List Char)

/-- The characters with what matches replaced, from left to right, where `skip` of them
belong to the last match. -/
def rewriteFrom (r : Rule) (skip : Nat) (atStart : Bool) : List Char → List Char
  | [] => []
  | c :: rest =>
    match skip with
    | n + 1 => rewriteFrom r n false rest
    | 0 =>
      match r atStart (c :: rest) with
      | some (n + 1, image) => image ++ rewriteFrom r n false rest
      | _ => c :: rewriteFrom r 0 false rest

/-- The text with what matches replaced. -/
def rewrite (r : Rule) (s : String) : String :=
  String.ofList (rewriteFrom r 0 true s.toList)

/-- A character other than a line feed, a capital letter and the small letters after it,
at least one: a low line goes before the capital letter. -/
def wordRule : Rule := fun _ cs =>
  match cs with
  | c :: u :: l :: rest =>
    if c ≠ '\n' && u.isUpper && l.isLower then
      let small := (l :: rest).takeWhile Char.isLower
      some (small.length + 2, c :: '_' :: u :: small)
    else none
  | _ => none

/-- A small letter or digit and a capital letter: a low line goes between them. -/
def humpRule : Rule := fun _ cs =>
  match cs with
  | c :: u :: _ => if (c.isLower || c.isDigit) && u.isUpper then some (2, [c, '_', u]) else none
  | _ => none

theorem rewriteFrom_skip (r : Rule) : ∀ (n : Nat) (cs : List Char),
    rewriteFrom r n false cs = rewriteFrom r 0 false (cs.drop n)
  | 0, _ => rfl
  | _ + 1, [] => rfl
  | n + 1, _ :: cs => rewriteFrom_skip r n cs

theorem rewriteFrom_of_none {r : Rule} {b : Bool} {c : Char} {cs : List Char}
    (h : r b (c :: cs) = none) : rewriteFrom r 0 b (c :: cs) = c :: rewriteFrom r 0 false cs := by
  rw [rewriteFrom, h]

theorem rewriteFrom_of_some {r : Rule} {b : Bool} {n : Nat} {c : Char} {cs image : List Char}
    (h : r b (c :: cs) = some (n + 1, image)) :
    rewriteFrom r 0 b (c :: cs) = image ++ rewriteFrom r 0 false (cs.drop n) := by
  rw [rewriteFrom, h, ← rewriteFrom_skip]

/-- Inside a word, its small letters stay as they are. -/
theorem cutWords_inWord : ∀ cs : List Char,
    cutWords true cs = cs.takeWhile Char.isLower ++ cutWords false (cs.dropWhile Char.isLower)
  | [] => rfl
  | [c] => by
    by_cases hc : c.isLower = true
    · simp [hc, cutWords]
    · simp [hc, cutWords]
  | [c, d] => by
    by_cases hc : c.isLower = true
    · by_cases hd : d.isLower = true
      · simp [hc, hd, cutWords]
      · simp [hc, hd, cutWords]
    · simp [hc, cutWords]
  | c :: u :: l :: rest => by
    by_cases hc : c.isLower = true
    · have ih := cutWords_inWord (u :: l :: rest)
      rw [cutWords, if_pos (by simp [hc]), ih, List.takeWhile_cons_of_pos hc,
        List.dropWhile_cons_of_pos hc, List.cons_append]
    · rw [List.takeWhile_cons_of_neg hc, List.dropWhile_cons_of_neg hc, List.nil_append]
      simp [cutWords, hc]

/-- **The first pass is a substitution.** -/
theorem cutWords_eq_rewriteFrom (b : Bool) : ∀ cs : List Char,
    cutWords false cs = rewriteFrom wordRule 0 b cs
  | [] => rfl
  | [_] => rfl
  | [_, _] => rfl
  | c :: u :: l :: rest => by
    rw [cutWords, if_neg (by simp)]
    by_cases hcut : (c ≠ '\n' && u.isUpper && l.isLower) = true
    · have hmatch : wordRule b (c :: u :: l :: rest) =
          some (((l :: rest).takeWhile Char.isLower).length + 1 + 1,
            c :: '_' :: u :: (l :: rest).takeWhile Char.isLower) := if_pos hcut
      have hdrop : (u :: l :: rest).drop (((l :: rest).takeWhile Char.isLower).length + 1) =
          (l :: rest).dropWhile Char.isLower := by
        have hsplit : ((l :: rest).takeWhile Char.isLower ++ (l :: rest).dropWhile Char.isLower).drop
            ((l :: rest).takeWhile Char.isLower).length = (l :: rest).dropWhile Char.isLower :=
          List.drop_left
        rwa [List.takeWhile_append_dropWhile] at hsplit
      have ih := cutWords_eq_rewriteFrom false ((l :: rest).dropWhile Char.isLower)
      rw [if_pos hcut, rewriteFrom_of_some hmatch, hdrop, cutWords_inWord, ih]
      rfl
    · have hmatch : wordRule b (c :: u :: l :: rest) = none := if_neg hcut
      rw [if_neg hcut, rewriteFrom_of_none hmatch, cutWords_eq_rewriteFrom false (u :: l :: rest)]
termination_by cs => cs.length
decreasing_by
  · have := List.length_dropWhile_le Char.isLower (l :: rest)
    simp only [List.length_cons] at this ⊢
    omega
  · simp

theorem not_isDigit_of_isUpper {c : Char} (h : c.isUpper = true) : ¬c.isDigit = true := by
  simp only [Char.isUpper, Char.isDigit, Bool.and_eq_true, decide_eq_true_eq, ge_iff_le,
    UInt32.le_iff_toNat_le] at h ⊢
  exact fun hd => absurd (h.1.trans hd.2) (by decide)

/-- **The second pass is a substitution.** -/
theorem cutHumps_eq_rewriteFrom (b : Bool) : ∀ cs : List Char,
    cutHumps cs = rewriteFrom humpRule 0 b cs
  | [] => rfl
  | [_] => rfl
  | c :: u :: rest => by
    have ih := cutHumps_eq_rewriteFrom false (u :: rest)
    rw [cutHumps]
    by_cases hcut : ((c.isLower || c.isDigit) && u.isUpper) = true
    · have hmatch : humpRule b (c :: u :: rest) = some (2, [c, '_', u]) := if_pos hcut
      -- a capital letter starts no match
      have hnext : humpRule false (u :: rest) = none := by
        have hu := (Bool.and_eq_true_iff.mp hcut).2
        cases rest with
        | nil => rfl
        | cons v rest => simp [humpRule, Char.not_isLower_of_isUpper hu, not_isDigit_of_isUpper hu]
      rw [if_pos hcut, rewriteFrom_of_some hmatch, ih, rewriteFrom_of_none hnext]
      rfl
    · have hmatch : humpRule b (c :: u :: rest) = none := if_neg hcut
      rw [if_neg hcut, rewriteFrom_of_none hmatch, ih]

/-- **Snake case is two substitutions** and lower case. -/
theorem snakeCase_eq_rewrite (s : String) :
    snakeCase s = lower (rewrite humpRule (rewrite wordRule s)) := by
  unfold snakeCase lower rewrite
  rw [cutHumps_eq_rewriteFrom true, cutWords_eq_rewriteFrom true, String.toList_ofList,
    String.toList_ofList]

/-! ### One pass -/

/-- A word starts with a capital letter `u`, if `c` comes before it or the next character
is one that goes on with a word. -/
def startsWord (c u : Char) (next? : Option Char) : Bool :=
  u.isUpper && (c.isLower || c.isDigit || next?.any Char.isLower)

/-- The characters with a low line before each word but the first. -/
def spaced : List Char → List Char
  | [] => []
  | [c] => [c]
  | c :: u :: rest =>
    if startsWord c u rest.head? then c :: '_' :: spaced (u :: rest) else c :: spaced (u :: rest)

theorem cutHumps_cons_cutWords (c : Char) {u : Char} (inWord : Bool) (rest : List Char) :
    cutHumps (c :: cutWords inWord (u :: rest)) =
      if (c.isLower || c.isDigit) && u.isUpper then
        c :: '_' :: cutHumps (cutWords inWord (u :: rest))
      else c :: cutHumps (cutWords inWord (u :: rest)) := by
  have hhead : ∃ more, cutWords inWord (u :: rest) = u :: more := by
    match rest with
    | [] => exact ⟨_, rfl⟩
    | [d] => exact ⟨_, rfl⟩
    | v :: l :: rest =>
      unfold cutWords
      split
      · exact ⟨_, rfl⟩
      · split <;> exact ⟨_, rfl⟩
  obtain ⟨more, hmore⟩ := hhead
  rw [hmore, cutHumps]

/-- **The two passes come to one.** -/
theorem cutHumps_cutWords : ∀ (inWord : Bool) {cs : List Char}, '\n' ∉ cs →
    cutHumps (cutWords inWord cs) = spaced cs
  | _, [], _ => rfl
  | _, [_], _ => rfl
  | _, [c, u], _ => by simp [cutWords, cutHumps, spaced, startsWord, Bool.and_comm]
  | inWord, c :: u :: l :: rest, h => by
    have hc : c ≠ '\n' := fun he => h (he ▸ List.mem_cons_self)
    have htail : '\n' ∉ u :: l :: rest := fun hm => h (List.mem_cons_of_mem _ hm)
    rw [cutWords, spaced]
    by_cases hword : (inWord && c.isLower) = true
    · have hl := (Bool.and_eq_true_iff.mp hword).2
      rw [if_pos hword, cutHumps_cons_cutWords, cutHumps_cutWords true htail]
      simp [startsWord, hl]
    · rw [if_neg hword]
      by_cases hcut : (c ≠ '\n' && u.isUpper && l.isLower) = true
      · simp only [Bool.and_eq_true, decide_eq_true_eq] at hcut
        have hl : ¬l.isUpper = true := Char.not_isUpper_of_isLower hcut.2
        have ih := cutHumps_cutWords true fun hm => htail (List.mem_cons_of_mem _ hm)
        -- the low line that the first pass puts keeps the second one from this place
        have hpass : cutHumps (c :: '_' :: u :: cutWords true (l :: rest)) =
            c :: '_' :: u :: spaced (l :: rest) := by
          rw [cutHumps, if_neg (by simp), cutHumps, if_neg (by simp), cutHumps_cons_cutWords,
            if_neg (by simp [hl]), ih]
        rw [if_pos (by simp [hcut]), hpass, if_pos (by simp [startsWord, hcut]), spaced,
          if_neg (by simp [startsWord, hl])]
      · have hsame : startsWord c u (l :: rest).head? =
            ((c.isLower || c.isDigit) && u.isUpper) := by
          cases hu : u.isUpper with
          | false => simp [startsWord, hu]
          | true =>
            have hl : l.isLower = false := by simpa [hc, hu] using hcut
            simp [startsWord, hu, hl]
        rw [if_neg hcut, cutHumps_cons_cutWords, cutHumps_cutWords false htail, hsame]

theorem mem_spaced {d : Char} : ∀ {cs : List Char}, d ∈ spaced cs → d = '_' ∨ d ∈ cs
  | [_], h => Or.inr h
  | c :: u :: rest, h => by
    unfold spaced at h
    split at h
    · rcases List.mem_cons.mp h with rfl | h
      · exact Or.inr List.mem_cons_self
      · rcases List.mem_cons.mp h with rfl | h
        · exact Or.inl rfl
        · exact (mem_spaced h).imp_right (List.mem_cons_of_mem _)
    · rcases List.mem_cons.mp h with rfl | h
      · exact Or.inr List.mem_cons_self
      · exact (mem_spaced h).imp_right (List.mem_cons_of_mem _)

theorem head?_spaced : ∀ cs : List Char, (spaced cs).head? = cs.head?
  | [] => rfl
  | [_] => rfl
  | c :: u :: rest => by
    unfold spaced
    split <;> rfl

/-- Where there is no capital letter, no word starts. -/
theorem spaced_of_not_isUpper : ∀ {cs : List Char}, (∀ c ∈ cs, ¬c.isUpper = true) → spaced cs = cs
  | [], _ => rfl
  | [_], _ => rfl
  | c :: u :: rest, h => by
    have ih := spaced_of_not_isUpper fun d hd => h d (List.mem_cons_of_mem _ hd)
    have hu : ¬u.isUpper = true := h u (by simp)
    rw [spaced, if_neg (by simp [startsWord, hu]), ih]

/-- Nothing but low lines is put in. -/
theorem filter_spaced : ∀ cs : List Char, (spaced cs).filter (· ≠ '_') = cs.filter (· ≠ '_')
  | [] => rfl
  | [_] => rfl
  | c :: u :: rest => by
    have ih := filter_spaced (u :: rest)
    unfold spaced
    split
    · rw [List.filter_cons, List.filter_cons_of_neg (by simp), ih, List.filter_cons (x := c)]
    · rw [List.filter_cons, ih, List.filter_cons (x := c)]

/-- The low line is in lower case, and nothing else in lower case is one. -/
theorem filter_map_toLower (cs : List Char) : (cs.map Char.toLower).filter (· ≠ '_') =
    (cs.filter (· ≠ '_')).map Char.toLower := by
  have hlow : ∀ c : Char, c.toLower = '_' ↔ c = '_' := by
    intro c
    by_cases hc : c.isUpper = true
    · have hlower : c.toLower.isLower = true := by simp [Char.isAlpha, hc]
      constructor
      · intro he
        simp [he] at hlower
      · rintro rfl
        simp at hc
    · rw [Char.toLower_eq_of_not_isUpper hc]
  rw [List.filter_map]
  congr 1
  exact List.filter_congr fun c _ => by simp [hlow]

section Names

variable {s : String}

/-- **Snake case in one pass.** -/
theorem toList_snakeCase (hs : ∀ c ∈ s.toList, isNamePart c = true) :
    (snakeCase s).toList = (spaced s.toList).map Char.toLower := by
  have hline : '\n' ∉ s.toList := fun hm => absurd (hs _ hm) (by decide)
  have hlt : ∀ c ∈ spaced s.toList, c.toNat < 128 := by
    intro c hc
    rcases mem_spaced hc with rfl | hc
    · decide
    · exact GraphQL.isNamePart_lt (hs c hc)
  unfold snakeCase
  rw [cutHumps_cutWords false hline, String.toList_ofList, lowerAfter_of_lt hlt]

theorem isNamePart_toLower {c : Char} (h : isNamePart c = true) : isNamePart c.toLower = true := by
  by_cases hc : c.isUpper = true
  · simp [isNamePart, isNameStart, Char.isAlpha, hc]
  · rwa [Char.toLower_eq_of_not_isUpper hc]

/-- Snake case leaves what may stand in a name. -/
theorem isNamePart_snakeCase (hs : ∀ c ∈ s.toList, isNamePart c = true) :
    ∀ c ∈ (snakeCase s).toList, isNamePart c = true := by
  intro c hc
  rw [toList_snakeCase hs] at hc
  obtain ⟨d, hd, rfl⟩ := List.mem_map.mp hc
  refine isNamePart_toLower ?_
  rcases mem_spaced hd with rfl | hd
  · decide
  · exact hs d hd

theorem map_toLower_eq {cs : List Char} (h : ∀ c ∈ cs, ¬c.isUpper = true) :
    cs.map Char.toLower = cs := by
  conv_rhs => rw [← List.map_id cs]
  exact List.map_congr_left fun c hc => Char.toLower_eq_of_not_isUpper (h c hc)

end Names

/-- There is no capital letter in the text. -/
def Small (s : String) : Prop :=
  ∀ c ∈ s.toList, ¬c.isUpper = true

instance (s : String) : Decidable (Small s) :=
  decidable_of_iff (s.toList.all (!·.isUpper) = true) (by simp [Small])

theorem small_append {s t : String} : Small (s ++ t) ↔ Small s ∧ Small t := by
  unfold Small
  simp only [String.toList_append, List.mem_append]
  exact ⟨fun h => ⟨fun c hc => h c (.inl hc), fun c hc => h c (.inr hc)⟩,
    fun h c hc => hc.elim (h.1 c) (h.2 c)⟩

/-- Snake case leaves no capital letter in a name. -/
theorem small_snakeCase {s : String} (hs : ∀ c ∈ s.toList, isNamePart c = true) :
    Small (snakeCase s) := by
  intro c hc
  rw [toList_snakeCase hs] at hc
  obtain ⟨d, -, rfl⟩ := List.mem_map.mp hc
  simp

theorem snakeCase_of_small {s : String} (hs : ∀ c ∈ s.toList, isNamePart c = true)
    (h : Small s) : snakeCase s = s := by
  apply String.toList_injective
  rw [toList_snakeCase hs, spaced_of_not_isUpper h, map_toLower_eq h]

/-! ### Places -/

/-- A word starts at a place: it is not the first one, a capital letter stands there, and
a small letter or a digit stands before it or a small letter behind it. -/
def startsWordAt (cs : List Char) (i : Nat) : Bool :=
  1 ≤ i && cs[i]?.any Char.isUpper &&
    (cs[i - 1]?.any (fun c => c.isLower || c.isDigit) || cs[i + 1]?.any Char.isLower)

/-- The characters at their places, in lower case and with a low line before each word. -/
def spacedByPlaces (cs : List Char) : List Char :=
  cs.zipIdx.flatMap fun e => if startsWordAt cs e.2 then ['_', e.1.toLower] else [e.1.toLower]

/-- The rule for places is the rule for neighbours, from a place on that comes behind
`before`. -/
theorem flatMap_places (before : List Char) (c : Char) : ∀ rest : List Char,
    (((c :: rest).zipIdx before.length).flatMap fun e =>
      if startsWordAt (before ++ c :: rest) e.2 then ['_', e.1.toLower] else [e.1.toLower]) =
    (if startsWordAt (before ++ c :: rest) before.length then ['_'] else []) ++
      (spaced (c :: rest)).map Char.toLower
  | [] => by
    simp only [List.zipIdx_cons, List.zipIdx_nil, List.flatMap_cons, List.flatMap_nil]
    split <;> rfl
  | u :: rest => by
    have ih := flatMap_places (before ++ [c]) u rest
    rw [List.append_assoc, List.singleton_append, List.length_append, List.length_singleton] at ih
    have hplace : startsWordAt (before ++ c :: u :: rest) (before.length + 1) =
        startsWord c u rest.head? := by
      have hnext : (before ++ c :: u :: rest)[before.length + 1 + 1]? = rest.head? := by
        rw [List.getElem?_append_right (by omega), List.head?_eq_getElem?, Nat.add_assoc,
          Nat.add_sub_cancel_left]
        rfl
      simp [startsWordAt, startsWord, hnext]
    have hspaced : (spaced (c :: u :: rest)).map Char.toLower = c.toLower ::
        ((if startsWord c u rest.head? then ['_'] else []) ++
          (spaced (u :: rest)).map Char.toLower) := by
      rw [spaced]
      split <;> rfl
    rw [List.zipIdx_cons, List.flatMap_cons, ih, hplace, hspaced]
    split <;> rfl

theorem map_spaced_eq (cs : List Char) : (spaced cs).map Char.toLower = spacedByPlaces cs := by
  cases cs with
  | nil => rfl
  | cons c rest => exact (flatMap_places [] c rest).symm

/-- **The local rule.** Snake case, which is two substitutions and lower case, puts a low
line before each capital letter at which a word starts, and changes nothing else but the
case. Done again it changes nothing, and without low lines what comes out is the text in
lower case. -/
theorem snakeCase_local {s : String} (hs : ∀ c ∈ s.toList, isNamePart c = true) :
    snakeCase s = lower (rewrite humpRule (rewrite wordRule s)) ∧
    (snakeCase s).toList = spacedByPlaces s.toList ∧
    snakeCase (snakeCase s) = snakeCase s ∧
    (snakeCase s).toList.filter (· ≠ '_') = (lower s).toList.filter (· ≠ '_') := by
  refine ⟨snakeCase_eq_rewrite s, ?_, ?_, ?_⟩
  · rw [toList_snakeCase hs, map_spaced_eq]
  · exact snakeCase_of_small (isNamePart_snakeCase hs) (small_snakeCase hs)
  · have hlt : ∀ c ∈ s.toList, c.toNat < 128 := fun c hc => GraphQL.isNamePart_lt (hs c hc)
    rw [toList_snakeCase hs, lower, String.toList_ofList, lowerAfter_of_lt hlt, filter_map_toLower,
      filter_map_toLower, filter_spaced]

/-- Low lines go before a word among capital letters and between a digit and a capital
letter. The low line that is there counts as neither. -/
theorem sample_snakeCase : (∀ c ∈ "getHTTPStatus2XX_IDs".toList, isNamePart c = true) ∧
    snakeCase "getHTTPStatus2XX_IDs" = "get_http_status2_xx_i_ds" ∧
    snakeCase "get_http_status2_xx_i_ds" = "get_http_status2_xx_i_ds" := by
  have hpart : ∀ c ∈ "getHTTPStatus2XX_IDs".toList, isNamePart c = true :=
    List.all_eq_true.mp (by decide +kernel)
  obtain ⟨-, hplaces, hagain, -⟩ := snakeCase_local hpart
  have heq : snakeCase "getHTTPStatus2XX_IDs" = "get_http_status2_xx_i_ds" :=
    String.toList_injective (hplaces.trans (by decide +kernel))
  rw [heq] at hagain
  exact ⟨hpart, heq, hagain⟩

end Text
end ChainedSdk
