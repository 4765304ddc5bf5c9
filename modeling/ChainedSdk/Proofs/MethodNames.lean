/-
# Methods that are named by one word

The name of a method is what is left of its operation's name (its stem), in snake
case, and with a low line behind it if it is reserved. A low line that comes in
stays: so a method is named by one word in small letters, such as `status`, only if
its stem is that word (`methodName_eq_word_iff`). No other stem comes to it, since
snake case changes a name that starts with a small letter only where it cuts it
(`Text.snakeCase_of_notMem`). There is no capital letter in the name of a method
(`Text.small_methodName`).

The stem of a child is what follows its key, or all of its name if nothing follows
(`methodStem_eq_word_iff`).

Key definitions: `Text.IsWord`, `SdkOperation.methodStem`.
Key theorems: `Text.snakeCase_of_notMem`, `Text.small_methodName`,
`methodName_eq_word_iff`, `methodStem_eq_word_iff`.
-/
import ChainedSdk.Method
import ChainedSdk.Proofs.SnakeCase

namespace ChainedSdk

open GraphQL (isName isNamePart isNameStart)

namespace Text

/-! ### Snake case -/

/-- No word starts between the two characters. -/
def SameWord (c u : Char) : Prop :=
  (c.isLower || c.isDigit) = true → ¬u.isUpper = true

/-- Where no low line is put in, nothing is changed and no word starts. -/
theorem spaced_of_notMem : ∀ {cs : List Char}, '_' ∉ spaced cs →
    spaced cs = cs ∧ cs.IsChain SameWord
  | [], _ => ⟨rfl, .nil⟩
  | [c], _ => ⟨rfl, .singleton c⟩
  | c :: u :: rest, h => by
    unfold spaced at h ⊢
    by_cases hcut : startsWord c u rest.head? = true
    · rw [if_pos hcut] at h
      exact absurd (List.mem_cons_of_mem _ List.mem_cons_self) h
    · rw [if_neg hcut] at h ⊢
      obtain ⟨heq, hchain⟩ := spaced_of_notMem fun hm => h (List.mem_cons_of_mem _ hm)
      have hsame : SameWord c u := fun hc hu => hcut (by simp [startsWord, hc, hu])
      exact ⟨by rw [heq], .cons_cons hsame hchain⟩

/-- In a name without low lines that starts with no capital letter, and in which no
word starts, there is none. -/
theorem not_isUpper_of_isChain : ∀ {cs : List Char}, (∀ c ∈ cs, isNamePart c = true) → '_' ∉ cs →
    (∀ c ∈ cs.head?, ¬c.isUpper = true) → cs.IsChain SameWord → ∀ c ∈ cs, ¬c.isUpper = true
  | [], _, _, _, _ => fun _ hc => by cases hc
  | [c], _, _, hfirst, _ => fun d hd => by
    rw [List.mem_singleton.mp hd]
    exact hfirst c rfl
  | c :: u :: rest, hpart, hlow, hfirst, hchain => by
    have hc : ¬c.isUpper = true := hfirst c rfl
    have hkind : (c.isLower || c.isDigit) = true := by
      have hne : c ≠ '_' := fun he => hlow (he ▸ List.mem_cons_self)
      simpa [isNamePart, isNameStart, Char.isAlpha, hc, hne] using hpart c List.mem_cons_self
    cases hchain with
    | cons_cons hcu hrest =>
      have hu : ∀ d ∈ (u :: rest).head?, ¬d.isUpper = true := by
        rintro d ⟨⟩
        exact hcu hkind
      have ih := not_isUpper_of_isChain (fun x hx => hpart x (List.mem_cons_of_mem _ hx))
        (fun hm => hlow (List.mem_cons_of_mem _ hm)) hu hrest
      exact List.forall_mem_cons.mpr ⟨hc, ih⟩

/-- **Snake case** leaves a name that starts with no capital letter as it is, unless
it puts a low line into it. -/
theorem snakeCase_of_notMem {s : String} (hpart : ∀ c ∈ s.toList, isNamePart c = true)
    (hfirst : ∀ c ∈ s.toList.head?, ¬c.isUpper = true) (h : '_' ∉ (snakeCase s).toList) :
    snakeCase s = s := by
  have hlow : '_' ∉ spaced s.toList := fun hm => h (by
    rw [toList_snakeCase hpart]
    exact List.mem_map.mpr ⟨'_', hm, rfl⟩)
  obtain ⟨heq, hchain⟩ := spaced_of_notMem hlow
  exact snakeCase_of_small hpart (not_isUpper_of_isChain hpart (heq ▸ hlow) hfirst hchain)

/-! ### Words -/

/-- The text is made of small letters, at least one, and it is not reserved. -/
structure IsWord (w : String) : Prop where
  ne : w ≠ ""
  letters : ∀ c ∈ w.toList, c.isLower = true
  free : w ∉ keywords ∧ w ∉ softKeywords

instance (w : String) : Decidable (IsWord w) :=
  decidable_of_iff
    (w ≠ "" ∧ w.toList.all Char.isLower = true ∧ w ∉ keywords ∧ w ∉ softKeywords)
    ⟨fun h => ⟨h.1, List.all_eq_true.mp h.2.1, h.2.2⟩,
      fun h => ⟨h.ne, List.all_eq_true.mpr h.letters, h.free⟩⟩

namespace IsWord

variable {w : String}

theorem notMem (hw : IsWord w) : '_' ∉ w.toList := fun hm => by
  simpa using hw.letters _ hm

theorem snakeCase_eq (hw : IsWord w) : snakeCase w = w := by
  have hpart : ∀ c ∈ w.toList, isNamePart c = true := fun c hc => by
    simp [isNamePart, isNameStart, Char.isAlpha, hw.letters c hc]
  exact snakeCase_of_small hpart fun c hc => Char.not_isUpper_of_isLower (hw.letters c hc)

/-- A reserved name gets a low line, so it does not become a word. -/
theorem escapeName_eq_iff (hw : IsWord w) {s : String} : escapeName s = w ↔ s = w := by
  constructor
  · intro h
    unfold escapeName at h
    split at h
    · refine absurd ?_ hw.notMem
      rw [← h, String.toList_append]
      exact List.mem_append_right _ (by decide)
    · exact h
  · rintro rfl
    unfold escapeName
    rw [if_neg (by simp [hw.free])]

end IsWord

/-- A text of letters is an identifier. -/
theorem isIdentifier_of_isAlpha {s : String} (hne : s ≠ "") (h : ∀ c ∈ s.toList, c.isAlpha = true) :
    isIdentifier s = true := by
  unfold isIdentifier
  cases hl : s.toList with
  | nil => exact absurd (String.toList_injective hl) hne
  | cons c cs =>
    rw [hl] at h
    have hstart : ∀ d ∈ c :: cs, isIdentifierStart d = true := fun d hd => by
      simp [isIdentifierStart, h d hd]
    simp only [Bool.and_eq_true, List.all_eq_true]
    exact ⟨hstart c List.mem_cons_self, fun d hd => by
      simp [isIdentifierPart, hstart d (List.mem_cons_of_mem _ hd)]⟩

/-! ### A small first letter -/

/-- Part of a name with its first letter in lower case: there is no capital letter
at its start, it is part of a name, and it consists of letters exactly if it did
before. -/
theorem lowerFirst_of_isNamePart {s : String} (hs : ∀ c ∈ s.toList, isNamePart c = true) :
    (∀ c ∈ (lowerFirst s).toList.head?, ¬c.isUpper = true) ∧
    (∀ c ∈ (lowerFirst s).toList, isNamePart c = true) ∧
    ((∀ c ∈ (lowerFirst s).toList, c.isAlpha = true) ↔ ∀ c ∈ s.toList, c.isAlpha = true) := by
  cases hl : s.toList with
  | nil =>
    have hempty : lowerFirst s = "" := by simp [lowerFirst, hl]
    simp [hempty]
  | cons c cs =>
    rw [hl] at hs
    have hc := hs c List.mem_cons_self
    rw [lowerFirst_toList hl (GraphQL.isNamePart_lt hc)]
    refine ⟨by simp, ?_, by simp⟩
    exact List.forall_mem_cons.mpr ⟨isNamePart_toLower hc, (List.forall_mem_cons.mp hs).2⟩

theorem lowerFirst_eq_empty_iff {s : String} (hs : ∀ c ∈ s.toList, isNamePart c = true) :
    lowerFirst s = "" ↔ s = "" := by
  constructor
  · intro h
    apply String.toList_injective
    cases hl : s.toList with
    | nil => rfl
    | cons c cs =>
      have hc := GraphQL.isNamePart_lt (hs c (hl ▸ List.mem_cons_self))
      have hlower := lowerFirst_toList hl hc
      simp [h] at hlower
  · rintro rfl
    rfl

end Text

/-! ### The stem of a method's name -/

/-- What the name of an operation's method is made from. -/
def SdkOperation.methodStem (o : SdkOperation) : String :=
  match present o.role.childKey? with
  | some key =>
    let rest := Text.lowerFirst (stripStart o.name key)
    if Text.isIdentifier rest then rest else Text.lowerFirst o.name
  | none => Text.lowerFirst o.name

theorem methodName_eq (o : SdkOperation) :
    methodName o = Text.escapeName (Text.snakeCase o.methodStem) := rfl

theorem mem_of_mem_stripStart {name start : String} {c : Char}
    (h : c ∈ (stripStart name start).toList) : c ∈ name.toList := by
  unfold stripStart at h
  split at h
  · rw [String.toList_ofList] at h
    exact List.mem_of_mem_drop h
  · exact h

/-- The stem is a part of the operation's name with its first letter in lower
case. -/
theorem exists_methodStem (o : SdkOperation) :
    ∃ part, o.methodStem = Text.lowerFirst part ∧ ∀ c ∈ part.toList, c ∈ o.name.toList := by
  unfold SdkOperation.methodStem
  cases present o.role.childKey? with
  | none => exact ⟨o.name, rfl, fun _ hc => hc⟩
  | some key =>
    simp only
    split
    · exact ⟨_, rfl, fun _ => mem_of_mem_stripStart⟩
    · exact ⟨o.name, rfl, fun _ hc => hc⟩

/-- **The name of a method** has no capital letter. -/
theorem Text.small_methodName {o : SdkOperation} (ho : isName o.name = true) :
    Small (methodName o) := by
  obtain ⟨part, hstem, hsub⟩ := exists_methodStem o
  have hpart := fun c hc => GraphQL.isNamePart_of_mem ho (hsub c hc)
  have hsnake : Small (snakeCase o.methodStem) := by
    rw [hstem]
    exact small_snakeCase (lowerFirst_of_isNamePart hpart).2.1
  rw [methodName_eq, escapeName]
  split
  · exact small_append.mpr ⟨hsnake, by decide⟩
  · exact hsnake

section Words

variable {o : SdkOperation} {w : String}

/-- **Methods named by a word.** A method is named by a word exactly if that is the
stem of its name. -/
theorem methodName_eq_word_iff (ho : isName o.name = true) (hw : Text.IsWord w) :
    methodName o = w ↔ o.methodStem = w := by
  rw [methodName_eq, hw.escapeName_eq_iff]
  constructor
  · intro h
    obtain ⟨part, hstem, hsub⟩ := exists_methodStem o
    obtain ⟨hfirst, hpart, -⟩ :=
      Text.lowerFirst_of_isNamePart fun c hc => GraphQL.isNamePart_of_mem ho (hsub c hc)
    rw [← hstem] at hfirst hpart
    rw [← h]
    exact (Text.snakeCase_of_notMem hpart hfirst (h ▸ hw.notMem)).symm
  · intro h
    rw [h, hw.snakeCase_eq]

/-- **Stems of children.** The stem of a child is a word exactly if that follows the
key in its name, or nothing follows the key and the name itself is the word. -/
theorem methodStem_eq_word_iff (ho : isName o.name = true) (hw : Text.IsWord w) {key : String}
    (hkey : present o.role.childKey? = some key) : o.methodStem = w ↔
      Text.lowerFirst (stripStart o.name key) = w ∨
      stripStart o.name key = "" ∧ Text.lowerFirst o.name = w := by
  have hname : ∀ c ∈ o.name.toList, isNamePart c = true := fun c => GraphQL.isNamePart_of_mem ho
  have hrest : ∀ c ∈ (stripStart o.name key).toList, isNamePart c = true := fun c hc =>
    hname c (mem_of_mem_stripStart hc)
  have halpha : ∀ c ∈ w.toList, c.isAlpha = true := fun c hc => by
    simp [Char.isAlpha, hw.letters c hc]
  unfold SdkOperation.methodStem
  simp only [hkey]
  by_cases hid : Text.isIdentifier (Text.lowerFirst (stripStart o.name key)) = true
  · rw [if_pos hid, iff_self_or]
    rintro ⟨hempty, -⟩
    rw [hempty] at hid
    cases hid
  · rw [if_neg hid]
    constructor
    · intro h
      refine Or.inr ⟨?_, h⟩
      -- all of the name are letters, so what is left would be an identifier
      by_contra hne
      have hletters := (Text.lowerFirst_of_isNamePart hname).2.2.mp (h ▸ halpha)
      refine hid (Text.isIdentifier_of_isAlpha ?_ ?_)
      · rwa [Ne, Text.lowerFirst_eq_empty_iff hrest]
      · exact (Text.lowerFirst_of_isNamePart hrest).2.2.mpr fun c hc =>
          hletters c (mem_of_mem_stripStart hc)
    · rintro (h | ⟨-, h⟩)
      · exact absurd (Text.isIdentifier_of_isAlpha hw.ne halpha) (h ▸ hid)
      · exact h

end Words
end ChainedSdk
