/-
# Names of GraphQL in other cases

The names of GraphQL are in ASCII, where the case of a letter is changed by
itself: a name in lower case is the list of its letters in lower case
(`Text.lower_of_isName`), so that a name starts with another ignoring case if
it does in lower case (`startsIgnoringCase_eq_lower`). Only the first letter
tells `upperFirst` and `lowerFirst` apart, so names that agree with their
first letters in upper case agree with them in lower case
(`Text.lowerFirst_eq_of_upperFirst_eq`).

Key theorems: `startsIgnoringCase_eq_lower`,
`Text.lowerFirst_eq_of_upperFirst_eq`.
-/
import ChainedSdk.GraphQL.Lexer
import ChainedSdk.Role
import Mathlib

namespace ChainedSdk

/-! ### The characters of a name -/

namespace GraphQL

theorem isNamePart_lt {c : Char} (h : isNamePart c = true) : c.toNat < 128 := by
  simp only [isNamePart, isNameStart, Char.isAlpha, Char.isUpper, Char.isLower, Char.isDigit,
    Bool.or_eq_true, Bool.and_eq_true, decide_eq_true_eq, ge_iff_le, UInt32.le_iff_toNat_le] at h
  rcases h with ((h | h) | rfl) | h
  · exact Nat.lt_of_le_of_lt h.2 (by decide)
  · exact Nat.lt_of_le_of_lt h.2 (by decide)
  · decide
  · exact Nat.lt_of_le_of_lt h.2 (by decide)

theorem isNamePart_of_isNameStart {c : Char} (h : isNameStart c = true) : isNamePart c = true := by
  unfold isNamePart
  rw [h, Bool.true_or]

/-- A name is a first character and those it goes on with. -/
theorem isName_iff {s : String} : isName s = true ↔
    ∃ c cs, s.toList = c :: cs ∧ isNameStart c = true ∧ ∀ d ∈ cs, isNamePart d = true := by
  unfold isName
  cases h : s.toList with
  | nil => simp
  | cons c cs => simp [List.all_eq_true]

theorem isNamePart_of_mem {s : String} (h : isName s = true) {c : Char} (hc : c ∈ s.toList) :
    isNamePart c = true := by
  obtain ⟨d, ds, hs, hd, hds⟩ := isName_iff.mp h
  rw [hs] at hc
  rcases List.mem_cons.mp hc with rfl | hc
  · exact isNamePart_of_isNameStart hd
  · exact hds c hc

theorem isName_lt {s : String} (h : isName s = true) : ∀ c ∈ s.toList, c.toNat < 128 :=
  fun _ hc => isNamePart_lt (isNamePart_of_mem h hc)

theorem ne_empty_of_isName {s : String} (h : isName s = true) : s ≠ "" := by
  rintro rfl
  obtain ⟨c, cs, hs, -⟩ := isName_iff.mp h
  simp at hs

theorem present_of_isName {s : String} (h : isName s = true) : present (some s) = some s := by
  simp [present, Option.filter, ne_empty_of_isName h]

end GraphQL

/-! ### Cases -/

namespace Text

theorem lowerAfter_of_lt : ∀ {seen cs : List Char}, (∀ c ∈ cs, c.toNat < 128) →
    lowerAfter seen cs = cs.map Char.toLower
  | _, [], _ => rfl
  | seen, c :: cs, h => by
    have hc := h c List.mem_cons_self
    have h931 : c.toNat ≠ 931 := by omega
    rw [lowerAfter, if_neg h931, lowerAfter_of_lt fun d hd => h d (List.mem_cons_of_mem _ hd)]
    simp [lowerLetter, hc]

theorem lower_of_isName {s : String} (h : GraphQL.isName s = true) :
    (lower s).toList = s.toList.map Char.toLower := by
  rw [lower, String.toList_ofList, lowerAfter_of_lt (GraphQL.isName_lt h)]

theorem lowerFirst_toList {s : String} {c : Char} {cs : List Char} (h : s.toList = c :: cs)
    (hc : c.toNat < 128) : (lowerFirst s).toList = c.toLower :: cs := by
  have hd : ∀ d ∈ [c], d.toNat < 128 := fun d hd => by rw [List.mem_singleton.mp hd]; exact hc
  unfold lowerFirst
  simp only [h]
  rw [String.toList_ofList, lowerAfter_of_lt hd]
  rfl

theorem upperFirst_toList {s : String} {c : Char} {cs : List Char} (h : s.toList = c :: cs)
    (hc : c.toNat < 128) : (upperFirst s).toList = c.toUpper :: cs := by
  unfold upperFirst
  simp only [h]
  rw [String.toList_ofList, upperLetter, if_pos hc]
  rfl

/-- Names that agree with their first letters in upper case differ in the case of
the first letter at most. -/
theorem exists_tail_of_upperFirst_eq {s t : String} (hs : GraphQL.isName s = true)
    (ht : GraphQL.isName t = true) (h : upperFirst s = upperFirst t) :
    ∃ c d cs, s.toList = c :: cs ∧ t.toList = d :: cs ∧ c.toNat < 128 ∧ d.toNat < 128 ∧
      c.toLower = d.toLower := by
  obtain ⟨c, cs, hsl, hc, -⟩ := GraphQL.isName_iff.mp hs
  obtain ⟨d, ds, htl, hd, -⟩ := GraphQL.isName_iff.mp ht
  have hc' := GraphQL.isNamePart_lt (GraphQL.isNamePart_of_isNameStart hc)
  have hd' := GraphQL.isNamePart_lt (GraphQL.isNamePart_of_isNameStart hd)
  have hl := congrArg String.toList h
  rw [upperFirst_toList hsl hc', upperFirst_toList htl hd'] at hl
  obtain ⟨hfirst, rfl⟩ := List.cons.inj hl
  refine ⟨c, d, cs, hsl, htl, hc', hd', ?_⟩
  rw [← Char.toLower_toUpper_eq_toLower c, hfirst, Char.toLower_toUpper_eq_toLower]

theorem lowerFirst_eq_of_upperFirst_eq {s t : String} (hs : GraphQL.isName s = true)
    (ht : GraphQL.isName t = true) (h : upperFirst s = upperFirst t) :
    lowerFirst s = lowerFirst t := by
  obtain ⟨c, d, cs, hsl, htl, hc, hd, hcd⟩ := exists_tail_of_upperFirst_eq hs ht h
  apply String.toList_injective
  rw [lowerFirst_toList hsl hc, lowerFirst_toList htl hd, hcd]

end Text

/-! ### Starts -/

/-- **Case does not count where names are compared for their start.** One
name starts with another ignoring case if it does when both are in lower
case. -/
theorem startsIgnoringCase_eq_lower {s start : String} (hs : GraphQL.isName s = true)
    (hstart : GraphQL.isName start = true) :
    startsIgnoringCase s start = Text.startsWith (Text.lower s) (Text.lower start) := by
  unfold startsIgnoringCase Text.startsWith
  rw [Text.lower_of_isName hs, Text.lower_of_isName hstart]

end ChainedSdk
