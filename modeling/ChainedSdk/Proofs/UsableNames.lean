/-
# The names of methods can be used

A child's method is named by what follows the key in the name of its operation. Two
tests have to agree for that: the one by which the operation is a child, that its name
starts with the key when both are in lower case, and the search for the key at the
start of the name, letter by letter and ignoring case, whose match is taken away
(`Text.startRule`). For names of GraphQL they do (`Text.rewrite_startRule_of_isName`),
since there a letter has one letter in lower case.

What follows the key may be nothing, or start with a digit: then all of the name counts
(`SdkOperation.ownPart`), so that the part that counts is a name of GraphQL in any case
(`SdkOperation.isName_ownPart`). A small first letter, snake case and a low line behind
a reserved word leave it one (`Text.isName_lowerFirst`, `Text.isName_snakeCase`,
`Text.isName_escapeName`), and no reserved word with a low line is reserved itself
(`Text.escapeName_notMem`).

Key definitions: `Text.startRule`, `SdkOperation.ownPart`.
Key theorems: `Text.rewrite_startRule_of_isName`, `stripStart_eq_rewrite`,
`SdkOperation.methodStem_eq`, `methodName_usable`.
-/
import ChainedSdk.Proofs.Description
import ChainedSdk.Proofs.MethodNames

namespace ChainedSdk

open GraphQL (isName isNamePart isNameStart)

namespace Text

/-! ### A start that is taken away -/

/-- The characters begin with others, letter by letter when case does not count. -/
def beginsWith : List Char → List Char → Bool
  | _, [] => true
  | [], _ :: _ => false
  | c :: cs, k :: ks => c.toLower = k.toLower && beginsWith cs ks

/-- A text at the start, when case does not count: nothing comes in its place. -/
def startRule (start : String) : Rule := fun atStart cs =>
  if atStart && beginsWith cs start.toList then some (start.length, []) else none

theorem beginsWith_eq_isPrefixOf : ∀ cs ks : List Char,
    beginsWith cs ks = (ks.map Char.toLower).isPrefixOf (cs.map Char.toLower)
  | _, [] => by simp [beginsWith]
  | [], _ :: _ => by simp [beginsWith]
  | c :: cs, k :: ks => by
    have hsame : (c.toLower = k.toLower : Bool) = (k.toLower == c.toLower) := by
      rw [Bool.eq_iff_iff, decide_eq_true_eq, beq_iff_eq, eq_comm]
    rw [beginsWith, beginsWith_eq_isPrefixOf cs ks, List.map_cons, List.map_cons,
      List.isPrefixOf_cons_cons, hsame]

/-- Behind the start nothing is taken away. -/
theorem rewriteFrom_startRule_false (start : String) : ∀ cs : List Char,
    rewriteFrom (startRule start) 0 false cs = cs
  | [] => rfl
  | c :: cs => by
    have hnone : startRule start false (c :: cs) = none := by simp [startRule]
    rw [rewriteFrom_of_none hnone, rewriteFrom_startRule_false start cs]

/-- **The start is taken away once**, and nothing more than the start. -/
theorem rewrite_startRule {start : String} (hstart : start ≠ "") (s : String) :
    rewrite (startRule start) s =
      if beginsWith s.toList start.toList then String.ofList (s.toList.drop start.length)
      else s := by
  unfold rewrite
  cases hs : s.toList with
  | nil =>
    have hempty : s = "" := String.toList_injective hs
    split <;> simp [rewriteFrom, hempty]
  | cons c cs =>
    have hpos : start.length = start.length - 1 + 1 := by
      have : start.length ≠ 0 := fun h => hstart (String.length_eq_zero_iff.mp h)
      omega
    by_cases hb : beginsWith (c :: cs) start.toList = true
    · have hsome : startRule start true (c :: cs) = some (start.length - 1 + 1, []) := by
        rw [← hpos]
        exact if_pos (by simpa using hb)
      rw [if_pos hb, rewriteFrom_of_some hsome, rewriteFrom_startRule_false, hpos]
      rfl
    · have hnone : startRule start true (c :: cs) = none := if_neg (by simpa using hb)
      rw [if_neg hb, rewriteFrom_of_none hnone, rewriteFrom_startRule_false, ← hs,
        String.ofList_toList]

/-- **The two tests agree** on names of GraphQL. -/
theorem rewrite_startRule_of_isName {name key : String} (hname : isName name = true)
    (hkey : isName key = true) : rewrite (startRule key) name =
      if startsWith (lower name) (lower key) then String.ofList (name.toList.drop key.length)
      else name := by
  rw [rewrite_startRule (GraphQL.ne_empty_of_isName hkey), beginsWith_eq_isPrefixOf]
  unfold startsWith
  rw [lower_of_isName hname, lower_of_isName hkey]

/-! ### What stays a name -/

/-- The text is not empty, and no digit is its first character. -/
def canStart (s : String) : Bool :=
  s.toList.head?.any (!·.isDigit)

theorem not_isDigit_of_isAlpha {c : Char} (h : c.isAlpha = true) : ¬c.isDigit = true := by
  simp only [Char.isAlpha, Bool.or_eq_true] at h
  rcases h with h | h
  · exact not_isDigit_of_isUpper h
  · simp only [Char.isLower, Char.isDigit, Bool.and_eq_true, decide_eq_true_eq, ge_iff_le,
      UInt32.le_iff_toNat_le] at h ⊢
    exact fun hd => absurd (h.1.trans hd.2) (by decide)

theorem isDigit_toLower (c : Char) : c.toLower.isDigit = c.isDigit := by
  by_cases hc : c.isUpper = true
  · have hlower : c.toLower.isAlpha = true := by simp [Char.isAlpha, hc]
    rw [Bool.eq_false_iff.mpr (not_isDigit_of_isUpper hc),
      Bool.eq_false_iff.mpr (not_isDigit_of_isAlpha hlower)]
  · rw [Char.toLower_eq_of_not_isUpper hc]

section Parts

variable {s : String}

/-- Of a part of a name, the first character decides whether it is a name. -/
theorem isName_eq_canStart (hs : ∀ c ∈ s.toList, isNamePart c = true) : isName s = canStart s := by
  unfold isName canStart
  cases hl : s.toList with
  | nil => rfl
  | cons c cs =>
    rw [hl] at hs
    have hall : cs.all isNamePart = true :=
      List.all_eq_true.mpr fun d hd => hs d (List.mem_cons_of_mem _ hd)
    have hc := hs c List.mem_cons_self
    simp only [hall, Bool.and_true, List.head?_cons, Option.any_some]
    by_cases hd : c.isDigit = true
    · have hne : c ≠ '_' := by
        rintro rfl
        simp at hd
      have halpha : c.isAlpha = false := by
        by_contra h
        exact not_isDigit_of_isAlpha (by simpa using h) hd
      simp [isNameStart, hd, hne, halpha]
    · have hstart : isNameStart c = true := by simpa [isNamePart, hd] using hc
      simp [hstart, hd]

/-- Of parts of names, exactly the names are identifiers. -/
theorem isIdentifier_eq_isName (hs : ∀ c ∈ s.toList, isNamePart c = true) :
    isIdentifier s = isName s := by
  unfold isIdentifier isName
  cases hl : s.toList with
  | nil => rfl
  | cons c cs =>
    rw [hl] at hs
    have hascii : ∀ d ∈ c :: cs, d.toNat < 128 := fun d hd => GraphQL.isNamePart_lt (hs d hd)
    have hstart : ∀ d ∈ c :: cs, isIdentifierStart d = isNameStart d := fun d hd => by
      simp [isIdentifierStart, isNameStart, Nat.not_le.mpr (hascii d hd)]
    have hpart : cs.all isIdentifierPart = cs.all isNamePart := by
      rw [Bool.eq_iff_iff, List.all_eq_true, List.all_eq_true]
      refine forall₂_congr fun d hd => ?_
      have hd := List.mem_cons_of_mem c hd
      simp [isIdentifierPart, isNamePart, hstart d hd, Nat.not_le.mpr (hascii d hd)]
    simp only [hstart c List.mem_cons_self, hpart]

theorem isName_lowerFirst (hs : ∀ c ∈ s.toList, isNamePart c = true) :
    isName (lowerFirst s) = isName s := by
  rw [isName_eq_canStart hs, isName_eq_canStart (lowerFirst_of_isNamePart hs).2.1]
  unfold canStart
  cases hl : s.toList with
  | nil => simp [lowerFirst, hl]
  | cons c cs =>
    rw [lowerFirst_toList hl (GraphQL.isNamePart_lt (hs c (hl ▸ List.mem_cons_self)))]
    simp [isDigit_toLower]

theorem isName_snakeCase (hs : isName s = true) : isName (snakeCase s) = true := by
  have hpart := fun c => GraphQL.isNamePart_of_mem hs (c := c)
  rw [isName_eq_canStart hpart] at hs
  rw [isName_eq_canStart (isNamePart_snakeCase hpart)]
  unfold canStart at hs ⊢
  rw [toList_snakeCase hpart, List.head?_map, head?_spaced, Option.any_map]
  simpa [Function.comp_def, isDigit_toLower] using hs

end Parts

theorem isName_escapeName {s : String} (hs : isName s = true) : isName (escapeName s) = true := by
  unfold escapeName
  split
  · obtain ⟨c, cs, hl, hc, hcs⟩ := GraphQL.isName_iff.mp hs
    refine GraphQL.isName_iff.mpr ⟨c, cs ++ ['_'], by simp [hl], hc, fun d hd => ?_⟩
    rcases List.mem_append.mp hd with hd | hd
    · exact hcs d hd
    · rw [List.mem_singleton.mp hd]
      decide
  · exact hs

/-- **No name is reserved** after that: no reserved word has a low line behind another
one. -/
theorem escapeName_notMem (s : String) : escapeName s ∉ keywords ∧ escapeName s ∉ softKeywords := by
  have hfree : ∀ w ∈ keywords ++ softKeywords, w ++ "_" ∉ keywords ∧ w ++ "_" ∉ softKeywords := by
    decide +kernel
  unfold escapeName
  split
  case isTrue h => exact hfree s (by simpa using h)
  case isFalse h => simpa using h

end Text

/-! ### The part of a name that counts -/

/-- What is left of the name by the search is what is left of it by the test of the
classification. -/
theorem stripStart_eq_rewrite {name key : String} (hkey : key ≠ "") :
    stripStart name key = Text.rewrite (Text.startRule key) name := by
  rw [Text.rewrite_startRule hkey, Text.beginsWith_eq_isPrefixOf]
  rfl

namespace SdkOperation

/-- The part of an operation's name that its method is named by: what is left of it when
a child's key is taken away, if that is something and does not start with a digit, and
else all of it. -/
def ownPart (o : SdkOperation) : String :=
  match o.role.childKey? with
  | some key =>
    let rest := Text.rewrite (Text.startRule key) o.name
    if Text.canStart rest then rest else o.name
  | none => o.name

variable {c : Config} {o : SdkOperation}

theorem isName_childKey (h : Described c o) {key : String} (hk : o.role.childKey? = some key) :
    isName key = true := by
  apply h.isName_key
  cases hr : o.role with
  | root => simp [hr, Role.childKey?] at hk
  | parent k => simp [hr, Role.childKey?] at hk
  | child k => rwa [hr] at hk

theorem present_childKey? (h : Described c o) : present o.role.childKey? = o.role.childKey? := by
  cases hk : o.role.childKey? with
  | none => rfl
  | some key => exact GraphQL.present_of_isName (isName_childKey h hk)

/-- A child's name starts with its key when both are in lower case. -/
theorem startsWith_of_child (h : Described c o) {key : String} (hr : o.role = .child key) :
    Text.startsWith (Text.lower o.name) (Text.lower key) = true := by
  obtain ⟨-, -, name, hname, -, hstart⟩ := (classify_eq_child_iff h.wellNamed).mp (h.role_eq ▸ hr)
  rw [h.name?_eq] at hname
  rwa [Option.some.inj hname]

theorem isNamePart_rewrite (h : Described c o) (key : String) (hkey : key ≠ "") :
    ∀ d ∈ (Text.rewrite (Text.startRule key) o.name).toList, isNamePart d = true := by
  rw [← stripStart_eq_rewrite hkey]
  exact fun d hd => GraphQL.isNamePart_of_mem h.isName_name (mem_of_mem_stripStart hd)

theorem methodStem_eq (h : Described c o) : o.methodStem = Text.lowerFirst o.ownPart := by
  unfold methodStem ownPart
  rw [present_childKey? h]
  cases hk : o.role.childKey? with
  | none => rfl
  | some key =>
    have hkey := GraphQL.ne_empty_of_isName (isName_childKey h hk)
    have hpart := isNamePart_rewrite h key hkey
    simp only [stripStart_eq_rewrite hkey]
    rw [Text.isIdentifier_eq_isName (Text.lowerFirst_of_isNamePart hpart).2.1,
      Text.isName_lowerFirst hpart, Text.isName_eq_canStart hpart]
    split <;> rfl

theorem isName_ownPart (h : Described c o) : isName o.ownPart = true := by
  unfold ownPart
  cases hk : o.role.childKey? with
  | none => exact h.isName_name
  | some key =>
    have hkey := GraphQL.ne_empty_of_isName (isName_childKey h hk)
    simp only
    split
    case isTrue hstart => rwa [Text.isName_eq_canStart (isNamePart_rewrite h key hkey)]
    case isFalse => exact h.isName_name

/-- **The key is taken away**: as many characters as it has, which are those of the key
when both are in lower case. -/
theorem exists_start_of_child (h : Described c o) {key : String} (hr : o.role = .child key) :
    ∃ start rest, o.name = start ++ rest ∧ start.length = key.length ∧
      Text.lower start = Text.lower key ∧ Text.rewrite (Text.startRule key) o.name = rest := by
  have hkey : isName key = true := isName_childKey h (by rw [hr]; rfl)
  have hstart := startsWith_of_child h hr
  have hrewrite := Text.rewrite_startRule_of_isName h.isName_name hkey
  rw [if_pos hstart] at hrewrite
  unfold Text.startsWith at hstart
  rw [Text.lower_of_isName hkey, Text.lower_of_isName h.isName_name, List.isPrefixOf_iff_prefix,
    List.prefix_iff_eq_take, List.length_map, ← List.map_take] at hstart
  have hlength : (o.name.toList.take key.toList.length).length = key.toList.length := by
    simpa using (congrArg List.length hstart).symm
  have hascii : ∀ d ∈ o.name.toList.take key.toList.length, d.toNat < 128 := fun d hd =>
    GraphQL.isName_lt h.isName_name d (List.mem_of_mem_take hd)
  refine ⟨String.ofList (o.name.toList.take key.toList.length), _, ?_, ?_, ?_, hrewrite⟩
  · rw [← String.length_toList, ← String.ofList_append, List.take_append_drop, String.ofList_toList]
  · rw [← String.length_toList, String.toList_ofList, hlength, String.length_toList]
  · apply String.toList_injective
    rw [Text.lower_of_isName hkey, hstart, Text.lower, String.toList_ofList, String.toList_ofList,
      Text.lowerAfter_of_lt hascii]

end SdkOperation

/-- **Usable names.** The search for a key at the start of an operation's name finds it
exactly if the name starts with the key when both are in lower case, and takes away as
many characters as the key has: so it does for a child. The method is named by what is
left, if that is something and does not start with a digit, and else by the whole name,
as for all that are no children. Its name is not empty, has no capital letter, is an
identifier, and is reserved nowhere. -/
theorem methodName_usable {c : Config} {o : SdkOperation} (h : Described c o) :
    (∀ key, isName key = true → Text.rewrite (Text.startRule key) o.name =
      if Text.startsWith (Text.lower o.name) (Text.lower key) then
        String.ofList (o.name.toList.drop key.length)
      else o.name) ∧
    (∀ key, o.role = .child key → ∃ start rest, o.name = start ++ rest ∧
      start.length = key.length ∧ Text.lower start = Text.lower key ∧
      Text.rewrite (Text.startRule key) o.name = rest ∧ stripStart o.name key = rest) ∧
    methodName o = Text.escapeName (Text.snakeCase (Text.lowerFirst o.ownPart)) ∧
    methodName o ≠ "" ∧ Text.Small (methodName o) ∧ Text.isIdentifier (methodName o) = true ∧
    methodName o ∉ Text.keywords ∧ methodName o ∉ Text.softKeywords := by
  have hpart : isName (Text.lowerFirst o.ownPart) = true := by
    have hown := SdkOperation.isName_ownPart h
    rwa [Text.isName_lowerFirst fun d hd => GraphQL.isNamePart_of_mem hown hd]
  have heq : methodName o = Text.escapeName (Text.snakeCase (Text.lowerFirst o.ownPart)) := by
    rw [methodName_eq, SdkOperation.methodStem_eq h]
  have hname : isName (methodName o) = true := by
    rw [heq]
    exact Text.isName_escapeName (Text.isName_snakeCase hpart)
  have hfree := Text.escapeName_notMem (Text.snakeCase (Text.lowerFirst o.ownPart))
  rw [← heq] at hfree
  refine ⟨fun key hkey => Text.rewrite_startRule_of_isName h.isName_name hkey, fun key hr => ?_, heq,
    GraphQL.ne_empty_of_isName hname, Text.small_methodName h.isName_name, ?_, hfree⟩
  · obtain ⟨start, rest, hsplit, hlength, hlower, hrest⟩ := SdkOperation.exists_start_of_child h hr
    have hkey := GraphQL.ne_empty_of_isName (SdkOperation.isName_childKey h (by rw [hr]; rfl))
    exact ⟨start, rest, hsplit, hlength, hlower, hrest, (stripStart_eq_rewrite hkey).trans hrest⟩
  · rw [Text.isIdentifier_eq_isName fun d hd => GraphQL.isNamePart_of_mem hname hd]
    exact hname

namespace GraphQL

/-- A child whose name has its key in capital letters, and a reserved word behind it. -/
def Document.teamImport : Document := ⟨[
  .operation ⟨.mutation, some "TEAMImport", [.sampleId], [], [.field none "team" [] [] []]⟩]⟩

end GraphQL

open GraphQL in
/-- The key is taken away in another case, and what is left is a reserved word in snake
case. -/
theorem sample_usable : ∃ os o, (classifyAll {} Document.teamImport).mapM (describe {}) = .ok os ∧
    o ∈ os ∧ Described {} o ∧ o.role = .child "team" ∧ o.name = "TEAMImport" ∧
    Text.rewrite (Text.startRule "team") o.name = "Import" ∧ methodName o = "import_" ∧
    Text.isIdentifier (methodName o) = true ∧ methodName o ∉ Text.keywords := by
  have hrun : (((classifyAll {} Document.teamImport).mapM (describe {})).toOption.any fun os =>
      os.any fun o => o.role = .child "team" ∧ o.name = "TEAMImport" ∧
        methodName o = "import_") = true := by decide +kernel
  obtain ⟨os, hos, hrun⟩ := (Option.any_eq_true _ _).mp hrun
  obtain ⟨o, ho, hrun⟩ := List.any_eq_true.mp hrun
  obtain ⟨hr, hname, hmethod⟩ := of_decide_eq_true hrun
  have hwell : Document.teamImport.WellNamed := by decide +kernel
  have hd := described_of_mem hwell (eq_ok_of_toOption hos) o ho
  obtain ⟨hsearch, -, -, -, -, hidentifier, hfree, -⟩ := methodName_usable hd
  refine ⟨os, o, eq_ok_of_toOption hos, ho, hd, hr, hname, ?_, hmethod, hidentifier, hfree⟩
  rw [hsearch "team" (by decide), hname]
  decide +kernel

end ChainedSdk
