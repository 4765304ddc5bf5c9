/-
# How a module is laid out

A module is its head, which its configuration and its imports decide, and its
declarations, block after block: documents, records, APIs and results
(`SdkModule.text_eq`). So the text of a module says where each of its
declarations stands, and each block that is left out makes it shorter.

Key definitions: `SdkModule.head`, `SdkModule.blocks`.
Key theorem: `SdkModule.text_eq`.
-/
import ChainedSdk.Proofs.Pieces
import ChainedSdk.SdkModule
import Mathlib.Data.List.TakeWhile

namespace ChainedSdk

namespace Text

/-! ### Lines -/

/-- The first line of a text tells it apart from another one. -/
theorem append_newline_inj {a b u v : List Char} (ha : '\n' ∉ a) (hb : '\n' ∉ b)
    (h : a ++ '\n' :: u = b ++ '\n' :: v) : a = b ∧ u = v := by
  have htake := congrArg (List.takeWhile (· ≠ '\n')) h
  have hall : ∀ {a u : List Char}, '\n' ∉ a → (a ++ '\n' :: u).takeWhile (· ≠ '\n') = a := by
    intro a u ha
    rw [List.takeWhile_append_of_pos]
    · simp
    · intro c hc
      simpa using fun e : c = '\n' => ha (e ▸ hc)
  rw [hall ha, hall hb] at htake
  subst htake
  exact ⟨rfl, (List.cons.inj (List.append_cancel_left h)).2⟩

/-- The first line. -/
def firstLine (cs : List Char) : List Char :=
  cs.takeWhile (· ≠ '\n')

theorem firstLine_append (cs rest : List Char) :
    firstLine (cs ++ '\n' :: rest) = firstLine cs := by
  unfold firstLine
  rw [List.takeWhile_append]
  split
  · rename_i hlen
    rw [(List.takeWhile_prefix _).eq_of_length hlen]
    simp
  · rfl

/-- The text has no two empty lines in a row, and does not end in a line feed. -/
def Sealed (cs : List Char) : Prop :=
  ¬['\n', '\n', '\n'] <:+: cs ++ ['\n', '\n']

theorem sealed_append_inj {s t u v : List Char} (hs : Sealed s) (ht : Sealed t)
    (h : s ++ ['\n', '\n', '\n'] ++ u = t ++ ['\n', '\n', '\n'] ++ v) : s = t ∧ u = v := by
  have hlong : ∀ {s w u v : List Char}, Sealed (s ++ w) →
      ['\n', '\n', '\n'] ++ v = w ++ (['\n', '\n', '\n'] ++ u) → w = [] := by
    intro s w u v hs h
    cases w with
    | nil => rfl
    | cons c w =>
      refine absurd ?_ hs
      have hbreaks : ['\n', '\n', '\n'] <+: ['\n', '\n', '\n'] ++ v := ⟨v, rfl⟩
      have hp : ['\n', '\n', '\n'] <+: (c :: w) ++ ['\n', '\n'] := by
        refine List.prefix_of_prefix_length_le hbreaks ?_ ?_
        · rw [h]
          exact ⟨'\n' :: u, by simp⟩
        · simp
      rw [List.append_assoc]
      exact List.infix_append_of_infix_right hp.isInfix
  rw [List.append_assoc, List.append_assoc] at h
  rcases List.append_eq_append_iff.mp h with ⟨w, rfl, hw⟩ | ⟨w, rfl, hw⟩
  · have hnil := hlong ht hw
    subst hnil
    simpa using hw
  · have hnil := hlong hs hw
    subst hnil
    simpa [eq_comm] using hw

/-- Lines without a line break, the last one and one of any two neighbours not empty. -/
def Spaced : List String → Prop
  | [] => False
  | [l] => l ≠ ""
  | l :: m :: rest => (l = "" → m ≠ "") ∧ Spaced (m :: rest)

theorem not_infix_append {w : List Char} (hw : ¬['\n', '\n', '\n'] <:+: w) : ∀ {l : List Char},
    '\n' ∉ l → ¬['\n', '\n', '\n'] <:+: l ++ w
  | [], _ => hw
  | c :: l, hl => by
    obtain ⟨hc, hl⟩ := List.ne_and_not_mem_of_not_mem_cons hl
    rw [List.cons_append, List.infix_cons_iff]
    rintro (h | h)
    · exact hc (List.cons_prefix_cons.mp h).1
    · exact not_infix_append hw hl h

theorem exists_head_join {l : String} (hne : l ≠ "") (hl : '\n' ∉ l.toList) (rest : List String) :
    ∃ c cs, (joinWith "\n" (l :: rest)).toList = c :: cs ∧ c ≠ '\n' := by
  cases hc : l.toList with
  | nil => exact absurd (String.toList_injective hc) hne
  | cons c cs =>
    rw [hc] at hl
    have hne := (List.ne_and_not_mem_of_not_mem_cons hl).1
    cases rest with
    | nil => exact ⟨c, cs, hc, hne.symm⟩
    | cons m rest =>
      refine ⟨c, cs ++ '\n' :: (joinWith "\n" (m :: rest)).toList, ?_, hne.symm⟩
      simp [joinWith, hc]

theorem sealed_join : ∀ {ls : List String}, (∀ l ∈ ls, '\n' ∉ l.toList) → Spaced ls →
    Sealed (joinWith "\n" ls).toList
  | [], _, hs => hs.elim
  | [l], hl, _ =>
    not_infix_append (fun h => absurd h.length_le (by simp)) (hl l List.mem_cons_self)
  | l :: m :: rest, hl, hs => by
    have ih : Sealed (joinWith "\n" (m :: rest)).toList :=
      sealed_join (fun x hx => hl x (List.mem_cons_of_mem _ hx)) hs.2
    have hm := hl m (List.mem_cons_of_mem _ List.mem_cons_self)
    have hjoin : (joinWith "\n" (l :: m :: rest)).toList ++ ['\n', '\n'] =
        l.toList ++ '\n' :: ((joinWith "\n" (m :: rest)).toList ++ ['\n', '\n']) := by
      simp [joinWith]
    unfold Sealed at ih ⊢
    rw [hjoin]
    refine not_infix_append ?_ (hl l List.mem_cons_self)
    rw [List.infix_cons_iff]
    rintro (h | h)
    · have h := (List.cons_prefix_cons.mp h).2
      by_cases hne : m = ""
      · -- the line after an empty one is not empty
        subst hne
        cases rest with
        | nil => exact hs.2 rfl
        | cons n rest =>
          have hn := hl n (List.mem_cons_of_mem _ (List.mem_cons_of_mem _ List.mem_cons_self))
          obtain ⟨c, cs, hc, hcn⟩ := exists_head_join (hs.2.1 rfl) hn rest
          have hjoin : (joinWith "\n" ("" :: n :: rest)).toList =
              '\n' :: (joinWith "\n" (n :: rest)).toList := by simp [joinWith]
          rw [hjoin, hc] at h
          exact hcn (List.cons_prefix_cons.mp (List.cons_prefix_cons.mp h).2).1.symm
      · obtain ⟨c, cs, hc, hcn⟩ := exists_head_join hne hm rest
        rw [hc] at h
        exact hcn (List.cons_prefix_cons.mp h).1.symm
    · exact ih h

end Text

namespace SdkModule

/-- The docstring and the imports of a module. -/
def head (c : Config) (scalarImports : List String) : String :=
  opening c.sdkName
    ++ Text.joinWith "" (scalarImports.map line)
    ++ "\n"
    ++ namesImport c.runtimeModule c.runtimeNames
    ++ documentsImport c
    ++ typesImport c

/-- Declarations one after the other. -/
def blocks (declarations : List String) : String :=
  Text.joinWith "" (declarations.map block)

theorem blocks_append (xs ys : List String) : blocks (xs ++ ys) = blocks xs ++ blocks ys := by
  unfold blocks
  rw [List.map_append, Text.joinWith_append]

/-- **The layout of a module.** -/
theorem text_eq (m : SdkModule) : m.text = head m.config m.scalarImports ++ blocks m.documents ++
    blocks m.records ++ blocks m.apis ++ blocks m.results := by
  have hblocks : blocks (m.documents ++ m.records ++ m.apis ++ m.results) =
      blocks m.documents ++ blocks m.records ++ blocks m.apis ++ blocks m.results := by
    rw [blocks_append, blocks_append, blocks_append]
  show head m.config m.scalarImports ++ blocks (m.documents ++ m.records ++ m.apis ++ m.results) = _
  rw [hblocks]
  simp only [String.append_assoc]

/-! ### Telling modules apart -/

theorem blocks_cons (x : String) (xs : List String) :
    blocks (x :: xs) = "\n\n" ++ x ++ "\n" ++ blocks xs := by
  unfold blocks
  rw [List.map_cons, Text.joinWith_cons]
  simp only [block, line, String.append_assoc]

theorem blocks_nil_append (u : String) : blocks [] ++ "\n\n" ++ u = "\n\n" ++ u := by
  simp [blocks, Text.joinWith]

theorem blocks_cons_append (x : String) (xs : List String) (u : String) :
    blocks (x :: xs) ++ "\n\n" ++ u = "\n\n" ++ (x ++ "\n" ++ (blocks xs ++ "\n\n" ++ u)) := by
  rw [blocks_cons]
  simp only [String.append_assoc]

/-- What follows a block starts with an empty line. -/
theorem exists_blocks_append (xs : List String) (u : String) :
    ∃ w, blocks xs ++ "\n\n" ++ u = "\n\n" ++ w := by
  cases xs with
  | nil => exact ⟨u, blocks_nil_append u⟩
  | cons x xs => exact ⟨_, blocks_cons_append x xs u⟩

/-- **Blocks can be told apart.** Of two sequences of declarations with one text,
one goes on where the other ends. -/
theorem blocks_append_inj : ∀ {xs ys : List String} {u v : String},
    (∀ x ∈ xs, Text.Sealed x.toList) → (∀ y ∈ ys, Text.Sealed y.toList) →
    blocks xs ++ "\n\n" ++ u = blocks ys ++ "\n\n" ++ v →
    (xs = ys ∧ u = v) ∨
    (∃ y rest, ys = xs ++ y :: rest ∧ u = y ++ "\n" ++ blocks rest ++ "\n\n" ++ v) ∨
    ∃ x rest, xs = ys ++ x :: rest ∧ v = x ++ "\n" ++ blocks rest ++ "\n\n" ++ u
  | [], [], u, v, _, _, h => by
    refine Or.inl ⟨rfl, ?_⟩
    simpa [blocks, Text.joinWith] using h
  | [], y :: ys, u, v, _, _, h => by
    refine Or.inr (Or.inl ⟨y, ys, rfl, ?_⟩)
    rw [blocks_cons_append, blocks_nil_append] at h
    simpa only [String.append_assoc] using (String.append_right_inj _).mp h
  | x :: xs, [], u, v, _, _, h => by
    refine Or.inr (Or.inr ⟨x, xs, rfl, ?_⟩)
    rw [blocks_cons_append, blocks_nil_append] at h
    simpa only [String.append_assoc] using (String.append_right_inj _).mp h.symm
  | x :: xs, y :: ys, u, v, hx, hy, h => by
    obtain ⟨w, hw⟩ := exists_blocks_append xs u
    obtain ⟨z, hz⟩ := exists_blocks_append ys v
    have hchars := congrArg String.toList h
    have hjoin : ∀ (x : String) (xs : List String) (u w : String),
        blocks xs ++ "\n\n" ++ u = "\n\n" ++ w →
        (blocks (x :: xs) ++ "\n\n" ++ u).toList =
          ['\n', '\n'] ++ (x.toList ++ ['\n', '\n', '\n'] ++ w.toList) := by
      intro x xs u w hw
      rw [blocks_cons_append, hw]
      simp
    rw [hjoin x xs u w hw, hjoin y ys v z hz] at hchars
    obtain ⟨hxy, hwz⟩ := Text.sealed_append_inj (hx x List.mem_cons_self) (hy y List.mem_cons_self)
      (List.append_cancel_left hchars)
    have hxy := String.toList_injective hxy
    have hwz := String.toList_injective hwz
    subst hxy
    rcases blocks_append_inj (fun x h => hx x (List.mem_cons_of_mem _ h))
      (fun y h => hy y (List.mem_cons_of_mem _ h)) (by rw [hw, hz, hwz]) with h | h | h
    · exact Or.inl ⟨by rw [h.1], h.2⟩
    · obtain ⟨y, rest, hys, hu⟩ := h
      exact Or.inr (Or.inl ⟨y, rest, by rw [hys]; rfl, hu⟩)
    · obtain ⟨y, rest, hys, hu⟩ := h
      exact Or.inr (Or.inr ⟨y, rest, by rw [hys]; rfl, hu⟩)

/-- Imports can be told apart, as lines that are not empty with an empty line
behind them. -/
theorem lines_append_inj : ∀ {xs ys : List String} {u v : String},
    (∀ x ∈ xs, x ≠ "" ∧ '\n' ∉ x.toList) → (∀ y ∈ ys, y ≠ "" ∧ '\n' ∉ y.toList) →
    Text.joinWith "" (xs.map line) ++ "\n" ++ u = Text.joinWith "" (ys.map line) ++ "\n" ++ v →
    xs = ys ∧ u = v := by
  have hnil : ∀ u : String, (Text.joinWith "" (([] : List String).map line) ++ "\n" ++ u).toList =
      [] ++ '\n' :: u.toList := by
    intro u
    simp [Text.joinWith]
  have hcons : ∀ (x : String) (xs : List String) (u : String),
      (Text.joinWith "" ((x :: xs).map line) ++ "\n" ++ u).toList =
        x.toList ++ '\n' :: (Text.joinWith "" (xs.map line) ++ "\n" ++ u).toList := by
    intro x xs u
    rw [List.map_cons, Text.joinWith_cons]
    simp [line]
  intro xs
  induction xs with
  | nil =>
    intro ys u v _ hy h
    have hl := congrArg String.toList h
    cases ys with
    | nil =>
      rw [hnil, hnil] at hl
      exact ⟨rfl, String.toList_injective (Text.append_newline_inj (by simp) (by simp) hl).2⟩
    | cons y ys =>
      rw [hnil, hcons] at hl
      obtain ⟨hne, hn⟩ := hy y List.mem_cons_self
      have hempty : y.toList = "".toList := (Text.append_newline_inj (by simp) hn hl).1.symm
      exact absurd (String.toList_injective hempty) hne
  | cons x xs ih =>
    intro ys u v hx hy h
    have hl := congrArg String.toList h
    obtain ⟨hne, hn⟩ := hx x List.mem_cons_self
    cases ys with
    | nil =>
      rw [hnil, hcons] at hl
      have hempty : x.toList = "".toList := (Text.append_newline_inj hn (by simp) hl).1
      exact absurd (String.toList_injective hempty) hne
    | cons y ys =>
      rw [hcons, hcons] at hl
      obtain ⟨hxy, hrest⟩ := Text.append_newline_inj hn (hy y List.mem_cons_self).2 hl
      obtain ⟨rfl, huv⟩ := ih (fun x h => hx x (List.mem_cons_of_mem _ h))
        (fun y h => hy y (List.mem_cons_of_mem _ h)) (String.toList_injective hrest)
      exact ⟨by rw [String.toList_injective hxy], huv⟩

/-- **Heads can be told apart** by their imports. -/
theorem head_append_inj {c : Config} {xs ys : List String} {u v : String}
    (hx : ∀ x ∈ xs, x ≠ "" ∧ '\n' ∉ x.toList) (hy : ∀ y ∈ ys, y ≠ "" ∧ '\n' ∉ y.toList)
    (h : head c xs ++ u = head c ys ++ v) : xs = ys ∧ u = v := by
  have hhead : ∀ (xs : List String) (u : String), head c xs ++ u = opening c.sdkName ++
      (Text.joinWith "" (xs.map line) ++ "\n" ++
        (namesImport c.runtimeModule c.runtimeNames ++ documentsImport c ++ typesImport c ++ u)) := by
    intro xs u
    unfold head
    simp only [String.append_assoc]
  rw [hhead, hhead] at h
  obtain ⟨hxy, huv⟩ := lines_append_inj hx hy ((String.append_right_inj _).mp h)
  exact ⟨hxy, (String.append_right_inj _).mp huv⟩

/-- **Records, APIs and results.** Where the APIs are the same and no record starts
like the first of them, the text tells the records and the results. -/
theorem blocks_sections_inj {xs ys ps rs ss : List String} {p : String}
    (hx : ∀ x ∈ xs, Text.Sealed x.toList) (hy : ∀ y ∈ ys, Text.Sealed y.toList)
    (hr : ∀ r ∈ rs, Text.Sealed r.toList) (hs : ∀ s ∈ ss, Text.Sealed s.toList)
    (hxp : ∀ x ∈ xs, Text.firstLine x.toList ≠ Text.firstLine p.toList)
    (hyp : ∀ y ∈ ys, Text.firstLine y.toList ≠ Text.firstLine p.toList)
    (h : blocks xs ++ blocks (p :: ps) ++ blocks rs = blocks ys ++ blocks (p :: ps) ++ blocks ss) :
    xs = ys ∧ rs = ss := by
  have hsplit : ∀ xs rs : List String, blocks xs ++ blocks (p :: ps) ++ blocks rs =
      blocks xs ++ "\n\n" ++ (p ++ "\n" ++ (blocks ps ++ blocks rs)) := by
    intro xs rs
    rw [blocks_cons]
    simp only [String.append_assoc]
  have hclash : ∀ {x z t : String}, Text.firstLine x.toList ≠ Text.firstLine p.toList →
      p ++ ("\n" ++ z) ≠ x ++ ("\n" ++ t) := by
    intro x z t hne h
    have hl := congrArg (fun s : String => Text.firstLine s.toList) h
    simp only [String.toList_append] at hl
    have hone : ∀ a b : List Char, Text.firstLine (a ++ ("\n".toList ++ b)) = Text.firstLine a :=
      fun a b => Text.firstLine_append a b
    rw [hone, hone] at hl
    exact hne hl.symm
  rw [hsplit, hsplit] at h
  rcases blocks_append_inj hx hy h with ⟨hxy, hrest⟩ | ⟨y, rest, hys, hrest⟩ | ⟨x, rest, hxs, hrest⟩
  · refine ⟨hxy, ?_⟩
    have hrest := (String.append_right_inj _).mp ((String.append_right_inj _).mp hrest)
    have hend : blocks rs ++ "\n\n" ++ "" = blocks ss ++ "\n\n" ++ "" := by rw [hrest]
    have hlong : ∀ {x z t : String}, "" ≠ x ++ "\n" ++ z ++ "\n\n" ++ t := by
      intro x z t h
      have hl := congrArg String.toList h
      simp at hl
    rcases blocks_append_inj hr hs hend with ⟨hrs, -⟩ | ⟨_, _, -, hnil⟩ | ⟨_, _, -, hnil⟩
    · exact hrs
    · exact absurd hnil hlong
    · exact absurd hnil hlong
  · have hy := hyp y (by rw [hys]; simp)
    simp only [String.append_assoc] at hrest
    exact absurd hrest (hclash hy)
  · have hx := hxp x (by rw [hxs]; simp)
    simp only [String.append_assoc] at hrest
    exact absurd hrest (hclash hx)

end SdkModule
end ChainedSdk
