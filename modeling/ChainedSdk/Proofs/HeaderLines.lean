/-
# What headers put above a module

A header is cut at line feeds, and every line of it is made a comment. A module is
read with carriage returns as line feeds, so a line with a carriage return in it
is two lines then, and the second one is no comment (`Text.unifyNewlines_ended`).
What headers put above a module is blank lines and comments exactly if this happens
nowhere (`Header.Contained`); it does not in a header without carriage returns
(`Header.contained_of_notMem`).

Blank lines and comments make no lexemes (`Lexeme.scan_ended`), so what headers
like that are put on has the lexemes it had, and is a module if it was one.

Key definitions: `Text.physicalLines`, `Header.Inert`, `Header.Contained`,
`Header.block`.
Key theorem: `Header.putAll_inert`.
-/
import ChainedSdk.Header
import ChainedSdk.Proofs.Checking
import ChainedSdk.Proofs.Layout
import Mathlib.Data.List.DropRight

namespace ChainedSdk

namespace Text

/-! ### Lines that end differently -/

/-- The lines a text is read in: a line feed, a carriage return or both end a line. -/
def physicalLines (cs : List Char) : List (List Char) :=
  splitAt '\n' (unifyNewlines cs)

/-- The lines with a line feed behind each of them. -/
def ended (ls : List (List Char)) : List Char :=
  ls.flatMap (· ++ ['\n'])

theorem ended_append (ks ls : List (List Char)) : ended (ks ++ ls) = ended ks ++ ended ls :=
  List.flatMap_append

theorem ended_cons (l : List Char) (ls : List (List Char)) (rest : List Char) :
    ended (l :: ls) ++ rest = l ++ '\n' :: (ended ls ++ rest) := by
  unfold ended
  rw [List.flatMap_cons, List.append_assoc, List.append_assoc]
  rfl

theorem splitAt_ended {rest : List Char} : ∀ {ls : List (List Char)}, (∀ l ∈ ls, '\n' ∉ l) →
    splitAt '\n' (ended ls ++ rest) = ls ++ splitAt '\n' rest
  | [], _ => rfl
  | l :: ls, h => by
    rw [ended_cons, splitAt_line (h l List.mem_cons_self),
      splitAt_ended fun k hk => h k (List.mem_cons_of_mem _ hk), List.cons_append]

theorem unifyNewlines_cons {c : Char} (h : c ≠ '\r') (cs : List Char) :
    unifyNewlines (c :: cs) = c :: unifyNewlines cs := by
  rw [unifyNewlines]
  · exact fun _ hc => absurd hc h
  · exact h

theorem unifyNewlines_return {d : Char} (h : d ≠ '\n') (cs : List Char) :
    unifyNewlines ('\r' :: d :: cs) = '\n' :: unifyNewlines (d :: cs) := by
  rw [unifyNewlines]
  intro rest hrest
  exact h (List.head_eq_of_cons_eq hrest)

/-- A line without line feeds is read as its pieces between carriage returns, but for an
empty last one. -/
theorem unifyNewlines_line : ∀ {l : List Char}, '\n' ∉ l → ∃ p ps,
    (∀ rest, unifyNewlines (l ++ '\n' :: rest) = ended (p :: ps) ++ unifyNewlines rest) ∧
    (∀ q ∈ p :: ps, '\n' ∉ q) ∧
    (splitAt '\r' l = p :: ps ∨ splitAt '\r' l = p :: ps ++ [[]])
  | [], _ => ⟨[], [], fun _ => rfl, by simp, Or.inl rfl⟩
  | c :: l, h => by
    simp only [List.mem_cons, not_or] at h
    obtain ⟨p, ps, hread, hfeeds, hpieces⟩ := unifyNewlines_line h.2
    by_cases hc : c = '\r'
    · subst hc
      cases l with
      | nil => exact ⟨[], [], fun _ => rfl, by simp, Or.inr rfl⟩
      | cons d l =>
        simp only [List.mem_cons, not_or] at h
        refine ⟨[], p :: ps, fun rest => ?_, ?_, ?_⟩
        · rw [List.cons_append, List.cons_append, unifyNewlines_return (Ne.symm h.2.1),
            ← List.cons_append, hread]
          exact (ended_cons [] (p :: ps) _).symm
        · simpa using hfeeds
        · rw [splitAt, if_pos rfl]
          exact hpieces.imp (congrArg _) (congrArg _)
    · refine ⟨c :: p, ps, fun rest => ?_, fun q hq => ?_, ?_⟩
      · rw [List.cons_append, unifyNewlines_cons hc, hread]
        rfl
      · rcases List.mem_cons.mp hq with rfl | hq
        · simp [h.1, hfeeds p List.mem_cons_self]
        · exact hfeeds q (List.mem_cons_of_mem _ hq)
      · rw [splitAt, if_neg hc]
        rcases hpieces with hp | hp
        · exact Or.inl (by rw [hp])
        · exact Or.inr (by rw [hp]; rfl)

/-- **How lines are read.** What is read of lines is their pieces between carriage
returns, but for empty ones. -/
theorem unifyNewlines_ended : ∀ {ls : List (List Char)}, (∀ l ∈ ls, '\n' ∉ l) → ∃ ps,
    (∀ rest, unifyNewlines (ended ls ++ rest) = ended ps ++ unifyNewlines rest) ∧
    (∀ p ∈ ps, '\n' ∉ p) ∧
    ∀ p, p ≠ [] → (p ∈ ps ↔ ∃ l ∈ ls, p ∈ splitAt '\r' l)
  | [], _ => ⟨[], fun _ => rfl, by simp, by simp⟩
  | l :: ls, h => by
    obtain ⟨q, qs, hline, hfeeds, hpieces⟩ := unifyNewlines_line (h l List.mem_cons_self)
    obtain ⟨ps, hread, hrest, hmem⟩ := unifyNewlines_ended fun k hk => h k (List.mem_cons_of_mem _ hk)
    refine ⟨(q :: qs) ++ ps, fun rest => ?_, fun p hp => ?_, fun p hne => ?_⟩
    · rw [ended_cons, hline, hread, ended_append, List.append_assoc]
    · exact (List.mem_append.mp hp).elim (hfeeds p) (hrest p)
    · have hfirst : p ∈ q :: qs ↔ p ∈ splitAt '\r' l := by
        rcases hpieces with hp | hp
        · rw [hp]
        · rw [hp, List.mem_append, List.mem_singleton, or_iff_left hne]
      rw [List.mem_append, hfirst, hmem p hne]
      simp

/-- Lines with line feeds between them, and one more. -/
theorem toList_joinWith : ∀ {ls : List String}, ls ≠ [] →
    (joinWith "\n" ls ++ "\n").toList = ended (ls.map String.toList)
  | [l], _ => by simp [joinWith, ended]
  | l :: k :: ls, _ => by
    have ih : (joinWith "\n" (k :: ls) ++ "\n").toList = ended ((k :: ls).map String.toList) :=
      toList_joinWith (List.cons_ne_nil k ls)
    rw [joinWith_cons_cons, String.append_assoc, String.append_assoc, String.toList_append,
      String.toList_append, ih, List.map_cons (a := l)]
    have h := ended_cons l.toList ((k :: ls).map String.toList) []
    rw [List.append_nil, List.append_nil] at h
    exact h.symm

/-- The lines that lines are read in, and one more that nothing is in. -/
theorem physicalLines_ended {ls ps : List (List Char)}
    (hread : ∀ rest, unifyNewlines (ended ls ++ rest) = ended ps ++ unifyNewlines rest)
    (hfeeds : ∀ p ∈ ps, '\n' ∉ p) : physicalLines (ended ls) = ps ++ [[]] := by
  have h := hread []
  rw [List.append_nil] at h
  unfold physicalLines
  rw [h, splitAt_ended hfeeds]
  rfl

end Text

namespace Header

open Text (physicalLines ended splitAt)

/-! ### The lines of a header -/

/-- The line is blank, or a comment. -/
def Inert (line : List Char) : Prop :=
  (∀ c ∈ line, c = ' ' ∨ c = '\t' ∨ c.toNat = 12) ∨ line.head? = some '#'

/-- In every line of the header, what stands behind a carriage return is blank or a
comment. -/
def Contained (header : String) : Prop :=
  ∀ line ∈ lines header, ∀ piece ∈ (splitAt '\r' line.toList).tail, Inert piece

/-- What a header puts above a text. -/
def block (header : String) : String :=
  Text.joinWith "\n" (lines header) ++ "\n\n"

theorem inert_nil : Inert [] :=
  Or.inl (by simp)

/-- A line made a comment starts with the mark of one, and has no other characters but
blanks. -/
theorem comment_eq (line : String) : ∃ cs, (comment line).toList = '#' :: cs ∧
    ∀ c ∈ cs, c = ' ' ∨ c ∈ line.toList := by
  unfold comment
  by_cases h : Text.startsWith line "#" = true
  · rw [if_pos h]
    obtain ⟨cs, hcs⟩ := List.isPrefixOf_iff_prefix.mp h
    exact ⟨cs, hcs.symm, fun c hc => Or.inr (by rw [← hcs]; exact List.mem_append_right _ hc)⟩
  · rw [if_neg h]
    have htrim : (Text.trimEnd Text.isBlank ("# " ++ line)).toList =
        ('#' :: ' ' :: line.toList).rdropWhile Text.isBlank := by
      unfold Text.trimEnd
      rw [String.toList_ofList, String.toList_append]
      rfl
    rw [htrim]
    have hne : ('#' :: ' ' :: line.toList).rdropWhile Text.isBlank ≠ [] := by
      intro hnil
      exact absurd (List.rdropWhile_eq_nil_iff.mp hnil '#' List.mem_cons_self) (by decide)
    obtain ⟨d, cs, hcs⟩ := List.exists_cons_of_ne_nil hne
    obtain ⟨rest, hrest⟩ := List.rdropWhile_prefix Text.isBlank ('#' :: ' ' :: line.toList)
    rw [hcs] at hrest ⊢
    obtain ⟨rfl, htail⟩ := List.cons.inj hrest
    refine ⟨cs, rfl, fun c hc => ?_⟩
    have hmem : c ∈ ' ' :: line.toList := by
      rw [← htail]
      exact List.mem_append_left _ hc
    exact List.mem_cons.mp hmem

/-- A line of a header is a comment without line feeds, of characters of the header and
blanks. -/
theorem line_of_mem_lines {header line : String} (h : line ∈ lines header) :
    ∃ cs, line.toList = '#' :: cs ∧ '\n' ∉ cs ∧ ∀ c ∈ cs, c = ' ' ∨ c ∈ header.toList := by
  obtain ⟨written, hwritten, rfl⟩ := List.mem_map.mp h
  obtain ⟨p, hp, rfl⟩ := List.mem_map.mp hwritten
  obtain ⟨hfeed, hsub⟩ := Text.notMem_of_mem_splitAt hp
  obtain ⟨cs, hcs, hchars⟩ := comment_eq (String.ofList p)
  rw [String.toList_ofList] at hchars
  refine ⟨cs, hcs, fun hc => ?_, fun c hc => ?_⟩
  · rcases hchars _ hc with hc | hc
    · exact absurd hc (by decide)
    · exact hfeed hc
  · refine (hchars c hc).imp_right fun hc => ?_
    have hmem := hsub c hc
    unfold Text.trimEnd at hmem
    rw [String.toList_ofList] at hmem
    exact (List.rdropWhile_prefix (· = '\n') header.toList).subset hmem

theorem notMem_line {header line : String} {c : Char} (h : line ∈ lines header) (hmark : c ≠ '#')
    (hblank : c ≠ ' ') (hc : c ∉ header.toList) : c ∉ line.toList := by
  obtain ⟨cs, hcs, -, hchars⟩ := line_of_mem_lines h
  rw [hcs]
  intro hmem
  rcases List.mem_cons.mp hmem with he | hmem
  · exact hmark he
  · exact (hchars c hmem).elim hblank hc

/-- A header without carriage returns is contained. -/
theorem contained_of_notMem {header : String} (h : '\r' ∉ header.toList) : Contained header := by
  intro line hline
  have hreturn : '\r' ∉ line.toList := notMem_line hline (by decide) (by decide) h
  rw [Text.splitAt_of_notMem hreturn]
  simp

/-- A line of a header is read as a comment, and as what stands behind its carriage
returns. -/
theorem forall_pieces_iff {header line : String} (h : line ∈ lines header) :
    (∀ p ∈ splitAt '\r' line.toList, Inert p) ↔
      ∀ p ∈ (splitAt '\r' line.toList).tail, Inert p := by
  obtain ⟨cs, hcs, -⟩ := line_of_mem_lines h
  obtain ⟨p, ps, hp⟩ := List.exists_cons_of_ne_nil (Text.splitAt_ne_nil '\r' cs)
  have hsplit : splitAt '\r' line.toList = ('#' :: p) :: ps := by
    rw [hcs, splitAt, if_neg (by decide), hp]
  rw [hsplit, List.forall_mem_cons]
  exact and_iff_right (Or.inr rfl)

/-! ### The lines above a module -/

/-- The lines that a header puts above a text: its own and an empty one. -/
theorem toList_block (header : String) :
    (block header).toList = ended ((lines header).map String.toList ++ [[]]) := by
  have hne : lines header ≠ [] := by
    unfold lines Text.split
    simp [Text.splitAt_ne_nil]
  unfold block
  rw [show "\n\n" = "\n" ++ "\n" from rfl, ← String.append_assoc, String.toList_append,
    Text.toList_joinWith hne, Text.ended_append]
  rfl

/-- The lines that headers put above a text. -/
def above (headers : List String) : List (List Char) :=
  headers.reverse.flatMap fun header => (lines header).map String.toList ++ [[]]

theorem toList_blocks (headers : List String) :
    (Text.joinWith "" (headers.reverse.map block)).toList = ended (above headers) := by
  unfold above
  induction headers.reverse with
  | nil => rfl
  | cons header headers ih =>
    rw [List.map_cons, Text.joinWith_cons, String.toList_append, ih, toList_block,
      ← Text.ended_append, List.flatMap_cons]

theorem putAll_cons (header : String) (headers : List String) (content : String) :
    putAll (header :: headers) content = putAll headers (put header content) := by
  unfold putAll
  rw [List.foldl_cons]

/-- Headers are put on one above the other, the last one on top. -/
theorem putAll_eq {headers : List String} (content : String) :
    putAll headers content = Text.joinWith "" (headers.reverse.map block) ++ content := by
  induction headers generalizing content with
  | nil => simp [putAll, Text.joinWith]
  | cons header headers ih =>
    rw [putAll_cons, ih, List.reverse_cons, List.map_append, Text.joinWith_append,
      String.append_assoc]
    rfl

theorem mem_above {headers : List String} {l : List Char} :
    l ∈ above headers ↔ ∃ header ∈ headers, (∃ line ∈ lines header, line.toList = l) ∨ l = [] := by
  simp [above]

theorem notMem_above {headers : List String} {l : List Char} (h : l ∈ above headers) :
    '\n' ∉ l := by
  obtain ⟨header, -, ⟨line, hline, rfl⟩ | rfl⟩ := mem_above.mp h
  · obtain ⟨cs, hcs, hfeed, -⟩ := line_of_mem_lines hline
    rw [hcs]
    simp [hfeed]
  · simp

/-- All that is read above a text is blank or a comment exactly if every header is
contained. -/
theorem inert_iff_contained {headers : List String} {ps : List (List Char)}
    (hmem : ∀ p, p ≠ [] → (p ∈ ps ↔ ∃ l ∈ above headers, p ∈ splitAt '\r' l)) :
    (∀ p ∈ ps, Inert p) ↔ ∀ header ∈ headers, Contained header := by
  constructor
  · intro h header hheader line hline
    refine (forall_pieces_iff hline).mp fun p hp => ?_
    by_cases hne : p = []
    · rw [hne]
      exact inert_nil
    · exact h p ((hmem p hne).mpr ⟨line.toList, mem_above.mpr ⟨header, hheader,
        Or.inl ⟨line, hline, rfl⟩⟩, hp⟩)
  · intro h p hp
    by_cases hne : p = []
    · rw [hne]
      exact inert_nil
    · obtain ⟨l, hl, hpl⟩ := (hmem p hne).mp hp
      obtain ⟨header, hheader, ⟨line, hline, rfl⟩ | rfl⟩ := mem_above.mp hl
      · exact (forall_pieces_iff hline).mpr (h header hheader line hline) p hpl
      · rw [List.mem_singleton.mp hpl]
        exact inert_nil

end Header

/-! ### Blank lines and comments make no lexemes -/

namespace Code
namespace Lexeme

open Header (Inert)
open Text (ended)

/-! More fuel changes no outcome. -/

/-- The second outcome is the first one, if there is one. -/
def Below {α : Type} (x y : Option α) : Prop :=
  ∀ a, x = some a → y = some a

theorem Below.refl {α : Type} (x : Option α) : Below x x :=
  fun _ h => h

theorem Below.bind {α β : Type} (x : Option α) {f g : α → Option β}
    (h : ∀ a, Below (f a) (g a)) : Below (x >>= f) (x >>= g) := by
  cases x with
  | none => exact Below.refl _
  | some a => exact h a

theorem Below.map {α β : Type} {x y : Option α} (h : Below x y) (f : α → β) :
    Below (x.map f) (y.map f) := by
  intro b hb
  obtain ⟨a, ha, rfl⟩ := Option.map_eq_some_iff.mp hb
  rw [h a ha, Option.map_some]

theorem Below.ite {α : Type} {c : Prop} [Decidable c] {x y u v : Option α} (hx : Below x u)
    (hy : Below y v) : Below (if c then x else y) (if c then u else v) := by
  split
  · exact hx
  · exact hy

theorem below_scan_succ : ∀ (fuel : Nat) (fresh : Bool) (depth : Nat) (widths : List Width)
    (cs : List Char), Below (scan fuel fresh depth widths cs) (scan (fuel + 1) fresh depth widths cs)
  | 0, _, _, _, _ => fun _ h => nomatch h
  | fuel + 1, true, depth, widths, cs => by
    have ih := below_scan_succ fuel
    rw [scan, scan]
    refine .bind _ fun line => ?_
    obtain ⟨width, rest⟩ := line
    simp only
    split
    · exact .refl _
    · exact ih _ _ _ _
    · exact ih _ _ _ _
    · refine .bind _ fun indent => ?_
      obtain ⟨changes, widths⟩ := indent
      exact .ite (.refl _) ((ih _ _ _ _).map _)
  | fuel + 1, false, depth, widths, cs => by
    have ih := below_scan_succ fuel
    unfold scan
    split
    · exact .refl _
    · exact .ite ((ih _ _ _ _).map _) (ih _ _ _ _)
    · exact .refl _
    · exact ih _ _ _ _
    · exact ih _ _ _ _
    · refine .ite (ih _ _ _ _) (.ite ?_ (.ite ?_ (.ite ?_ ?_)))
      · exact .bind _ fun body => .bind _ fun sources => (ih _ _ _ _).map _
      · exact .bind _ fun imaginary => (ih _ _ _ _).map _
      · simp only
        split
        · exact .bind _ fun body => .bind _ fun sources => (ih _ _ _ _).map _
        · exact .ite ((ih _ _ _ _).map _) (.refl _)
      · split
        · exact .ite (.refl _) ((ih _ _ _ _).map _)
        · exact .refl _

theorem below_scan {fuel more : Nat} (h : fuel ≤ more) (fresh : Bool) (depth : Nat)
    (widths : List Width) (cs : List Char) :
    Below (scan fuel fresh depth widths cs) (scan more fresh depth widths cs) := by
  induction more, h using Nat.le_induction with
  | base => exact .refl _
  | succ more _ ih => exact fun ls hls => below_scan_succ more fresh depth widths cs ls (ih ls hls)

/-- The blanks a line starts with are its indentation. -/
theorem indentation_blank (rest : List Char) : ∀ {line : List Char} (w : Width),
    (∀ c ∈ line, c = ' ' ∨ c = '\t' ∨ c.toNat = 12) →
    ∃ w', indentation 0 w (line ++ '\n' :: rest) = some (w', '\n' :: rest)
  | [], w, _ => ⟨w, by simp [indentation]⟩
  | c :: line, w, h => by
    obtain ⟨hc, hline⟩ := List.forall_mem_cons.mp h
    have hslash : c ≠ '\\' := by
      rintro rfl
      exact absurd hc (by decide)
    rw [List.cons_append, indentation]
    · by_cases hspace : c = ' '
      · rw [if_pos hspace]
        exact indentation_blank rest _ hline
      · by_cases htab : c = '\t'
        · rw [if_neg hspace, if_pos htab]
          exact indentation_blank rest _ hline
        · rw [if_neg hspace, if_neg htab, if_pos ((hc.resolve_left hspace).resolve_left htab)]
          exact indentation_blank rest _ hline
    · exact fun hc => absurd hc hslash
    · exact fun _ hc => absurd hc hslash

/-- A blank line or a comment is passed over. -/
theorem scan_inert {line : List Char} (h : Inert line) (hfeed : '\n' ∉ line) :
    ∃ steps ≤ 2 * (line.length + 1), ∀ fuel depth widths rest,
      scan (fuel + steps) true depth widths (line ++ '\n' :: rest) =
        scan fuel true depth widths rest := by
  rcases h with hblank | hmark
  · refine ⟨1, by omega, fun fuel depth widths rest => ?_⟩
    obtain ⟨w, hw⟩ := indentation_blank rest ⟨0, 0⟩ hblank
    rw [scan, hw]
    rfl
  · obtain ⟨cs, rfl⟩ : ∃ cs, line = '#' :: cs := by
      cases line with
      | nil => cases hmark
      | cons c cs => exact ⟨cs, by rw [Option.some.inj hmark]⟩
    refine ⟨2, by omega, fun fuel depth widths rest => ?_⟩
    have hend : toLineEnd (cs ++ '\n' :: rest) = '\n' :: rest := by
      unfold toLineEnd
      rw [List.dropWhile_append_of_pos]
      · simp
      · intro c hc
        simp only [decide_not, Bool.not_eq_true', decide_eq_false_iff_not]
        rintro rfl
        exact hfeed (List.mem_cons_of_mem _ hc)
    rw [List.cons_append, scan]
    simp [indentation, hend, scan]

/-- Blank lines and comments are passed over. -/
theorem scan_ended : ∀ {ls : List (List Char)}, (∀ l ∈ ls, Inert l ∧ '\n' ∉ l) →
    ∃ steps ≤ 2 * (ended ls).length, ∀ fuel depth widths rest,
      scan (fuel + steps) true depth widths (ended ls ++ rest) = scan fuel true depth widths rest
  | [], _ => ⟨0, by simp, fun _ _ _ _ => rfl⟩
  | l :: ls, h => by
    obtain ⟨hl, hls⟩ := List.forall_mem_cons.mp h
    obtain ⟨first, hfirst, hscan⟩ := scan_inert hl.1 hl.2
    obtain ⟨others, hothers, hrest⟩ := scan_ended hls
    have hlength : (ended (l :: ls)).length = l.length + 1 + (ended ls).length := by
      simp [ended]
      omega
    refine ⟨others + first, by omega, fun fuel depth widths rest => ?_⟩
    rw [Text.ended_cons, ← Nat.add_assoc, hscan, hrest]

/-- Behind blank lines and comments there are the lexemes of the rest. -/
theorem scan_behind {ps : List (List Char)} {cs : List Char} {ls : List Lexeme}
    (hps : ∀ p ∈ ps, Inert p ∧ '\n' ∉ p)
    (h : scan (2 * cs.length + 2) true 0 [] cs = some ls) :
    scan (2 * (ended ps ++ cs).length + 2) true 0 [] (ended ps ++ cs) = some ls := by
  obtain ⟨steps, hsteps, hscan⟩ := scan_ended hps
  obtain ⟨fuel, hfuel⟩ : ∃ fuel, 2 * (ended ps ++ cs).length + 2 = fuel + steps :=
    ⟨2 * (ended ps ++ cs).length + 2 - steps, by rw [List.length_append]; omega⟩
  rw [hfuel, hscan]
  refine below_scan ?_ true 0 [] cs ls h
  rw [List.length_append] at hfuel
  omega

end Lexeme

theorem lexemes?_eq_some_iff {s : String} {ls : List Lexeme} : lexemes? s = some ls ↔
    Char.ofNat 0 ∉ Text.unifyNewlines s.toList ∧
      Lexeme.scan (2 * (Text.unifyNewlines s.toList).length + 2) true 0 []
        (Text.unifyNewlines s.toList) = some ls := by
  unfold lexemes?
  simp

theorem isEmbeddable_mono {fuel : Nat} : ∀ {more : Nat} {source : List Char},
    isEmbeddable fuel source = true → fuel ≤ more → isEmbeddable more source = true := by
  induction fuel with
  | zero => exact fun h => nomatch h
  | succ fuel ih =>
    intro more source h hle
    obtain ⟨more, rfl⟩ : ∃ k, more = k + 1 := ⟨more - 1, by omega⟩
    unfold isEmbeddable at h ⊢
    cases hls : lexemes? (String.ofList ('(' :: source ++ [')'])) with
    | none =>
      rw [hls] at h
      cases h
    | some ls =>
      rw [hls] at h
      simp only [Bool.and_eq_true, List.all_eq_true] at h ⊢
      exact ⟨h.1, fun e he => ih (h.2 e he) (by omega)⟩

/-- A text with the lexemes of a module that is not longer is a module. -/
theorem isModule_of_lexemes {s t : String} (hs : isModule s = true)
    (hlexemes : ∀ ls, lexemes? s = some ls → lexemes? t = some ls) (hlength : s.length ≤ t.length) :
    isModule t = true := by
  unfold isModule at hs ⊢
  cases hls : lexemes? s with
  | none =>
    rw [hls] at hs
    cases hs
  | some ls =>
    rw [hls] at hs
    rw [hlexemes ls hls]
    simp only [Bool.and_eq_true, List.all_eq_true] at hs ⊢
    exact ⟨hs.1, fun e he => isEmbeddable_mono (hs.2 e he) (by omega)⟩

end Code

namespace Header

open Text (physicalLines ended)

theorem zero_notMem_above {headers : List String}
    (h : ∀ header ∈ headers, Char.ofNat 0 ∉ header.toList) {l : List Char}
    (hl : l ∈ above headers) : Char.ofNat 0 ∉ l := by
  obtain ⟨header, hheader, ⟨line, hline, rfl⟩ | rfl⟩ := mem_above.mp hl
  · exact notMem_line hline (by decide) (by decide) (h header hheader)
  · simp

/-- What contained headers are put on has the lexemes it had. -/
theorem lexemes_putAll {headers : List String} {content : String} {ls : List Code.Lexeme}
    (hcontained : ∀ header ∈ headers, Contained header)
    (hzero : ∀ header ∈ headers, Char.ofNat 0 ∉ header.toList)
    (h : Code.lexemes? content = some ls) : Code.lexemes? (putAll headers content) = some ls := by
  obtain ⟨ps, hread, hfeeds, hmem⟩ :=
    Text.unifyNewlines_ended fun l (hl : l ∈ above headers) => notMem_above hl
  have hinert := (inert_iff_contained hmem).mpr hcontained
  have hnozero : Char.ofNat 0 ∉ ended ps := by
    intro hz
    obtain ⟨p, hp, hz⟩ := List.mem_flatMap.mp hz
    rcases List.mem_append.mp hz with hz | hz
    · obtain ⟨l, hl, hpl⟩ := (hmem p (List.ne_nil_of_mem hz)).mp hp
      exact zero_notMem_above hzero hl ((Text.notMem_of_mem_splitAt hpl).2 _ hz)
    · exact absurd (List.mem_singleton.mp hz) (by decide)
  have hcs : Text.unifyNewlines (putAll headers content).toList =
      ended ps ++ Text.unifyNewlines content.toList := by
    rw [putAll_eq, String.toList_append, toList_blocks, hread]
  obtain ⟨hz, hls⟩ := Code.lexemes?_eq_some_iff.mp h
  refine Code.lexemes?_eq_some_iff.mpr ⟨?_, ?_⟩
  · rw [hcs, List.mem_append, not_or]
    exact ⟨hnozero, hz⟩
  · rw [hcs]
    exact Code.Lexeme.scan_behind (fun p hp => ⟨hinert p hp, hfeeds p hp⟩) hls

/-- **Headers stay comments.** What headers put above a text is the block of each of
them, the last one on top, and the text. It is read as blank lines and comments exactly
if in every line of a header what stands behind a carriage return is blank or a comment;
so it is if there are no carriage returns. Above such headers, without null characters,
a text has the lexemes it had, and is a module if it was one. -/
theorem putAll_inert (headers : List String) (content : String) :
    putAll headers content = Text.joinWith "" (headers.reverse.map block) ++ content ∧
    ((∀ line ∈ physicalLines (Text.joinWith "" (headers.reverse.map block)).toList, Inert line) ↔
      ∀ header ∈ headers, Contained header) ∧
    (∀ header : String, '\r' ∉ header.toList → Contained header) ∧
    ((∀ header ∈ headers, Contained header ∧ Char.ofNat 0 ∉ header.toList) →
      (∀ ls, Code.lexemes? content = some ls →
        Code.lexemes? (putAll headers content) = some ls) ∧
      (Code.isModule content = true → Code.isModule (putAll headers content) = true)) := by
  obtain ⟨ps, hread, hfeeds, hmem⟩ :=
    Text.unifyNewlines_ended fun l (hl : l ∈ above headers) => notMem_above hl
  refine ⟨putAll_eq content, ?_, fun _ => contained_of_notMem, fun h => ?_⟩
  · rw [toList_blocks, Text.physicalLines_ended hread hfeeds, ← inert_iff_contained hmem]
    simp only [List.mem_append, List.mem_singleton]
    exact ⟨fun h p hp => h p (Or.inl hp), fun h p hp => hp.elim (h p) fun e => e ▸ inert_nil⟩
  · have hlexemes : ∀ ls, Code.lexemes? content = some ls →
        Code.lexemes? (putAll headers content) = some ls :=
      fun ls => lexemes_putAll (fun header hm => (h header hm).1) fun header hm => (h header hm).2
    refine ⟨hlexemes, fun hmodule => Code.isModule_of_lexemes hmodule hlexemes ?_⟩
    rw [putAll_eq, String.length_append]
    omega

/-- Headers of several lines, some of them comments already. -/
theorem sample_headers :
    (∀ header ∈ ["made by a tool\n\n# do not edit\n", "#!/bin/sh"], Contained header) ∧
    putAll ["made by a tool\n\n# do not edit\n", "#!/bin/sh"] "x = 1\n" =
      "#!/bin/sh\n\n# made by a tool\n#\n# do not edit\n\nx = 1\n" ∧
    Code.isModule
      (putAll ["made by a tool\n\n# do not edit\n", "#!/bin/sh"] "x = 1\n") = true := by
  have hplain : ∀ header ∈ ["made by a tool\n\n# do not edit\n", "#!/bin/sh"],
      '\r' ∉ header.toList ∧ Char.ofNat 0 ∉ header.toList := by
    decide +kernel
  obtain ⟨-, -, hcontained, hmodule⟩ :=
    putAll_inert ["made by a tool\n\n# do not edit\n", "#!/bin/sh"] "x = 1\n"
  refine ⟨fun header hm => hcontained header (hplain header hm).1, by decide +kernel, ?_⟩
  refine (hmodule fun header hm => ⟨hcontained header (hplain header hm).1,
    (hplain header hm).2⟩).2 (Code.isModule_of_checked (by decide +kernel))

/-- **A carriage return in a header.** The text behind it is a line of code. -/
theorem returned_line :
    putAll ["a\rimport os"] "" = "# a\rimport os\n\n" ∧
    physicalLines (Text.joinWith "" (["a\rimport os"].reverse.map block)).toList =
      ["# a".toList, "import os".toList, [], []] ∧
    ¬(∀ line ∈ physicalLines (Text.joinWith "" (["a\rimport os"].reverse.map block)).toList,
      Inert line) ∧
    Code.lexemes? "" = some [] ∧
    Code.lexemes? (putAll ["a\rimport os"] "") = some [.name "import", .name "os", .newline] := by
  have hlines : physicalLines (Text.joinWith "" (["a\rimport os"].reverse.map block)).toList =
      ["# a".toList, "import os".toList, [], []] := by
    decide +kernel
  refine ⟨by decide +kernel, hlines, fun h => ?_, by decide +kernel, by decide +kernel⟩
  rw [hlines] at h
  rcases h "import os".toList (by simp) with hblank | hmark
  · exact absurd (hblank 'i' (by decide)) (by decide)
  · exact absurd hmark (by decide)

end Header
end ChainedSdk
