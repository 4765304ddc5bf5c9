/-
# Checking a text without a hash table

Whether a text is a module is told by a search that keeps outcomes in a hash
table. What the search finds does not depend on how they are kept, so a list does
as well (`Pattern.fit_eq_fitListed`). Where all characters of a text take one
byte, they can be read off its bytes (`Text.toList_eq_ofBytes`). So there is a
check that can be evaluated (`Code.isModule_of_checked`).

Key definitions: `Pattern.fitListed`, `Code.Checked`.
Key theorems: `Pattern.fit_eq_fitListed`, `Code.isModule_of_checked`.
-/
import ChainedSdk.Assoc
import ChainedSdk.Code.Grammar
import Mathlib.Data.List.Basic

namespace ChainedSdk

namespace Text

/-- The characters with these codes. -/
def ofBytes (bytes : List UInt8) : List Char :=
  bytes.map fun b => Char.ofNat b.toNat

theorem utf8EncodeChar_of_lt {c : Char} (h : ∀ b ∈ String.utf8EncodeChar c, b < 128) :
    String.utf8EncodeChar c = [UInt8.ofNat c.toNat] ∧ c.toNat < 128 := by
  have hval : c.val.toNat = c.toNat := rfl
  by_cases hc : c.toNat < 128
  · refine ⟨?_, hc⟩
    unfold String.utf8EncodeChar
    rw [hval, if_pos (by omega)]
  · exfalso
    unfold String.utf8EncodeChar at h
    rw [hval, if_neg (by omega)] at h
    have hbig : ∀ n, 128 ≤ n % 256 → ¬UInt8.ofNat n < 128 := by
      intro n hn hlt
      have hlt : n % 256 < 128 := by simpa [UInt8.lt_iff_toNat_lt] using hlt
      omega
    split at h
    · exact hbig _ (by omega) (h _ List.mem_cons_self)
    · split at h
      · exact hbig _ (by omega) (h _ List.mem_cons_self)
      · exact hbig _ (by omega) (h _ List.mem_cons_self)

theorem ofBytes_flatMap : ∀ {cs : List Char},
    (∀ b ∈ cs.flatMap String.utf8EncodeChar, b < 128) →
      ofBytes (cs.flatMap String.utf8EncodeChar) = cs
  | [], _ => rfl
  | c :: cs, h => by
    rw [List.flatMap_cons] at h ⊢
    simp only [List.mem_append] at h
    obtain ⟨hchar, hlt⟩ := utf8EncodeChar_of_lt fun b hb => h b (Or.inl hb)
    have hrest := ofBytes_flatMap fun b hb => h b (Or.inr hb)
    unfold ofBytes at hrest ⊢
    rw [hchar, List.map_append, hrest, List.map_singleton, UInt8.toNat_ofNat',
      Nat.mod_eq_of_lt (by omega), Char.ofNat_toNat]
    rfl

/-- Characters of one byte each are read off the bytes. -/
theorem toList_eq_ofBytes {s : String} (h : ∀ b ∈ s.toByteArray.data.toList, b < 128) :
    s.toList = ofBytes s.toByteArray.data.toList := by
  have hbytes : s.toByteArray.data.toList = s.toList.flatMap String.utf8EncodeChar := by
    rw [← String.utf8Encode_toList, List.utf8Encode]
    simp
  rw [hbytes] at h ⊢
  exact (ofBytes_flatMap h).symm
end Text

namespace Code

namespace Pattern

variable {R : Type}

/-- Outcomes of rules by slot and place, the last one first. -/
abbrev OutcomeList := List ((Nat × Nat) × Option Place)

/-- The list has the outcomes that are kept. -/
def Lists (listed : OutcomeList) (kept : Outcomes) : Prop :=
  ∀ key : Nat × Nat, kept.get? key = Assoc.get? key listed

/-- The search with its outcomes in a list. -/
def fitListed (g : Grammar R) : Nat → Pattern R → Place → OutcomeList → Option Place × OutcomeList
  | 0, _, _, kept => (none, kept)
  | fuel + 1, p, here, kept =>
    match p with
    | empty => (some here, kept)
    | lexeme l => (here.next? (· = l), kept)
    | identifier =>
      (here.next? fun
        | .name s => !Text.isKeyword s
        | _ => false, kept)
    | text bytes =>
      (here.next? fun
        | .text b _ => b = bytes
        | _ => false, kept)
    | rule r =>
      match g.slot? r with
      | none => fitListed g fuel (g.rules r) here kept
      | some slot =>
        match Assoc.get? (slot, here.index) kept with
        | some outcome => (outcome, kept)
        | none =>
          match fitListed g fuel (g.rules r) here kept with
          | (outcome, kept) => (outcome, ((slot, here.index), outcome) :: kept)
    | pair p q =>
      match fitListed g fuel p here kept with
      | (some there, kept) => fitListed g fuel q there kept
      | (none, kept) => (none, kept)
    | either p q =>
      match fitListed g fuel p here kept with
      | (some there, kept) => (some there, kept)
      | (none, kept) => fitListed g fuel q here kept
    | many p =>
      match fitListed g fuel p here kept with
      | (some there, kept) => fitListed g fuel (many p) there kept
      | (none, kept) => (some here, kept)
    | ahead p =>
      match fitListed g fuel p here kept with
      | (some _, kept) => (some here, kept)
      | (none, kept) => (none, kept)
    | notAhead p =>
      match fitListed g fuel p here kept with
      | (some _, kept) => (none, kept)
      | (none, kept) => (some here, kept)

/-- Two searches have found the same, and keep the same. -/
def Alike (x : Option Place × Outcomes) (y : Option Place × OutcomeList) : Prop :=
  x.1 = y.1 ∧ Lists y.2 x.2

theorem Lists.insert {listed : OutcomeList} {kept : Outcomes} (h : Lists listed kept)
    (key : Nat × Nat) (outcome : Option Place) :
    Lists ((key, outcome) :: listed) (kept.insert key outcome) := by
  intro key'
  unfold Assoc.get?
  rw [← h key', Std.HashMap.get?_eq_getElem?, Std.HashMap.getElem?_insert]
  by_cases hkey : key = key'
  · simp [hkey]
  · simp [hkey]

/-- Searches that go on alike from where others ended come to the same. -/
theorem Alike.goOn {x : Option Place × Outcomes} {y : Option Place × OutcomeList}
    {found : Place → Outcomes → Option Place × Outcomes}
    {foundListed : Place → OutcomeList → Option Place × OutcomeList}
    {missed : Outcomes → Option Place × Outcomes}
    {missedListed : OutcomeList → Option Place × OutcomeList} :
    Alike x y →
    (∀ there kept listed, Lists listed kept →
      Alike (found there kept) (foundListed there listed)) →
    (∀ kept listed, Lists listed kept → Alike (missed kept) (missedListed listed)) →
    Alike
      (match x with
        | (some there, kept) => found there kept
        | (none, kept) => missed kept)
      (match y with
        | (some there, listed) => foundListed there listed
        | (none, listed) => missedListed listed) := by
  intro h hfound hmissed
  obtain ⟨outcome, kept⟩ := x
  obtain ⟨outcome', listed⟩ := y
  obtain ⟨rfl, hkept⟩ := h
  cases outcome with
  | none => exact hmissed kept listed hkept
  | some there => exact hfound there kept listed hkept

/-- What is found at a place can be kept there. -/
theorem Alike.keep {x : Option Place × Outcomes} {y : Option Place × OutcomeList}
    (h : Alike x y) (key : Nat × Nat) :
    Alike (x.1, x.2.insert key x.1) (y.1, (key, y.1) :: y.2) := by
  obtain ⟨hfound, hkept⟩ := h
  rw [hfound]
  exact ⟨rfl, hkept.insert key y.1⟩

/-- **What is found** does not depend on how outcomes are kept. -/
theorem fit_eq_fitListed (g : Grammar R) : ∀ (fuel : Nat) (p : Pattern R) (here : Place)
    {kept : Outcomes} {listed : OutcomeList}, Lists listed kept →
      Alike (fit g fuel p here kept) (fitListed g fuel p here listed)
  | 0, _, _, _, _, h => ⟨rfl, h⟩
  | fuel + 1, p, here, kept, listed, h => by
    -- a pattern made of patterns goes on from what the first of them has found
    have first := fun p => fit_eq_fitListed g fuel p here h
    cases p with
    | empty => exact ⟨rfl, h⟩
    | lexeme l => exact ⟨rfl, h⟩
    | identifier => exact ⟨rfl, h⟩
    | text bytes => exact ⟨rfl, h⟩
    | rule r =>
      simp only [fit, fitListed]
      cases g.slot? r with
      | none => exact first (g.rules r)
      | some slot =>
        simp only [h (slot, here.index)]
        cases Assoc.get? (slot, here.index) listed with
        | some outcome => exact ⟨rfl, h⟩
        | none => exact (first (g.rules r)).keep (slot, here.index)
    | pair p q =>
      simp only [fit, fitListed]
      refine (first p).goOn (fun there kept listed h => ?_) (fun kept listed h => ?_)
      · exact fit_eq_fitListed g fuel q there h
      · exact ⟨rfl, h⟩
    | either p q =>
      simp only [fit, fitListed]
      refine (first p).goOn (fun there kept listed h => ?_) (fun kept listed h => ?_)
      · exact ⟨rfl, h⟩
      · exact fit_eq_fitListed g fuel q here h
    | many p =>
      simp only [fit, fitListed]
      refine (first p).goOn (fun there kept listed h => ?_) (fun kept listed h => ?_)
      · exact fit_eq_fitListed g fuel (many p) there h
      · exact ⟨rfl, h⟩
    | ahead p =>
      simp only [fit, fitListed]
      exact (first p).goOn (fun _ _ _ h => ⟨rfl, h⟩) fun _ _ h => ⟨rfl, h⟩
    | notAhead p =>
      simp only [fit, fitListed]
      exact (first p).goOn (fun _ _ _ h => ⟨rfl, h⟩) fun _ _ h => ⟨rfl, h⟩

theorem rest?_eq_fitListed (g : Grammar R) (fuel : Nat) (p : Pattern R) (ls : List Lexeme) :
    rest? g fuel p ls = (fitListed g fuel p ⟨0, ls⟩ []).1.map (·.lexemes) := by
  have hempty : Lists [] {} := fun key => by simp [Assoc.get?]
  unfold rest?
  rw [(fit_eq_fitListed g fuel p ⟨0, ls⟩ hempty).1]

end Pattern

/-- The bytes are those of characters of one byte each that make a module without
formatted texts. -/
def Checked (bytes : List UInt8) : Bool :=
  bytes.all (· < 128) &&
    let cs := Text.unifyNewlines (Text.ofBytes bytes)
    !cs.contains (Char.ofNat 0) &&
      match Lexeme.scan (2 * cs.length + 2) true 0 [] cs with
      | some ls =>
        (Pattern.fitListed grammar (searchDepth ls) (.many Rule.statement.use) ⟨0, ls⟩ []).1.map
            (·.lexemes) == some [] && (embedded ls).isEmpty
      | none => false

/-- **Checking by evaluation.** -/
theorem isModule_of_checked {s : String} (h : Checked s.toByteArray.data.toList = true) :
    isModule s = true := by
  unfold Checked at h
  simp only [Bool.and_eq_true, List.all_eq_true, decide_eq_true_eq, Bool.not_eq_true'] at h
  obtain ⟨hbytes, hzero, hscan⟩ := h
  rw [← Text.toList_eq_ofBytes hbytes] at hzero hscan
  unfold isModule lexemes?
  simp only [hzero, Bool.false_eq_true, if_false]
  cases hls : Lexeme.scan (2 * (Text.unifyNewlines s.toList).length + 2) true 0 []
      (Text.unifyNewlines s.toList) with
  | none =>
    rw [hls] at hscan
    exact absurd hscan (by simp)
  | some ls =>
    rw [hls] at hscan
    simp only [Bool.and_eq_true, List.isEmpty_iff] at hscan
    simp only [Pattern.rest?_eq_fitListed, hscan.1, hscan.2, List.all_nil, Bool.and_self]

end Code
end ChainedSdk
