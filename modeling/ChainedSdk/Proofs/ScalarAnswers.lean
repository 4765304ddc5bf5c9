/-
# The imports of the handlers that answered

A registry is called in any order: a handler is registered for a name, or a name
is looked up. A name counts as used exactly if a handler answered for it
(`mem_used_run`), and a name that has a handler never loses it
(`has_handlers_run`), so the imports of the names used can always be given.

What is remembered is the name and not the handler. So the imports are those of the
handlers that the names have now (`usedImports_run`). They are those of the handlers
that answered if no name is given another import after an answer (`Steady`), and
otherwise only if the imports that were replaced and those that replaced them are
among both.

Key definitions: `ScalarRegistry.run`, `ScalarRegistry.Answered`,
`ScalarRegistry.imports?`, `ScalarRegistry.Steady`.
Key theorem: `usedImports_run`.
-/
import ChainedSdk.Proofs.Arguments
import ChainedSdk.Proofs.Imports

namespace ChainedSdk
namespace ScalarRegistry

/-- A call on a registry: a handler is registered for a name, or a name is looked up. -/
inductive Call where
  | register (name : String) (handler : ScalarHandler)
  | lookup (name : String)
deriving DecidableEq, Repr

/-- The registry after a call. -/
def call (r : ScalarRegistry) : Call → ScalarRegistry
  | .register name handler => r.register name handler
  | .lookup name => (r.resolve name).2

/-- The registry after calls, one after the other. -/
def run (r : ScalarRegistry) (calls : List Call) : ScalarRegistry :=
  calls.foldl call r

/-- A handler answered when its name was looked up. -/
def Answered (r : ScalarRegistry) (calls : List Call) (name : String) (handler : ScalarHandler) :
    Prop :=
  ∃ before after, calls = before ++ .lookup name :: after ∧
    (r.run before).handler? name = some handler

/-- The imports of the names used, if every one of them has a handler. -/
def imports? (r : ScalarRegistry) : Option (List String) :=
  (r.used.mapM fun name => (Assoc.get? name r.handlers).map (·.importLine)).map Text.sortedSet

/-- No name is given a handler with another import than one that answered for it
before. -/
def Steady (r : ScalarRegistry) (calls : List Call) : Prop :=
  ∀ before name handler after, calls = before ++ .register name handler :: after →
    ∀ old, r.Answered before name old → handler.importLine = old.importLine

variable {r : ScalarRegistry} {calls : List Call} {c : Call} {name : String}
  {handler : ScalarHandler}

/-! ### One call -/

theorem run_concat : r.run (calls ++ [c]) = (r.run calls).call c := by
  unfold run
  rw [List.foldl_append]
  rfl

theorem run_append (before after : List Call) :
    r.run (before ++ after) = (r.run before).run after :=
  List.foldl_append

/-- A lookup gives the annotation of the language, of an alias, or of the handler that
answers. -/
theorem hint?_eq_some_iff {hint : String} : r.hint? name = some hint ↔
    Assoc.get? name builtinScalars = some hint ∨
    (Assoc.get? name builtinScalars = none ∧ Assoc.get? name r.aliases = some hint) ∨
    ∃ handler, r.handler? name = some handler ∧ handler.hint = hint := by
  unfold hint? handler? Assoc.has
  cases Assoc.get? name builtinScalars with
  | some own => simp
  | none =>
    cases Assoc.get? name r.aliases with
    | some configured => simp
    | none => simp

theorem handlers_lookup : (r.resolve name).2.handlers = r.handlers := by
  unfold resolve markUsed
  split_ifs <;> rfl

theorem mem_used_lookup {other : String} : name ∈ (r.resolve other).2.used ↔
    name ∈ r.used ∨ name = other ∧ ∃ handler, r.handler? name = some handler := by
  unfold resolve
  cases h : r.handler? other with
  | none =>
    have hnone : ¬(name = other ∧ ∃ handler, r.handler? name = some handler) := by
      rintro ⟨rfl, handler, hh⟩
      rw [h] at hh
      cases hh
    simp [hnone]
  | some handler =>
    have hsome : (name = other ∧ ∃ handler, r.handler? name = some handler) ↔ name = other :=
      ⟨And.left, fun hname => ⟨hname, handler, hname ▸ h⟩⟩
    rw [hsome]
    exact mem_used_markUsed

/-- A call of several and a last one is the last one, or one of those before. -/
theorem split_concat {before after : List Call} {d : Call}
    (h : calls ++ [c] = before ++ d :: after) :
    (calls = before ∧ c = d) ∨ ∃ rest, calls = before ++ d :: rest := by
  rcases List.eq_nil_or_concat' after with rfl | ⟨rest, last, rfl⟩
  · obtain ⟨hcalls, hlast⟩ := List.append_inj' h rfl
    exact Or.inl ⟨hcalls, List.head_eq_of_cons_eq hlast⟩
  · rw [← List.cons_append, ← List.append_assoc] at h
    exact Or.inr ⟨rest, (List.append_inj' h rfl).1⟩

/-- After one more call the same handlers have answered, and the one that answers it. -/
theorem answered_concat : r.Answered (calls ++ [c]) name handler ↔
    r.Answered calls name handler ∨
      c = .lookup name ∧ (r.run calls).handler? name = some handler := by
  constructor
  · rintro ⟨before, after, hcalls, hanswer⟩
    rcases split_concat hcalls with ⟨rfl, hc⟩ | ⟨rest, hcalls⟩
    · exact Or.inr ⟨hc, hanswer⟩
    · exact Or.inl ⟨before, rest, hcalls, hanswer⟩
  · rintro (⟨before, after, rfl, hanswer⟩ | ⟨rfl, hanswer⟩)
    · exact ⟨before, after ++ [c], by simp, hanswer⟩
    · exact ⟨calls, [], rfl, hanswer⟩

theorem not_answered_nil : ¬r.Answered [] name handler := by
  rintro ⟨before, after, h, -⟩
  simp at h

theorem aliases_call : (r.call c).aliases = r.aliases := by
  cases c with
  | register other handler => rfl
  | lookup other =>
    show (r.resolve other).2.aliases = r.aliases
    unfold resolve markUsed
    split_ifs <;> rfl

/-- A call takes no name its handler. -/
theorem has_handlers_call (h : (Assoc.get? name r.handlers).isSome = true) :
    (Assoc.get? name (r.call c).handlers).isSome = true := by
  cases c with
  | register other handler =>
    show (Assoc.get? name (Assoc.put other handler r.handlers)).isSome = true
    rw [Assoc.get?_put]
    by_cases hname : other = name
    · rw [if_pos hname]
      rfl
    · rwa [if_neg hname]
  | lookup other =>
    rwa [show (r.call (.lookup other)).handlers = r.handlers from handlers_lookup]

theorem steady_concat : r.Steady (calls ++ [c]) ↔ r.Steady calls ∧
    ∀ name handler, c = .register name handler →
      ∀ old, r.Answered calls name old → handler.importLine = old.importLine := by
  constructor
  · intro h
    refine ⟨fun before name handler after hcalls => ?_, fun name handler hc => ?_⟩
    · exact h before name handler (after ++ [c]) (by rw [hcalls]; simp)
    · exact h calls name handler [] (by rw [hc])
  · rintro ⟨hsteady, hlast⟩ before name handler after hcalls
    rcases split_concat hcalls with ⟨rfl, hc⟩ | ⟨rest, hcalls⟩
    · exact hlast name handler hc
    · exact hsteady before name handler rest hcalls

/-! ### All calls -/

/-- **The names used** are those that were used before and those for which a handler
answered. -/
theorem mem_used_run : name ∈ (r.run calls).used ↔
    name ∈ r.used ∨ ∃ handler, r.Answered calls name handler := by
  induction calls using List.reverseRecOn with
  | nil => simp [run, not_answered_nil]
  | append_singleton calls c ih =>
    rw [run_concat]
    simp only [answered_concat, exists_or, ← or_assoc, ← ih]
    cases c with
    | register other handler => simp [call, register]
    | lookup other =>
      have hother : (∃ handler, Call.lookup other = .lookup name ∧
          (r.run calls).handler? name = some handler) ↔
          name = other ∧ ∃ handler, (r.run calls).handler? name = some handler := by
        simp [eq_comm]
      rw [hother]
      exact mem_used_lookup

theorem has_handlers_run (h : (Assoc.get? name r.handlers).isSome = true) :
    (Assoc.get? name (r.run calls).handlers).isSome = true := by
  induction calls using List.reverseRecOn with
  | nil => exact h
  | append_singleton calls c ih =>
    rw [run_concat]
    exact has_handlers_call ih

theorem aliases_run : (r.run calls).aliases = r.aliases := by
  induction calls using List.reverseRecOn with
  | nil => rfl
  | append_singleton calls c ih =>
    rw [run_concat, aliases_call, ih]

/-- A name for which a handler answered has one still. -/
theorem Answered.current (h : r.Answered calls name handler) :
    ∃ current, Assoc.get? name (r.run calls).handlers = some current := by
  obtain ⟨before, after, rfl, hanswer⟩ := h
  rw [run_append]
  refine Option.isSome_iff_exists.mp (has_handlers_run ?_)
  rw [get?_of_handler? hanswer]
  rfl

/-- As long as the calls are steady, the handler that a name has now has the import of
those that answered for it. -/
theorem Steady.importLine_eq (hsteady : r.Steady calls) (h : r.Answered calls name handler)
    {current : ScalarHandler} (hcurrent : Assoc.get? name (r.run calls).handlers = some current) :
    current.importLine = handler.importLine := by
  induction calls using List.reverseRecOn generalizing current with
  | nil => exact (not_answered_nil h).elim
  | append_singleton calls c ih =>
    obtain ⟨hbefore, hlast⟩ := steady_concat.mp hsteady
    rw [run_concat] at hcurrent
    cases c with
    | register other new =>
      replace h : r.Answered calls name handler :=
        (answered_concat.mp h).resolve_right fun hc => nomatch hc.1
      replace hcurrent : Assoc.get? name (Assoc.put other new (r.run calls).handlers) =
        some current := hcurrent
      rw [Assoc.get?_put] at hcurrent
      by_cases hname : other = name
      · rw [if_pos hname] at hcurrent
        obtain rfl := Option.some.inj hcurrent
        exact hlast other new rfl handler (hname ▸ h)
      · rw [if_neg hname] at hcurrent
        exact ih hbefore h hcurrent
    | lookup other =>
      replace hcurrent : Assoc.get? name (r.run calls).handlers = some current := by
        rw [← hcurrent]
        exact (congrArg (Assoc.get? name) handlers_lookup).symm
      rcases answered_concat.mp h with h | ⟨-, hanswer⟩
      · exact ih hbefore h hcurrent
      · rw [get?_of_handler? hanswer] at hcurrent
        rw [Option.some.inj hcurrent]

/-! ### The imports -/

/-- The handler answered for a name that has a handler with another import now. -/
def Replaced (r : ScalarRegistry) (calls : List Call) (old current : ScalarHandler) : Prop :=
  ∃ name, r.Answered calls name old ∧
    Assoc.get? name (r.run calls).handlers = some current ∧ current.importLine ≠ old.importLine

theorem mapM_eq_filterMap {α β : Type} {f : α → Option β} : ∀ {xs : List α},
    (∀ x ∈ xs, ∃ y, f x = some y) → xs.mapM f = some (xs.filterMap f)
  | [], _ => rfl
  | x :: xs, h => by
    obtain ⟨y, hy⟩ := h x List.mem_cons_self
    rw [List.mapM_cons, mapM_eq_filterMap fun z hz => h z (List.mem_cons_of_mem _ hz),
      List.filterMap_cons_some hy, hy]
    rfl

/-- The imports can be given if every name used has a handler. -/
theorem imports?_eq_some (h : ∀ name ∈ r.used, ∃ handler,
    Assoc.get? name r.handlers = some handler) : r.imports? = some r.usedImports := by
  unfold imports? usedImports
  rw [mapM_eq_filterMap, Option.map_some]
  intro name hname
  obtain ⟨handler, hhandler⟩ := h name hname
  exact ⟨handler.importLine, by rw [hhandler, Option.map_some]⟩

/-- The imports are those of the handlers that the names answered for have now. -/
theorem mem_usedImports_run (hr : r.used = []) {line : String} :
    line ∈ (r.run calls).usedImports ↔ ∃ name old current, r.Answered calls name old ∧
      Assoc.get? name (r.run calls).handlers = some current ∧ current.importLine = line := by
  rw [mem_usedImports]
  constructor
  · rintro ⟨name, hname, current, hcurrent, rfl⟩
    rcases mem_used_run.mp hname with h | ⟨old, hold⟩
    · rw [hr] at h
      cases h
    · exact ⟨name, old, current, hold, hcurrent, rfl⟩
  · rintro ⟨name, old, current, hold, hcurrent, rfl⟩
    exact ⟨name, mem_used_run.mpr (Or.inr ⟨old, hold⟩), current, hcurrent, rfl⟩

/-- The imports are those of the handlers that answered. -/
def Faithful (r : ScalarRegistry) (calls : List Call) : Prop :=
  ∀ line, line ∈ (r.run calls).usedImports ↔
    ∃ name handler, r.Answered calls name handler ∧ handler.importLine = line

theorem faithful_iff (hr : r.used = []) : r.Faithful calls ↔
    ∀ old current, r.Replaced calls old current →
      old.importLine ∈ (r.run calls).usedImports ∧
      ∃ name handler, r.Answered calls name handler ∧
        handler.importLine = current.importLine := by
  constructor
  · rintro h old current ⟨name, hold, hcurrent, -⟩
    refine ⟨(h _).mpr ⟨name, old, hold, rfl⟩, (h _).mp ?_⟩
    exact (mem_usedImports_run hr).mpr ⟨name, old, current, hold, hcurrent, rfl⟩
  · intro h line
    constructor
    · intro hline
      obtain ⟨name, old, current, hold, hcurrent, rfl⟩ := (mem_usedImports_run hr).mp hline
      by_cases he : current.importLine = old.importLine
      · exact ⟨name, old, hold, he.symm⟩
      · exact (h old current ⟨name, hold, hcurrent, he⟩).2
    · rintro ⟨name, old, hold, rfl⟩
      obtain ⟨current, hcurrent⟩ := hold.current
      by_cases he : current.importLine = old.importLine
      · exact (mem_usedImports_run hr).mpr ⟨name, old, current, hold, hcurrent, he⟩
      · exact (h old current ⟨name, hold, hcurrent, he⟩).1

theorem Steady.faithful (hr : r.used = []) (h : r.Steady calls) : r.Faithful calls :=
  (faithful_iff hr).mpr fun _ _ ⟨_, hold, hcurrent, hne⟩ =>
    (hne (h.importLine_eq hold hcurrent)).elim

/-- **The imports of the handlers that answered.** However a new registry is called:
every annotation it gives is one of the language, of an alias, or of the handler that
answers; the imports can always be given, and are those of the handlers that the names
answered for have now. They are the imports of the handlers that answered exactly if,
wherever the handler of such a name was replaced by one with another import, the import
of the old one is given for another name and that of the new one is that of a handler
that answered; so they are if no name is given another import after an answer. -/
theorem usedImports_run (aliases : List (String × String)) (calls : List Call) :
    (∀ before name after hint, calls = before ++ .lookup name :: after →
      (((withAliases aliases).run before).resolve name).1 = some hint →
      Assoc.get? name builtinScalars = some hint ∨
      (Assoc.get? name builtinScalars = none ∧ Assoc.get? name aliases = some hint) ∨
      ∃ handler, (withAliases aliases).Answered calls name handler ∧ handler.hint = hint) ∧
    ((withAliases aliases).run calls).imports? =
      some ((withAliases aliases).run calls).usedImports ∧
    (∀ line, line ∈ ((withAliases aliases).run calls).usedImports ↔
      ∃ name old current, (withAliases aliases).Answered calls name old ∧
        Assoc.get? name ((withAliases aliases).run calls).handlers = some current ∧
        current.importLine = line) ∧
    ((withAliases aliases).Faithful calls ↔
      ∀ old current, (withAliases aliases).Replaced calls old current →
        old.importLine ∈ ((withAliases aliases).run calls).usedImports ∧
        ∃ name handler, (withAliases aliases).Answered calls name handler ∧
          handler.importLine = current.importLine) ∧
    ((withAliases aliases).Steady calls → (withAliases aliases).Faithful calls) := by
  refine ⟨?_, ?_, fun _ => mem_usedImports_run rfl, faithful_iff rfl, Steady.faithful rfl⟩
  · rintro before name after hint hcalls hhint
    have haliases : ((withAliases aliases).run before).aliases = aliases := aliases_run
    rcases hint?_eq_some_iff.mp hhint with h | h | ⟨handler, hanswer, h⟩
    · exact Or.inl h
    · rw [haliases] at h
      exact Or.inr (Or.inl h)
    · exact Or.inr (Or.inr ⟨handler, ⟨before, after, hcalls, hanswer⟩, h⟩)
  · refine imports?_eq_some fun name hname => ?_
    rcases mem_used_run.mp hname with h | ⟨old, hold⟩
    · cases h
    · exact hold.current

/-- A scalar that is registered and one that every registry has are looked up. -/
def sampleCalls : List Call :=
  [.register "Money" ⟨"Decimal", "from decimal import Decimal"⟩, .lookup "Money",
    .lookup "DateTime"]

/-- Both are looked up for the first time after the registration, and both are imported. -/
theorem sample_answers : (withAliases []).Steady sampleCalls ∧
    (withAliases []).Faithful sampleCalls ∧
    ((withAliases []).run sampleCalls).usedImports =
      ["from datetime import datetime", "from decimal import Decimal"] := by
  have hfirst : (withAliases []).Steady
      ([] ++ [.register "Money" ⟨"Decimal", "from decimal import Decimal"⟩]) :=
    steady_concat.mpr ⟨fun before _ _ after h => by simp at h,
      fun _ _ _ _ hold => (not_answered_nil hold).elim⟩
  have hsecond := steady_concat.mpr ⟨hfirst,
    fun name handler (h : Call.lookup "Money" = .register name handler) => nomatch h⟩
  have hsteady : (withAliases []).Steady sampleCalls := steady_concat.mpr ⟨hsecond,
    fun name handler (h : Call.lookup "DateTime" = .register name handler) => nomatch h⟩
  exact ⟨hsteady, (usedImports_run [] _).2.2.2.2 hsteady, by decide⟩

/-- A handler is replaced after it answered. -/
def replacingCalls : List Call :=
  [.lookup "DateTime", .register "DateTime" ⟨"Instant", "from whenever import Instant"⟩]

/-- **A handler that is replaced after it answered.** The annotation that was given is not
imported any more, and one that was never given is. -/
theorem replaced_after_answer :
    (withAliases []).Answered replacingCalls "DateTime"
      ⟨"datetime", "from datetime import datetime"⟩ ∧
    ((withAliases []).run replacingCalls).usedImports = ["from whenever import Instant"] ∧
    ¬(withAliases []).Faithful replacingCalls := by
  have hanswer : (withAliases []).Answered replacingCalls "DateTime"
      ⟨"datetime", "from datetime import datetime"⟩ :=
    ⟨[], [.register "DateTime" ⟨"Instant", "from whenever import Instant"⟩], rfl, by decide⟩
  refine ⟨hanswer, by decide, fun h => ?_⟩
  have himported := (h "from datetime import datetime").mpr ⟨"DateTime", _, hanswer, rfl⟩
  exact absurd himported (by decide)

end ScalarRegistry
end ChainedSdk
