/-
# The phases of generating

Generating describes the operations, builds the APIs of those that the filters keep,
collects the documents, and checks the text. The first phase that fails decides the
error (`Generator.generate_eq_error`); a text comes out if none does, and it is the
checked one below the headers (`Generator.generate_eq_ok`).

Key definitions: `Generator.Fails`, `Generator.Makes`.
Key theorems: `Generator.generate_eq_ok`, `Generator.generate_eq_error`.
-/
import ChainedSdk.Proofs.History

namespace ChainedSdk
namespace Generator

variable {g : Generator}

/-- The operations of the document that the filters keep. -/
def Keeps (g : Generator) (os : List SdkOperation) : Prop :=
  ∃ all, g.described = .ok all ∧ os = NameFilter.runAll g.filters all

/-- The generator when the APIs of operations have been built. -/
def afterBuild (g : Generator) (os : List SdkOperation) (apis : List ScopedApi) : Generator :=
  { (g.build os).2 with operations := os, apis }

/-- The generator gets as far as the documents of the operations that it keeps: their
APIs can be built, and `built` is the generator then. -/
def Reaches (g built : Generator) : Prop :=
  ∃ os apis, g.Keeps os ∧ (g.build os).1 = .ok apis ∧ built = g.afterBuild os apis

/-- A phase of generating fails, and those before it do not: an operation cannot be
described, the APIs cannot be built, a fragment is not known, or the text is not that
of a module. -/
inductive Fails (g : Generator) : GenerationError → Prop
  | describing {e : GenerationError} : g.described = .error e → Fails g e
  | building {os : List SdkOperation} {e : GenerationError} : g.Keeps os →
      (g.build os).1 = .error e → Fails g e
  | collecting {built : Generator} {e : GenerationError} : g.Reaches built →
      built.documents = .error e → Fails g e
  | checking {built : Generator} {documents : List Code.Statement} : g.Reaches built →
      built.documents = .ok documents → Code.isModule (built.moduleText documents) = false →
      Fails g (.invalidModule g.filename)

/-- All phases of generating succeed, and this is the text of the module. -/
def Makes (g : Generator) (text : String) : Prop :=
  ∃ built documents, g.Reaches built ∧ built.documents = .ok documents ∧
    text = built.moduleText documents ∧ Code.isModule text = true

/-! ### One phase after the other -/

/-- What was reported before does not matter. -/
theorem generateFor_report (g : Generator) (rs : List LogRecord) (os : List SdkOperation) :
    ((g.report rs).generateFor os).1 = (g.generateFor os).1 := by
  cases hbuild : (g.build os).1 with
  | error e =>
    have hreported : ((g.report rs).build os).1 = .error e := hbuild
    rw [generateFor_of_error hbuild, generateFor_of_error hreported]
  | ok apis =>
    have hown : g.build os = (.ok apis, (g.build os).2) := Prod.ext hbuild rfl
    have hreported : (g.report rs).build os = (.ok apis, ((g.report rs).build os).2) :=
      Prod.ext hbuild rfl
    have htext : ((g.report rs).afterBuild os apis).checkedText =
        (g.afterBuild os apis).checkedText :=
      checkedText_congr ⟨rfl, rfl, rfl, rfl⟩ rfl rfl rfl rfl
    rw [(generateFor_of_build hown).1, (generateFor_of_build hreported).1]
    exact congrArg (Except.map (Header.putAll g.headers)) htext

/-- Generating goes on with the operations that are kept. -/
theorem generate_of_keeps {os : List SdkOperation} (h : g.Keeps os) :
    g.generate.1 = (g.generateFor os).1 := by
  obtain ⟨all, hall, rfl⟩ := h
  have hdescribed : ∀ rs, (g.report rs).described = .ok all := fun _ => hall
  unfold generate classify
  simp only [hdescribed]
  rw [generateFor_report, generateFor_report]
  rfl

theorem generate_of_described {e : GenerationError} (h : g.described = .error e) :
    g.generate.1 = .error e := by
  have hdescribed : ∀ rs, (g.report rs).described = .error e := fun _ => h
  unfold generate classify
  simp only [hdescribed]

theorem exists_keeps {text : String} (h : g.generate.1 = .ok text) :
    ∃ os, g.Keeps os ∧ (g.generateFor os).1 = .ok text := by
  cases hall : g.described with
  | error e => cases (generate_of_described hall).symm.trans h
  | ok all =>
    have hkeeps : g.Keeps (NameFilter.runAll g.filters all) := ⟨all, hall, rfl⟩
    exact ⟨_, hkeeps, generate_of_keeps hkeeps ▸ h⟩

theorem generate_of_reaches {built : Generator} (h : g.Reaches built) :
    g.generate.1 = built.checkedText.map (Header.putAll g.headers) := by
  obtain ⟨os, apis, hkeeps, hbuild, rfl⟩ := h
  rw [generate_of_keeps hkeeps]
  exact (generateFor_of_build (Prod.ext hbuild rfl)).1

theorem Reaches.filename {built : Generator} (h : g.Reaches built) : built.filename = g.filename := by
  obtain ⟨os, apis, -, -, rfl⟩ := h
  rfl

theorem checkedText_eq_error {e : GenerationError} : g.checkedText = .error e ↔
    g.documents = .error e ∨ ∃ documents, g.documents = .ok documents ∧
      Code.isModule (g.moduleText documents) = false ∧ e = .invalidModule g.filename := by
  unfold checkedText
  cases hd : g.documents with
  | error fault => simp
  | ok documents =>
    by_cases hm : Code.isModule (g.moduleText documents) = true
    · simp [hm]
    · simp only [hm, Bool.false_eq_true, if_false, Except.error.injEq, reduceCtorEq, false_or,
        Except.ok.injEq, exists_eq_left', true_and]
      exact eq_comm

/-- Generating gets to an error in describing or building, or as far as the documents. -/
theorem fails_or_reaches (g : Generator) :
    (∃ e, g.generate.1 = .error e ∧ g.Fails e) ∨ ∃ built, g.Reaches built := by
  cases hall : g.described with
  | error e => exact Or.inl ⟨e, generate_of_described hall, .describing hall⟩
  | ok all =>
    have hkeeps : g.Keeps (NameFilter.runAll g.filters all) := ⟨all, hall, rfl⟩
    cases hbuild : (g.build (NameFilter.runAll g.filters all)).1 with
    | error e =>
      refine Or.inl ⟨e, ?_, .building hkeeps hbuild⟩
      rw [generate_of_keeps hkeeps, generateFor_of_error hbuild]
    | ok apis => exact Or.inr ⟨_, _, apis, hkeeps, hbuild, rfl⟩

/-- **The first phase that fails** decides the error. -/
theorem generate_eq_error {e : GenerationError} : g.generate.1 = .error e ↔ g.Fails e := by
  constructor
  · intro h
    rcases g.fails_or_reaches with ⟨fault, hfault, hfails⟩ | ⟨built, hreaches⟩
    · obtain rfl := Except.error.inj (hfault.symm.trans h)
      exact hfails
    · rw [generate_of_reaches hreaches] at h
      cases htext : built.checkedText with
      | ok text =>
        rw [htext] at h
        cases h
      | error fault =>
        rw [htext] at h
        obtain rfl := Except.error.inj h
        rcases checkedText_eq_error.mp htext with hd | ⟨documents, hd, hm, rfl⟩
        · exact .collecting hreaches hd
        · rw [hreaches.filename]
          exact .checking hreaches hd hm
  · intro h
    cases h with
    | describing hall => exact generate_of_described hall
    | building hkeeps hbuild => rw [generate_of_keeps hkeeps, generateFor_of_error hbuild]
    | collecting hreaches hd =>
      rw [generate_of_reaches hreaches, checkedText_eq_error.mpr (Or.inl hd)]
      rfl
    | @checking built documents hreaches hd hm =>
      rw [generate_of_reaches hreaches,
        checkedText_eq_error.mpr (Or.inr ⟨documents, hd, hm, rfl⟩), hreaches.filename]
      rfl

/-- **A text comes out** if no phase fails: the checked one, below the headers. -/
theorem generate_eq_ok {text : String} : g.generate.1 = .ok text ↔
    ∃ body, g.Makes body ∧ text = Header.putAll g.headers body := by
  constructor
  · intro h
    rcases g.fails_or_reaches with ⟨fault, hfault, -⟩ | ⟨built, hreaches⟩
    · cases hfault.symm.trans h
    · rw [generate_of_reaches hreaches] at h
      cases htext : built.checkedText with
      | error fault =>
        rw [htext] at h
        cases h
      | ok body =>
        rw [htext] at h
        obtain ⟨documents, hd, hm, rfl⟩ := checkedText_eq_ok.mp htext
        exact ⟨_, ⟨built, documents, hreaches, hd, rfl, hm⟩, (Except.ok.inj h).symm⟩
  · rintro ⟨body, ⟨built, documents, hreaches, hd, rfl, hm⟩, rfl⟩
    rw [generate_of_reaches hreaches, checkedText_eq_ok.mpr ⟨documents, hd, hm, rfl⟩]
    rfl

end Generator
end ChainedSdk
