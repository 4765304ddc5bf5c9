/-
# Loading does not depend on how directories are listed

The files with documents at a written path are that file, or the files below that
directory (`FileTree.HoldsSource`). They are read in the order of their paths, which
all differ (`FileTree.sources_pairwise`), so the order in which directories are
listed is not to be seen in what is read (`FileTree.Reordered.sources_eq`).

Reading goes on as long as files parse, and puts their definitions one behind the
other; it ends at the first file that does not (`readSources_append`). This is the one
with the smallest path, and its error is the outcome (`loading_order_independent`).

Key definitions: `FileTree.HoldsSource`, `SourceFile.Parses`.
Key theorems: `FileTree.Reordered.sources_eq`, `FileTree.mem_sources`, `readSources_append`,
`loading_order_independent`.
-/
import ChainedSdk.Proofs.Listings
import Mathlib.Data.String.Basic

namespace ChainedSdk

open GraphQL (Document)

/-! ### The files that are read -/

theorem sortSources_perm (files : List SourceFile) : (sortSources files).Perm files :=
  List.mergeSort_perm files _

theorem sortSources_pairwise (files : List SourceFile) :
    (sortSources files).Pairwise fun f g => f.path ≤ g.path := by
  have hle : ∀ f g : SourceFile, (!decide (g.path < f.path)) = true ↔ f.path ≤ g.path := by
    intro f g
    rw [Bool.not_eq_true', decide_eq_false_iff_not, not_lt]
  refine (List.pairwise_mergeSort ?_ ?_ files).imp fun h => (hle _ _).mp h
  · intro f g k hfg hgk
    rw [hle] at hfg hgk ⊢
    exact hfg.trans hgk
  · intro f g
    rw [Bool.or_eq_true, hle, hle]
    exact le_total f.path g.path

namespace FileTree

/-- A file with documents at a written path, under its name: the file that the path is
that of, or one in or below the directory that it is that of. -/
inductive HoldsSource (t : FileTree) (current : Path) (path : String) :
    String → SourceFile → Prop
  | here {p : Path} {text : String} : t.locate? current path = some p →
      t.find? p = some (file text) → isDocumentName path = true →
      HoldsSource t current path (Path.lastName path) ⟨path, text⟩
  | below {p names : Path} {name text : String} : t.locate? current path = some p →
      t.find? (p ++ (names ++ [name])) = some (file text) → isDocumentName name = true →
      HoldsSource t current path name ⟨Path.below path (names ++ [name]), text⟩

variable {t u : FileTree} {current : Path} {path : String}

/-- The written path of a file ends with its name. -/
theorem HoldsSource.lastName (ht : t.WellFormed) {name : String} {f : SourceFile}
    (h : t.HoldsSource current path name f) : Path.lastName f.path = name := by
  cases h with
  | here _ _ _ => rfl
  | below _ hfind _ => exact Path.lastName_below ((ht.find? hfind).1 _ (by simp))

/-- What is at the written path. -/
def place? (t : FileTree) (current : Path) (path : String) : Option FileTree :=
  (t.locate? current path).bind t.find?

theorem holdsSource_iff {name : String} {f : SourceFile} :
    t.HoldsSource current path name f ↔ ∃ v, t.place? current path = some v ∧
      ((∃ text, v = file text ∧ isDocumentName path = true ∧ name = Path.lastName path ∧
        f = ⟨path, text⟩) ∨
      ∃ names text, v.find? (names ++ [name]) = some (file text) ∧ isDocumentName name = true ∧
        f = ⟨Path.below path (names ++ [name]), text⟩) := by
  unfold place?
  constructor
  · rintro (⟨hp, hfind, hdoc⟩ | @⟨p, names, _, text, hp, hfind, hdoc⟩)
    · exact ⟨_, Option.bind_eq_some_iff.mpr ⟨_, hp, hfind⟩, Or.inl ⟨_, rfl, hdoc, rfl, rfl⟩⟩
    · rw [find?_append] at hfind
      obtain ⟨v, hv, hfind⟩ := Option.bind_eq_some_iff.mp hfind
      exact ⟨v, Option.bind_eq_some_iff.mpr ⟨_, hp, hv⟩, Or.inr ⟨names, text, hfind, hdoc, rfl⟩⟩
  · rintro ⟨v, hv, h⟩
    obtain ⟨p, hp, hv⟩ := Option.bind_eq_some_iff.mp hv
    rcases h with ⟨text, rfl, hdoc, rfl, rfl⟩ | ⟨names, text, hfind, hdoc, rfl⟩
    · exact .here hp hv hdoc
    · refine .below hp ?_ hdoc
      rw [find?_append, hv]
      exact hfind

theorem WellFormed.place? (ht : t.WellFormed) (h : t.place? current path = some u) :
    u.WellFormed := by
  obtain ⟨p, -, hfind⟩ := Option.bind_eq_some_iff.mp h
  exact (ht.find? hfind).2

/-- The files with documents in what is at a written path, in order. -/
def sourcesAt (path : String) : FileTree → List SourceFile
  | file text => if isDocumentName path then [⟨path, text⟩] else []
  | directory entries => sortSources ((directory entries).walkSources path)

theorem sources_eq_sourcesAt : t.sources current path =
    (t.place? current path).elim [] (sourcesAt path) := by
  unfold sources place?
  cases (t.locate? current path).bind t.find? with
  | none => rfl
  | some v => cases v <;> rfl

/-- **The files that are read** are those with documents at the path. -/
theorem mem_sources (ht : t.WellFormed) {f : SourceFile} :
    f ∈ t.sources current path ↔ ∃ name, t.HoldsSource current path name f := by
  simp only [holdsSource_iff]
  rw [sources_eq_sourcesAt]
  cases hplace : t.place? current path with
  | none => simp
  | some v =>
    have hv := ht.place? hplace
    cases v with
    | file text =>
      by_cases hdoc : isDocumentName path = true <;> simp [sourcesAt, hdoc, find?_file_concat]
    | directory entries =>
      simp only [Option.elim_some, sourcesAt, (sortSources_perm _).mem_iff, mem_walkSources hv,
        Option.some.injEq, exists_eq_left', reduceCtorEq, false_and, exists_false, false_or]
      exact ⟨fun ⟨names, name, text, h⟩ => ⟨name, names, text, h⟩,
        fun ⟨name, names, text, h⟩ => ⟨names, name, text, h⟩⟩

/-- **The files come in the order of their paths**, each once. -/
theorem sources_pairwise (ht : t.WellFormed) :
    (t.sources current path).Pairwise fun f g => f.path < g.path := by
  rw [sources_eq_sourcesAt]
  cases hplace : t.place? current path with
  | none => exact .nil
  | some v =>
    have hv := ht.place? hplace
    cases v with
    | file text => by_cases hdoc : isDocumentName path = true <;> simp [sourcesAt, hdoc]
    | directory entries =>
      have hnodup : (sortSources ((directory entries).walkSources path)).Nodup :=
        (sortSources_perm _).nodup_iff.mpr (walkSources_nodup hv path)
      refine ((sortSources_pairwise _).and hnodup).imp_of_mem fun {f g} hf hg h => ?_
      refine lt_of_le_of_ne h.1 fun hpath => h.2 ?_
      exact eq_of_path_eq hv ((sortSources_perm _).mem_iff.mp hf)
        ((sortSources_perm _).mem_iff.mp hg) hpath

/-- Files that a walk finds in another order come in one order. -/
theorem Reordered.sourcesAt_eq (h : t.Reordered u) (ht : t.WellFormed) :
    sourcesAt path u = sourcesAt path t := by
  cases t with
  | file text =>
    obtain rfl : u = file text := text?_eq_some.mp h.text?_eq
    rfl
  | directory entries =>
    cases u with
    | file text => cases h.text?_eq
    | directory entries' =>
      unfold sourcesAt
      have hperm := (sortSources_perm _).trans
        ((h.walkSources_perm path).symm.trans (sortSources_perm _).symm)
      refine hperm.eq_of_pairwise (fun f g hf hg hfg hgf => ?_) (sortSources_pairwise _)
        (sortSources_pairwise _)
      exact eq_of_path_eq ht
        ((h.walkSources_perm path).mem_iff.mpr ((sortSources_perm _).mem_iff.mp hf))
        ((sortSources_perm _).mem_iff.mp hg) (le_antisymm hfg hgf)

theorem Reordered.place? (h : t.Reordered u) (ht : t.WellFormed) :
    Option.Rel Reordered (t.place? current path) (u.place? current path) := by
  unfold FileTree.place?
  rw [h.locate?_eq ht]
  cases t.locate? current path with
  | none => exact .none
  | some p => exact h.find? ht p

/-- **The order in which directories are listed** is not to be seen. -/
theorem Reordered.sources_eq (h : t.Reordered u) (ht : t.WellFormed) :
    u.sources current path = t.sources current path := by
  have hplace : Option.Rel Reordered (t.place? current path) (u.place? current path) :=
    h.place? ht
  have hwell : ∀ v, t.place? current path = some v → v.WellFormed := fun _ => ht.place?
  rw [sources_eq_sourcesAt, sources_eq_sourcesAt]
  revert hplace hwell
  generalize t.place? current path = v?
  generalize u.place? current path = w?
  intro hplace hwell
  cases hplace with
  | none => rfl
  | some h => exact h.sourcesAt_eq (hwell _ rfl)

end FileTree

/-! ### Reading -/

/-- The file holds the document. -/
def SourceFile.Parses (f : SourceFile) (d : Document) : Prop :=
  Document.parse f.content = .ok d

/-- The file holds none, for a reason. -/
def SourceFile.Fails (f : SourceFile) (e : GraphQL.SyntaxError) : Prop :=
  Document.parse f.content = .error e

/-- **Files that parse** are put together, and reading goes on behind them. -/
theorem readSources_append {fs : List SourceFile} {ds : List Document}
    (h : List.Forall₂ SourceFile.Parses fs ds) : ∀ (done : Loading) {d : Document},
    done.outcome = .ok d → ∃ next : Loading,
      next.outcome = .ok ⟨d.definitions ++ ds.flatMap (·.definitions)⟩ ∧
      ∀ rest, readSources done (fs ++ rest) = readSources next rest := by
  induction h with
  | nil =>
    intro done d hd
    exact ⟨done, by simp [hd], fun _ => rfl⟩
  | @cons f e fs ds hf _ ih =>
    intro done d hd
    unfold SourceFile.Parses at hf
    obtain ⟨next, hnext, hrest⟩ := ih ⟨.ok (.concat [d, e]), Path.lastName f.path,
      done.log ++ [.core .debug "loader" ("Parsed " ++ f.path)]⟩ rfl
    refine ⟨next, ?_, fun rest => ?_⟩
    · rw [hnext]
      simp [Document.concat]
    · rw [← hrest, List.cons_append, readSources, hd, hf]

/-- Files parse all, or there is a first one that does not. -/
theorem parses_or_fails : ∀ fs : List SourceFile, (∃ ds, List.Forall₂ SourceFile.Parses fs ds) ∨
    ∃ before f after ds e, fs = before ++ f :: after ∧ List.Forall₂ SourceFile.Parses before ds ∧
      f.Fails e
  | [] => Or.inl ⟨[], .nil⟩
  | f :: fs => by
    cases hf : Document.parse f.content with
    | error e => exact Or.inr ⟨[], f, fs, [], e, rfl, .nil, hf⟩
    | ok d =>
      rcases parses_or_fails fs with ⟨ds, hds⟩ | ⟨before, g, after, ds, e, rfl, hds, hg⟩
      · exact Or.inl ⟨d :: ds, .cons hf hds⟩
      · exact Or.inr ⟨f :: before, g, after, d :: ds, e, rfl, .cons hf hds, hg⟩

/-- **What loading comes to** where all files parse. -/
theorem loadDocuments_of_parses {fs : List SourceFile} {ds : List Document}
    (h : List.Forall₂ SourceFile.Parses fs ds) :
    (loadDocuments fs).outcome = .ok (.concat ds) := by
  obtain ⟨next, hnext, hrest⟩ := readSources_append h ⟨.ok ⟨[]⟩, "", []⟩ rfl
  have hall := hrest []
  rw [List.append_nil] at hall
  unfold loadDocuments
  rw [hall]
  exact hnext

/-- **What loading comes to** where a file does not parse and those before it do. -/
theorem loadDocuments_of_fails {before : List SourceFile} {f : SourceFile}
    {ds : List Document} {e : GraphQL.SyntaxError} (h : List.Forall₂ SourceFile.Parses before ds)
    (hf : f.Fails e) (after : List SourceFile) :
    (loadDocuments (before ++ f :: after)).outcome = .error e ∧
      (loadDocuments (before ++ f :: after)).current = Path.lastName f.path := by
  obtain ⟨next, hnext, hrest⟩ := readSources_append h ⟨.ok ⟨[]⟩, "", []⟩ rfl
  unfold SourceFile.Fails at hf
  unfold loadDocuments
  rw [hrest, readSources, hnext, hf]
  exact ⟨rfl, rfl⟩

section Loading

variable {fs : List SourceFile}

/-- Loading succeeds if all files parse, and puts them together. -/
theorem loadDocuments_eq_ok {d : Document} : (loadDocuments fs).outcome = .ok d ↔
    ∃ ds, List.Forall₂ SourceFile.Parses fs ds ∧ d = .concat ds := by
  constructor
  · intro h
    rcases parses_or_fails fs with ⟨ds, hds⟩ | ⟨before, f, after, ds, e, rfl, hds, hf⟩
    · rw [loadDocuments_of_parses hds] at h
      exact ⟨ds, hds, (Except.ok.inj h).symm⟩
    · rw [(loadDocuments_of_fails hds hf after).1] at h
      cases h
  · rintro ⟨ds, hds, rfl⟩
    exact loadDocuments_of_parses hds

/-- Of the files that do not parse, this one has the smallest path. -/
structure SourceFile.FailsFirst (f : SourceFile) (fs : List SourceFile)
    (e : GraphQL.SyntaxError) : Prop where
  mem : f ∈ fs
  fails : f.Fails e
  first : ∀ g ∈ fs, ∀ e', g.Fails e' → f.path ≤ g.path

/-- Where paths increase, the files before the first one that does not parse do. -/
theorem failsFirst_iff (hfs : fs.Pairwise fun f g => f.path < g.path) {f : SourceFile}
    {e : GraphQL.SyntaxError} : f.FailsFirst fs e ↔ ∃ before after ds,
      fs = before ++ f :: after ∧ List.Forall₂ SourceFile.Parses before ds ∧ f.Fails e := by
  constructor
  · rintro ⟨hmem, hfails, hfirst⟩
    obtain ⟨before, after, rfl⟩ := List.append_of_mem hmem
    obtain ⟨-, -, hbefore⟩ := List.pairwise_append.mp hfs
    rcases parses_or_fails before with ⟨ds, hds⟩ | ⟨_, g, _, _, e', hg, -, hgfails⟩
    · exact ⟨before, after, ds, rfl, hds, hfails⟩
    · have hg : g ∈ before := by simp [hg]
      have hlt := hbefore g hg f List.mem_cons_self
      exact absurd (hfirst g (List.mem_append_left _ hg) e' hgfails) (not_le_of_gt hlt)
  · rintro ⟨before, after, ds, rfl, hds, hfails⟩
    refine ⟨by simp, hfails, fun g hg e' hgfails => ?_⟩
    rcases List.mem_append.mp hg with hg | hg
    · obtain ⟨i, hi, rfl⟩ := List.getElem_of_mem hg
      have hparses := hds.get hi (hds.length_eq ▸ hi)
      cases hgfails.symm.trans hparses
    · rcases List.mem_cons.mp hg with rfl | hg
      · exact le_refl _
      · obtain ⟨-, hafter, -⟩ := List.pairwise_append.mp hfs
        exact le_of_lt ((List.pairwise_cons.mp hafter).1 g hg)

/-- **Loading fails** as the file with the smallest path does that does not parse. -/
theorem loadDocuments_eq_error (hfs : fs.Pairwise fun f g => f.path < g.path)
    {e : GraphQL.SyntaxError} : (loadDocuments fs).outcome = .error e ↔
      ∃ f : SourceFile, f.FailsFirst fs e ∧
        (loadDocuments fs).current = Path.lastName f.path := by
  simp only [failsFirst_iff hfs]
  constructor
  · intro h
    rcases parses_or_fails fs with ⟨ds, hds⟩ | ⟨before, f, after, ds, e', rfl, hds, hf⟩
    · rw [loadDocuments_of_parses hds] at h
      cases h
    · obtain ⟨houtcome, hcurrent⟩ := loadDocuments_of_fails hds hf after
      cases houtcome.symm.trans h
      exact ⟨f, ⟨before, after, ds, rfl, hds, hf⟩, hcurrent⟩
  · rintro ⟨f, ⟨before, after, ds, rfl, hds, hf⟩, -⟩
    exact (loadDocuments_of_fails hds hf after).1

/-- Loading fails if a file does not parse. -/
theorem loadDocuments_fails_iff :
    (∃ e, (loadDocuments fs).outcome = .error e) ↔ ∃ f ∈ fs, ∃ e, f.Fails e := by
  constructor
  · rintro ⟨e, he⟩
    rcases parses_or_fails fs with ⟨ds, hds⟩ | ⟨before, f, after, ds, e', rfl, -, hf⟩
    · rw [loadDocuments_of_parses hds] at he
      cases he
    · exact ⟨f, by simp, e', hf⟩
  · rintro ⟨f, hf, e, hfails⟩
    cases houtcome : (loadDocuments fs).outcome with
    | error e' => exact ⟨e', rfl⟩
    | ok d =>
      obtain ⟨ds, hds, -⟩ := loadDocuments_eq_ok.mp houtcome
      obtain ⟨i, hi, rfl⟩ := List.getElem_of_mem hf
      cases hfails.symm.trans (hds.get hi (hds.length_eq ▸ hi))

end Loading

/-- **Loading does not depend on how directories are listed.** Trees that differ in
nothing else load alike. What is read are the files with documents at the path, each
once, and their paths increase. If all of them parse, their definitions come in this
order; if some do not, the outcome is the error of the one with the smallest path, and
its name is that of the file that was read last. -/
theorem loading_order_independent {t u : FileTree} (ht : t.WellFormed) (h : t.Reordered u)
    (current : Path) (path : String) :
    let files := t.sources current path
    let loading := loadDocuments files
    loadDocuments (u.sources current path) = loading ∧
    (files.Pairwise fun f g => f.path < g.path) ∧
    (∀ f, f ∈ files ↔ ∃ name, t.HoldsSource current path name f) ∧
    (∀ d, loading.outcome = .ok d ↔ ∃ ds, List.Forall₂ SourceFile.Parses files ds ∧
      d.definitions = ds.flatMap (·.definitions)) ∧
    ((∃ e, loading.outcome = .error e) ↔ ∃ f ∈ files, ∃ e, f.Fails e) ∧
    ∀ e, loading.outcome = .error e ↔ ∃ f name, t.HoldsSource current path name f ∧
      f.FailsFirst files e ∧ loading.current = name := by
  intro files loading
  have hpaths : files.Pairwise fun f g => f.path < g.path := FileTree.sources_pairwise ht
  have hmem : ∀ f, f ∈ files ↔ ∃ name, t.HoldsSource current path name f :=
    fun f => FileTree.mem_sources ht
  have herror : ∀ e, loading.outcome = .error e ↔
      ∃ f : SourceFile, f.FailsFirst files e ∧ loading.current = Path.lastName f.path :=
    fun e => loadDocuments_eq_error hpaths
  refine ⟨congrArg loadDocuments (h.sources_eq ht), hpaths, hmem, fun d => ?_,
    loadDocuments_fails_iff, fun e => ?_⟩
  · rw [loadDocuments_eq_ok]
    constructor
    · rintro ⟨ds, hds, rfl⟩
      exact ⟨ds, hds, rfl⟩
    · rintro ⟨ds, hds, hd⟩
      refine ⟨ds, hds, ?_⟩
      cases d
      exact congrArg Document.mk hd
  · rw [herror]
    constructor
    · rintro ⟨f, hf, hcurrent⟩
      obtain ⟨name, hname⟩ := (hmem f).mp hf.mem
      exact ⟨f, name, hname, hf, hcurrent.trans (hname.lastName ht)⟩
    · rintro ⟨f, name, hname, hf, hcurrent⟩
      exact ⟨f, hf, hcurrent.trans (hname.lastName ht).symm⟩

namespace FileTree

/-- Documents in a directory and one below it, of which two do not parse. -/
def sampleDocuments : FileTree :=
  directory [("docs", directory
    [("a.gql", file "query a \x7b a \x7d"), ("notes.txt", file "a"),
      ("b", directory [("x.graphql", file "query x \x7b "), ("y.gql", file "y \x7d")])])]

/-- The same documents, listed from the end. -/
def sampleListed : FileTree :=
  directory [("docs", directory
    [("b", directory [("y.gql", file "y \x7d"), ("x.graphql", file "query x \x7b ")]),
      ("notes.txt", file "a"), ("a.gql", file "query a \x7b a \x7d")])]

theorem sampleDocuments_wellFormed : sampleDocuments.WellFormed := by
  refine .directory (by decide) (by decide) ?_
  simp only [List.mem_singleton, forall_eq]
  refine .directory (by decide) (by decide) ?_
  simp only [List.mem_cons, List.not_mem_nil, or_false, forall_eq_or_imp, forall_eq]
  refine ⟨.file _, .file _, .directory (by decide) (by decide) ?_⟩
  simp only [List.mem_cons, List.not_mem_nil, or_false, forall_eq_or_imp, forall_eq]
  exact ⟨.file _, .file _⟩

theorem sampleDocuments_reordered : sampleDocuments.Reordered sampleListed := by
  have hinner : (directory [("x.graphql", file "query x \x7b "), ("y.gql", file "y \x7d")]).Reordered
      (directory [("y.gql", file "y \x7d"), ("x.graphql", file "query x \x7b ")]) :=
    .listed (.swap _ _ _)
  have houter := @Reordered.inside
    [("a.gql", file "query a \x7b a \x7d"), ("notes.txt", file "a")] [] "b" _ _ hinner
  have hlisted := houter.trans (.listed (List.reverse_perm _).symm)
  exact @Reordered.inside [] [] "docs" _ _ hlisted

/-- The documents in the order in which they are read. -/
def sampleSources : List SourceFile :=
  [⟨"/docs/a.gql", "query a \x7b a \x7d"⟩, ⟨"/docs/b/x.graphql", "query x \x7b "⟩,
    ⟨"/docs/b/y.gql", "y \x7d"⟩]

theorem sources_sampleDocuments : sampleDocuments.sources [] "/docs" = sampleSources := by
  have hwalk : (sampleDocuments.place? [] "/docs").map (walkSources "/docs") =
      some sampleSources := by decide +kernel
  obtain ⟨v, hv, hwalk⟩ := Option.map_eq_some_iff.mp hwalk
  rw [sources_eq_sourcesAt, hv]
  cases v with
  | file text => cases hwalk
  | directory entries =>
    show sortSources (walkSources "/docs" (directory entries)) = _
    rw [hwalk]
    exact List.mergeSort_of_pairwise (by decide +kernel)

end FileTree

open FileTree in
/-- Of two files that do not parse the first is reported, also where it is listed
behind the other one. -/
theorem sample_loading : sampleDocuments.WellFormed ∧ sampleDocuments.Reordered sampleListed ∧
    ∃ e, (loadDocuments (sampleListed.sources [] "/docs")).outcome = .error e ∧
      (loadDocuments (sampleListed.sources [] "/docs")).current = "x.graphql" := by
  have hrun : (loadDocuments sampleSources).outcome.toOption.isNone = true ∧
      (loadDocuments sampleSources).current = "x.graphql" := by decide +kernel
  obtain ⟨hload, -⟩ :=
    loading_order_independent sampleDocuments_wellFormed sampleDocuments_reordered [] "/docs"
  rw [hload, sources_sampleDocuments]
  refine ⟨sampleDocuments_wellFormed, sampleDocuments_reordered, ?_⟩
  cases houtcome : (loadDocuments sampleSources).outcome with
  | error e => exact ⟨e, rfl, hrun.2⟩
  | ok d =>
    rw [houtcome] at hrun
    cases hrun.1

end ChainedSdk
