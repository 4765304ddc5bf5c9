/-
# The order in which directories are listed

A file system lists the entries of a directory in an order of its own. Trees that
differ in nothing else (`FileTree.Reordered`) have the same at each path
(`FileTree.Reordered.find?`), so a written path leads to the same place in them
(`FileTree.Reordered.locate?_eq`), and a walk finds the same files with documents,
in some order (`FileTree.Reordered.walkSources_perm`).

What a walk finds are the files whose names have the endings of documents
(`FileTree.mem_walkSources`), each once (`FileTree.walkSources_nodup`): names are not
empty and have no slash in them, so the path of a file tells the names on the way to
it (`Path.below_inj`).

Key definitions: `FileTree.WellFormed`, `FileTree.Reordered`, `Path.below`.
Key theorems: `FileTree.Reordered.locate?_eq`,
`FileTree.Reordered.walkSources_perm`, `FileTree.mem_walkSources`,
`FileTree.walkSources_nodup`.
-/
import ChainedSdk.DocumentFiles
import ChainedSdk.Proofs.Emission
import ChainedSdk.Proofs.Pieces

namespace ChainedSdk

/-! ### Written paths -/

namespace Path

/-- A name that an entry of a directory can have. -/
def IsEntryName (name : String) : Prop :=
  name ≠ "" ∧ '/' ∉ name.toList

instance (name : String) : Decidable (IsEntryName name) :=
  inferInstanceAs (Decidable (_ ∧ _))

/-- The written path that names lead to from a written path. -/
def below (path : String) (names : List String) : String :=
  names.foldl entryText path

/-- The written path of a directory, up to the slash before its entries. -/
def ended (path : String) : String :=
  if Text.endsWith path "/" then path else path ++ "/"

theorem entryText_eq (path name : String) : entryText path name = ended path ++ name := by
  unfold entryText ended
  split <;> rfl

theorem below_concat (path : String) (names : List String) (name : String) :
    below path (names ++ [name]) = ended (below path names) ++ name := by
  unfold below
  rw [List.foldl_append]
  exact entryText_eq _ name

theorem exists_ended (path : String) : ∃ s, ended path = s ++ String.ofList ['/'] := by
  unfold ended
  by_cases h : Text.endsWith path "/" = true
  · obtain ⟨cs, hcs⟩ := List.isSuffixOf_iff_suffix.mp h
    refine ⟨String.ofList cs, ?_⟩
    rw [if_pos h, ← String.ofList_append, ← String.ofList_toList (s := path), ← hcs]
    rfl
  · exact ⟨path, if_neg h⟩

/-- The last name on the way is the last name of the path. -/
theorem lastName_below {path name : String} {names : List String} (h : IsEntryName name) :
    lastName (below path (names ++ [name])) = name := by
  obtain ⟨s, hs⟩ := exists_ended (below path names)
  rw [below_concat, hs]
  exact Text.getLastD_split h.2

theorem ended_append {s name : String} (h : IsEntryName name) :
    ended (s ++ name) = s ++ name ++ "/" := by
  unfold ended
  refine if_neg fun hends => ?_
  obtain ⟨cs, hcs⟩ := List.isSuffixOf_iff_suffix.mp hends
  have hne : name.toList ≠ [] := fun he => h.1 (String.toList_eq_nil_iff.mp he)
  have hlast := congrArg List.getLast? hcs
  rw [String.toList_append, List.getLast?_append_of_ne_nil _ hne] at hlast
  have hslash : (cs ++ "/".toList).getLast? = some '/' := by
    rw [show "/".toList = ['/'] from rfl]
    simp
  exact h.2 (List.mem_of_getLast? (hlast.symm.trans hslash))

/-- The path below a directory is its names with slashes between them. -/
theorem below_eq : ∀ {path name : String} {names : List String},
    (∀ n ∈ name :: names, IsEntryName n) →
    below path (name :: names) = ended path ++ Text.joinWith "/" (name :: names)
  | path, name, [], _ => entryText_eq path name
  | path, name, next :: names, h => by
    have hstep : below path (name :: next :: names) = below (ended path ++ name) (next :: names) :=
      congrArg (fun p => below p (next :: names)) (entryText_eq path name)
    rw [hstep, below_eq fun n hn => h n (List.mem_cons_of_mem _ hn),
      ended_append (h name List.mem_cons_self), Text.joinWith_cons_cons]
    simp only [String.append_assoc]

/-- A path below a directory tells the names on the way. -/
theorem below_inj {path : String} {ms ns : List String} (hms : ms ≠ []) (hns : ns ≠ [])
    (hm : ∀ n ∈ ms, IsEntryName n) (hn : ∀ n ∈ ns, IsEntryName n)
    (h : below path ms = below path ns) : ms = ns := by
  obtain ⟨m, ms, rfl⟩ := List.exists_cons_of_ne_nil hms
  obtain ⟨n, ns, rfl⟩ := List.exists_cons_of_ne_nil hns
  rw [below_eq hm, below_eq hn] at h
  have hjoin := (String.append_right_inj _).mp h
  rw [← Text.split_joinWith hms fun x hx => (hm x hx).2,
    ← Text.split_joinWith hns fun x hx => (hn x hx).2]
  exact congrArg (Text.split '/') hjoin

end Path

namespace FileTree

/-! ### Trees of a file system -/

/-- The tree is one that a file system can hold: the names of the entries of a
directory differ from each other, are not empty and have no slash in them. -/
inductive WellFormed : FileTree → Prop
  | file (text : String) : WellFormed (file text)
  | directory {entries : List (String × FileTree)} :
      (entries.map (·.1)).Nodup → (∀ e ∈ entries, Path.IsEntryName e.1) →
      (∀ e ∈ entries, WellFormed e.2) → WellFormed (directory entries)

/-- The trees differ at most in the order in which directories are listed: the entries
of a directory in another order, or one of them listed in another order inside, any
number of times. -/
inductive Reordered : FileTree → FileTree → Prop
  | refl (t : FileTree) : Reordered t t
  | trans {t u v : FileTree} : Reordered t u → Reordered u v → Reordered t v
  | listed {xs ys : List (String × FileTree)} : xs.Perm ys →
      Reordered (directory xs) (directory ys)
  | inside {before after : List (String × FileTree)} {name : String} {t u : FileTree} :
      Reordered t u → Reordered (directory (before ++ (name, t) :: after))
        (directory (before ++ (name, u) :: after))

/-- The text of a file. -/
def text? : FileTree → Option String
  | file text => some text
  | directory _ => none

theorem text?_eq_some {t : FileTree} {text : String} : t.text? = some text ↔ t = file text := by
  cases t <;> simp [text?]

theorem isDirectory_eq (t : FileTree) : t.isDirectory = t.text?.isNone := by
  cases t <;> rfl

theorem find?_cons (t : FileTree) (name : String) (p : Path) :
    t.find? (name :: p) = (t.entry? name).bind (·.find? p) := by
  rw [find?]
  cases t.entry? name <;> rfl

theorem find?_file_concat (text : String) (names : Path) (name : String) :
    (file text).find? (names ++ [name]) = none := by
  cases names <;> rfl

theorem find?_append : ∀ (p q : Path) (t : FileTree),
    t.find? (p ++ q) = (t.find? p).bind (·.find? q)
  | [], _, _ => rfl
  | name :: p, q, t => by
    rw [List.cons_append, find?_cons, find?_cons]
    cases t.entry? name with
    | none => rfl
    | some inner => exact find?_append p q inner

theorem WellFormed.entry? {t u : FileTree} (ht : t.WellFormed) {name : String}
    (h : t.entry? name = some u) : Path.IsEntryName name ∧ u.WellFormed := by
  cases ht with
  | file text => cases h
  | directory _ hnamed hinner =>
    have hm := Assoc.mem_of_get? h
    exact ⟨hnamed _ hm, hinner _ hm⟩

/-- What is at a path of a file system could be a file system itself, and the path is
made of names that entries can have. -/
theorem WellFormed.find? : ∀ {p : Path} {t u : FileTree}, t.WellFormed → t.find? p = some u →
    (∀ name ∈ p, Path.IsEntryName name) ∧ u.WellFormed
  | [], _, _, ht, h => by
    cases h
    exact ⟨by simp, ht⟩
  | name :: p, t, u, ht, h => by
    rw [find?_cons] at h
    obtain ⟨inner, hentry, h⟩ := Option.bind_eq_some_iff.mp h
    obtain ⟨hname, hinner⟩ := ht.entry? hentry
    obtain ⟨hnames, hu⟩ := hinner.find? h
    exact ⟨List.forall_mem_cons.mpr ⟨hname, hnames⟩, hu⟩

/-! ### Trees that are listed in another order -/

theorem get?_perm {α : Type} {name : String} {xs ys : List (String × α)}
    (hn : (xs.map (·.1)).Nodup) (h : xs.Perm ys) : Assoc.get? name ys = Assoc.get? name xs := by
  cases hget : Assoc.get? name xs with
  | none =>
    refine Assoc.get?_of_notMem fun hm => ?_
    have hm := (h.map (·.1)).mem_iff.mpr hm
    have hhas := Assoc.has_iff_mem.mpr hm
    simp [Assoc.has, hget] at hhas
  | some a =>
    have hm := h.mem_iff.mp (Assoc.mem_of_get? hget)
    exact Assoc.get?_of_mem ((h.map _).nodup_iff.mp hn) hm

namespace Reordered

variable {t u : FileTree}

theorem text?_eq (h : t.Reordered u) : u.text? = t.text? := by
  induction h with
  | refl t => rfl
  | trans _ _ ih ih' => exact ih'.trans ih
  | listed _ => rfl
  | inside _ _ => rfl

theorem wellFormed (h : t.Reordered u) (ht : t.WellFormed) : u.WellFormed := by
  induction h with
  | refl t => exact ht
  | trans _ _ ih ih' => exact ih' (ih ht)
  | listed hp =>
    cases ht with
    | directory hn hnamed hinner =>
      exact .directory ((hp.map _).nodup_iff.mp hn) (fun e he => hnamed e (hp.mem_iff.mpr he))
        fun e he => hinner e (hp.mem_iff.mpr he)
  | @inside before after name t u _ ih =>
    cases ht with
    | directory hn hnamed hinner =>
      have hsame : ∀ e ∈ before ++ (name, u) :: after,
          e = (name, u) ∨ e ∈ before ++ (name, t) :: after := by
        intro e he
        simp only [List.mem_append, List.mem_cons] at he ⊢
        tauto
      have hmem : (name, t) ∈ before ++ (name, t) :: after := by simp
      refine .directory (by simpa using hn) (fun e he => ?_) fun e he => ?_
      · rcases hsame e he with rfl | he
        · exact hnamed (name, t) hmem
        · exact hnamed e he
      · rcases hsame e he with rfl | he
        · exact ih (hinner _ hmem)
        · exact hinner e he

/-- **The same is at each path**, listed in another order. -/
theorem find? (h : t.Reordered u) (ht : t.WellFormed) :
    ∀ p : Path, Option.Rel Reordered (t.find? p) (u.find? p) := by
  have hsame : ∀ x : Option FileTree, Option.Rel Reordered x x := by
    intro x
    cases x with
    | none => exact .none
    | some t => exact .some (.refl t)
  induction h with
  | refl t => exact fun p => hsame _
  | trans h _ ih ih' =>
    intro p
    have hfirst := ih ht p
    have hsecond := ih' (h.wellFormed ht) p
    revert hfirst hsecond
    generalize FileTree.find? _ p = x
    generalize FileTree.find? _ p = y
    generalize FileTree.find? _ p = z
    intro hfirst hsecond
    cases hfirst with
    | none => exact hsecond
    | some hfirst =>
      cases hsecond with
      | some hsecond => exact .some (hfirst.trans hsecond)
  | @listed xs ys hp =>
    cases ht with
    | directory hn _ _ =>
      intro p
      cases p with
      | nil => exact .some (.listed hp)
      | cons name p =>
        simp only [FileTree.find?, entry?, get?_perm hn hp]
        exact hsame _
  | @inside before after name t u h ih =>
    have hinner : t.WellFormed := by
      cases ht with
      | directory _ _ hinner => exact hinner (name, t) (by simp)
    intro p
    cases p with
    | nil => exact .some (.inside h)
    | cons n p =>
      simp only [FileTree.find?, entry?, Assoc.get?_append, Assoc.get?]
      cases Assoc.get? n before with
      | some v => exact hsame _
      | none =>
        by_cases hn : name = n
        · simpa [hn] using ih hinner p
        · simpa [hn] using hsame _

/-- A written path leads to the same place. -/
theorem locate?_eq (h : t.Reordered u) (ht : t.WellFormed) (current : Path) (s : String) :
    u.locate? current s = t.locate? current s := by
  have hkind : ∀ p, (u.find? p).map isDirectory = (t.find? p).map isDirectory := by
    intro p
    have hp := h.find? ht p
    revert hp
    generalize t.find? p = x
    generalize u.find? p = y
    intro hp
    cases hp with
    | none => rfl
    | some h => simp only [Option.map_some, isDirectory_eq, h.text?_eq]
  have hsome : ∀ p, (u.find? p).isSome = (t.find? p).isSome := by
    intro p
    simpa using congrArg Option.isSome (hkind p)
  have hwalk : u.walkStep = t.walkStep := by
    funext at? name
    unfold walkStep
    simp only [hkind, hsome]
  unfold locate?
  rw [hwalk]

end Reordered

/-! ### Walks -/

theorem ownSources_eq (path : String) (entries : List (String × FileTree)) :
    ownSources path entries = entries.filterMap fun e => e.2.text?.bind fun text =>
      if isDocumentName e.1 then some ⟨Path.entryText path e.1, text⟩ else none := by
  unfold ownSources
  refine List.filterMap_congr fun e _ => ?_
  cases e.2 <;> rfl

theorem walkEntries_eq (path : String) : ∀ entries : List (String × FileTree),
    walkEntries path entries = entries.flatMap fun e => e.2.walkSources (Path.entryText path e.1)
  | [] => rfl
  | (name, t) :: entries => by
    unfold walkEntries
    rw [walkEntries_eq path entries, List.flatMap_cons]

/-- **A walk finds the same files**, whatever the order of the entries is. -/
theorem Reordered.walkSources_perm {t u : FileTree} (h : t.Reordered u) :
    ∀ path, (t.walkSources path).Perm (u.walkSources path) := by
  induction h with
  | refl t => exact fun path => .refl _
  | trans _ _ ih ih' => exact fun path => (ih path).trans (ih' path)
  | listed hp =>
    intro path
    unfold walkSources
    rw [ownSources_eq, ownSources_eq, walkEntries_eq, walkEntries_eq]
    exact (hp.filterMap _).append (hp.flatMap_right _)
  | @inside before after name t u h ih =>
    intro path
    unfold walkSources
    rw [ownSources_eq, ownSources_eq, walkEntries_eq, walkEntries_eq]
    simp only [List.filterMap_append, List.filterMap_cons, h.text?_eq, List.flatMap_append,
      List.flatMap_cons]
    exact .append_left _ (.append_left _ (.append_right _ (ih _)))

/-- **What a walk finds** are the files below the directory whose names have one of
the endings. -/
theorem mem_walkSources {t : FileTree} (ht : t.WellFormed) : ∀ {path : String} {f : SourceFile},
    f ∈ t.walkSources path ↔ ∃ names name text, t.find? (names ++ [name]) = some (file text) ∧
      isDocumentName name = true ∧ f = ⟨Path.below path (names ++ [name]), text⟩ := by
  induction ht with
  | file text =>
    intro path f
    simp [walkSources, find?_file_concat]
  | @directory entries hn hnamed hinner ih =>
    intro path f
    have hentry : ∀ {name t}, (name, t) ∈ entries ↔ Assoc.get? name entries = some t :=
      ⟨Assoc.get?_of_mem hn, Assoc.mem_of_get?⟩
    unfold walkSources
    rw [List.mem_append, ownSources_eq, walkEntries_eq, List.mem_filterMap, List.mem_flatMap]
    constructor
    · rintro (⟨⟨name, t⟩, he, hf⟩ | ⟨⟨name, t⟩, he, hf⟩)
      · obtain ⟨text, htext, hf⟩ := Option.bind_eq_some_iff.mp hf
        obtain rfl := text?_eq_some.mp htext
        obtain ⟨hdoc, hf⟩ := Option.ite_none_right_eq_some.mp hf
        refine ⟨[], name, text, ?_, hdoc, (Option.some.inj hf).symm⟩
        simp [find?, entry?, hentry.mp he]
      · obtain ⟨names, last, text, hfind, hdoc, rfl⟩ := (ih _ he).mp hf
        refine ⟨name :: names, last, text, ?_, hdoc, rfl⟩
        rw [List.cons_append]
        simpa [find?, entry?, hentry.mp he] using hfind
    · rintro ⟨names, last, text, hfind, hdoc, rfl⟩
      cases names with
      | nil =>
        refine Or.inl ⟨(last, file text), ?_, by simp [text?, hdoc, Path.below]⟩
        rw [hentry]
        cases hget : Assoc.get? last entries with
        | none => simp [find?, entry?, hget] at hfind
        | some t => simpa [find?, entry?, hget] using hfind
      | cons name names =>
        rw [List.cons_append] at hfind
        cases hget : Assoc.get? name entries with
        | none => simp [find?, entry?, hget] at hfind
        | some t =>
          have he := hentry.mpr hget
          refine Or.inr ⟨(name, t), he, (ih _ he).mpr ⟨names, last, text, ?_, hdoc, rfl⟩⟩
          simpa [find?, entry?, hget] using hfind

/-- A walk finds one file at a path. -/
theorem eq_of_path_eq {t : FileTree} (ht : t.WellFormed) {path : String} {f g : SourceFile}
    (hf : f ∈ t.walkSources path) (hg : g ∈ t.walkSources path) (h : f.path = g.path) : f = g := by
  obtain ⟨names, name, text, hfind, -, rfl⟩ := (mem_walkSources ht).mp hf
  obtain ⟨names', name', text', hfind', -, rfl⟩ := (mem_walkSources ht).mp hg
  have hsame := Path.below_inj (by simp) (by simp) (ht.find? hfind).1 (ht.find? hfind').1 h
  rw [hsame] at hfind
  cases hfind.symm.trans hfind'
  rw [hsame]

theorem ownSources_nodup {entries : List (String × FileTree)} (hn : (entries.map (·.1)).Nodup)
    (path : String) : (ownSources path entries).Nodup := by
  rw [ownSources_eq]
  refine hn.of_map.filterMap fun e e' f hf hf' => ?_
  obtain ⟨text, htext, hf⟩ := Option.bind_eq_some_iff.mp hf
  obtain ⟨text', htext', hf'⟩ := Option.bind_eq_some_iff.mp hf'
  obtain ⟨-, hf⟩ := Option.ite_none_right_eq_some.mp hf
  obtain ⟨-, hf'⟩ := Option.ite_none_right_eq_some.mp hf'
  have hsame := (Option.some.inj hf).trans (Option.some.inj hf').symm
  obtain ⟨hpath, rfl⟩ := SourceFile.mk.inj hsame
  rw [Path.entryText_eq, Path.entryText_eq] at hpath
  have hname := (String.append_right_inj _).mp hpath
  have htree := (text?_eq_some.mp htext).trans (text?_eq_some.mp htext').symm
  exact Prod.ext hname htree

/-- A file of a directory is one name below it. -/
theorem path_of_mem_ownSources {entries : List (String × FileTree)} {path : String}
    {f : SourceFile} (h : f ∈ ownSources path entries) :
    ∃ e ∈ entries, f.path = Path.below path [e.1] := by
  rw [ownSources_eq] at h
  obtain ⟨e, he, h⟩ := List.mem_filterMap.mp h
  obtain ⟨text, -, h⟩ := Option.bind_eq_some_iff.mp h
  obtain ⟨-, h⟩ := Option.ite_none_right_eq_some.mp h
  exact ⟨e, he, by rw [← Option.some.inj h]; rfl⟩

/-- The names on the way to a file start with that of the entry it is in. -/
theorem path_of_mem_walkSources {e : String × FileTree} (ht : e.2.WellFormed)
    (hname : Path.IsEntryName e.1) {path : String} {f : SourceFile}
    (h : f ∈ e.2.walkSources (Path.entryText path e.1)) : ∃ names, names ≠ [] ∧
      (∀ n ∈ e.1 :: names, Path.IsEntryName n) ∧ f.path = Path.below path (e.1 :: names) := by
  obtain ⟨names, name, text, hfind, -, rfl⟩ := (mem_walkSources ht).mp h
  exact ⟨names ++ [name], by simp, List.forall_mem_cons.mpr ⟨hname, (ht.find? hfind).1⟩, rfl⟩

/-- **A walk finds a file once.** -/
theorem walkSources_nodup {t : FileTree} (ht : t.WellFormed) :
    ∀ path : String, (t.walkSources path).Nodup := by
  induction ht with
  | file text => exact fun path => List.nodup_nil
  | @directory entries hn hnamed hinner ih =>
    intro path
    unfold walkSources
    rw [walkEntries_eq]
    refine List.nodup_append'.mpr ⟨ownSources_nodup hn path, ?_, ?_⟩
    · have hnames : entries.Pairwise fun e e' => e.1 ≠ e'.1 := List.pairwise_map.mp hn
      refine List.nodup_flatMap.mpr ⟨fun e he => ih e he _, ?_⟩
      refine hnames.imp_of_mem fun {e e'} he he' hne f hf hf' => ?_
      obtain ⟨names, -, hway, hpath⟩ := path_of_mem_walkSources (hinner e he) (hnamed e he) hf
      obtain ⟨names', -, hway', hpath'⟩ :=
        path_of_mem_walkSources (hinner e' he') (hnamed e' he') hf'
      have hsame := Path.below_inj (by simp) (by simp) hway hway' (hpath.symm.trans hpath')
      exact hne (List.cons.inj hsame).1
    · intro f hf hf'
      obtain ⟨e, he, hpath⟩ := path_of_mem_ownSources hf
      obtain ⟨e', he', hf'⟩ := List.mem_flatMap.mp hf'
      obtain ⟨names, hne, hway, hpath'⟩ :=
        path_of_mem_walkSources (hinner e' he') (hnamed e' he') hf'
      have hsame := Path.below_inj (by simp) (by simp) (by simpa using hnamed e he) hway
        (hpath.symm.trans hpath')
      exact hne (List.cons.inj hsame).2.symm

end FileTree
end ChainedSdk
