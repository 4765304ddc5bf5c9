/-
# Nothing is written before all else has succeeded

The parts of a run before its last one look at the files, print and report, and leave
the files as they are, whether or not they succeed; what they come to is decided by
the files (`Command.Answers`). This is so of each of them, and stays so when they are
done one after the other (`Command.Answers.bind`), so it is so of all that comes
before the output is written (`Invocation.answers_prepare`).

So a run that fails leaves all files as they were. It fails where one of its phases
does first (`Invocation.Stops`), or where the output cannot be written; where neither
is so, the output holds the text that was generated, and nothing else has changed
(`output_written_last`).

Key definitions: `Command.Answers`, `Invocation.Stops`, `Invocation.Generates`.
Key theorems: `FileTree.find?_of_write`, `Invocation.answers_prepare`,
`output_written_last`.
-/
import ChainedSdk.Command
import ChainedSdk.Proofs.Arguments
import ChainedSdk.Proofs.Listings
import ChainedSdk.Proofs.ModuleDocstring
import ChainedSdk.Proofs.Phases

namespace ChainedSdk

/-! ### Files after writing -/

namespace FileTree

/-- What is at a path below a directory, or below a place where nothing is. -/
theorem find?_cons_of_entries {there : Option FileTree} {entries : List (String × FileTree)}
    (h : there = some (directory entries) ∨ there = none ∧ entries = []) (name : String)
    (p : Path) : there.bind (·.find? (name :: p)) =
      (Assoc.get? name entries).bind (·.find? p) := by
  rcases h with rfl | ⟨rfl, rfl⟩
  · exact find?_cons (directory entries) name p
  · rfl

/-- A text is written below a directory, or where nothing is. -/
theorem writeAt_cons {text name : String} {p : Path} {there : Option FileTree} {u : FileTree}
    (h : writeAt text (name :: p) there = .ok u) : ∃ entries inner,
      (there = some (directory entries) ∨ there = none ∧ entries = []) ∧
      writeAt text p (Assoc.get? name entries) = .ok inner ∧
      u = directory (Assoc.put name inner entries) := by
  unfold writeAt at h
  cases there with
  | none =>
    cases hinner : writeAt text p none with
    | error e => simp [hinner, Except.map] at h
    | ok inner =>
      rw [hinner] at h
      exact ⟨[], inner, Or.inr ⟨rfl, rfl⟩, hinner, (Except.ok.inj h).symm⟩
  | some t =>
    cases t with
    | file _ => cases h
    | directory entries =>
      cases hinner : writeAt text p (Assoc.get? name entries) with
      | error e => simp [hinner, Except.map] at h
      | ok inner =>
        simp only [hinner] at h
        exact ⟨entries, inner, Or.inl rfl, hinner, (Except.ok.inj h).symm⟩

theorem writeAt_eq_ok {text : String} : ∀ {p : Path} {there : Option FileTree} {u : FileTree},
    writeAt text p there = .ok u → u.find? p = some (file text) ∧
      ∀ q, ¬q <+: p → u.find? q = there.bind (·.find? q)
  | [], there, u, h => by
    obtain ⟨rfl, hthere⟩ : u = file text ∧ ∀ entries, there ≠ some (directory entries) := by
      rcases there with _ | _ | _
      · exact ⟨(Except.ok.inj h).symm, by simp⟩
      · exact ⟨(Except.ok.inj h).symm, by simp⟩
      · cases h
    refine ⟨rfl, fun q hq => ?_⟩
    cases q with
    | nil => exact absurd List.nil_prefix hq
    | cons n q =>
      rcases there with _ | _ | entries
      · rfl
      · rfl
      · exact absurd rfl (hthere entries)
  | name :: p, there, u, h => by
    obtain ⟨entries, inner, hthere, hinner, rfl⟩ := writeAt_cons h
    obtain ⟨hown, hother⟩ := writeAt_eq_ok hinner
    have hfind : ∀ n q, (directory (Assoc.put name inner entries)).find? (n :: q) =
        (if name = n then some inner else Assoc.get? n entries).bind (·.find? q) := by
      intro n q
      rw [← Assoc.get?_put]
      exact find?_cons_of_entries (Or.inl rfl) n q
    refine ⟨by rw [hfind, if_pos rfl]; exact hown, fun q hq => ?_⟩
    cases q with
    | nil => exact absurd List.nil_prefix hq
    | cons n q =>
      rw [hfind, find?_cons_of_entries hthere]
      by_cases hn : name = n
      · subst hn
        rw [if_pos rfl]
        exact hother q fun hpre => hq (List.cons_prefix_cons.mpr ⟨rfl, hpre⟩)
      · rw [if_neg hn]

/-- **Writing a file.** It holds the text, and nothing is changed but it and the
directories that it is in. -/
theorem find?_of_write {t u : FileTree} {p : Path} {text : String}
    (h : t.write p text = .ok u) :
    u.find? p = some (file text) ∧ ∀ q, ¬q <+: p → u.find? q = t.find? q :=
  writeAt_eq_ok h

end FileTree

/-! ### Parts of a run -/

namespace Command

variable {α β ε : Type}

/-- What a part of a run comes to, and how far the run is then. -/
def on (x : Command α) (p : Progress) : Except CommandError α × Progress :=
  x.run.run p

/-- On the files `t` the part comes to `r`, and the files are `u` then. -/
def Ends (x : Command α) (t : FileTree) (r : Except CommandError α) (u : FileTree) : Prop :=
  ∀ p, p.files = t → (x.on p).1 = r ∧ (x.on p).2.files = u

/-- On the files `t` the part comes to `r`, and leaves them as they are. -/
def Answers (x : Command α) (t : FileTree) (r : Except CommandError α) : Prop :=
  x.Ends t r t

/-- A part is followed by another one if it does not fail. -/
theorem on_bind (x : Command α) (f : α → Command β) (p : Progress) :
    (x >>= f).on p = match x.on p with
      | (.ok a, q) => (f a).on q
      | (.error e, q) => (.error e, q) := by
  show ((x >>= f).run.run p : Except CommandError β × Progress) = _
  rw [ExceptT.run_bind, StateT.run_bind]
  unfold on
  obtain ⟨_ | _, _⟩ := (x.run.run p : Except CommandError α × Progress) <;> rfl

theorem Ends.bind_ok {x : Command α} {f : α → Command β} {t u v : FileTree} {a : α}
    {s : Except CommandError β} (hx : x.Ends t (.ok a) u) (hf : (f a).Ends u s v) :
    (x >>= f).Ends t s v := by
  intro p ht
  have hfirst : x.on p = (.ok a, (x.on p).2) := Prod.ext (hx p ht).1 rfl
  rw [on_bind, hfirst]
  exact hf _ (hx p ht).2

theorem Ends.bind_error {x : Command α} {t u : FileTree} {e : CommandError}
    (hx : x.Ends t (.error e) u) (f : α → Command β) : (x >>= f).Ends t (.error e) u := by
  intro p ht
  have hfirst : x.on p = (.error e, (x.on p).2) := Prod.ext (hx p ht).1 rfl
  rw [on_bind, hfirst]
  exact ⟨rfl, (hx p ht).2⟩

section Answers

variable {t : FileTree}

theorem answers_check_ok {x : Except ε α} {a : α} (h : x = .ok a) (reason : ε → CommandError) :
    (check reason x).Answers t (.ok a) := by
  rw [h]
  exact fun _ ht => ⟨rfl, ht⟩

theorem answers_check_error {x : Except ε α} {e : ε} (h : x = .error e)
    (reason : ε → CommandError) : (check reason x).Answers t (.error (reason e)) := by
  rw [h]
  exact fun _ ht => ⟨rfl, ht⟩

theorem answers_check (reason : ε → CommandError) (x : Except ε α) :
    (check reason x).Answers t (x.mapError reason) := by
  cases x with
  | error e => exact answers_check_error rfl reason
  | ok a => exact answers_check_ok rfl reason

/-- **One part after the other.** -/
theorem Answers.bind {x : Command α} {f : α → Command β} {r : Except CommandError α}
    {s : α → Except CommandError β} (hx : x.Answers t r) (hf : ∀ a, (f a).Answers t (s a)) :
    (x >>= f).Answers t (r >>= s) := by
  cases r with
  | error e => exact Ends.bind_error hx f
  | ok a => exact Ends.bind_ok hx (hf a)

theorem answers_print (lines : List String) {f : Unit → Command β} {r : Except CommandError β}
    (h : (f ()).Answers t r) : (print lines >>= f).Answers t r := by
  have hprint : (print lines).Answers t (.ok ()) := fun _ ht => ⟨rfl, ht⟩
  exact hprint.bind fun _ => h

theorem answers_report (records : List LogRecord) {f : Unit → Command β}
    {r : Except CommandError β} (h : (f ()).Answers t r) :
    (report records >>= f).Answers t r := by
  have hreport : (report records).Answers t (.ok ()) := fun _ ht => ⟨rfl, ht⟩
  exact hreport.bind fun _ => h

/-- A part that looks at the files first. -/
theorem Ends.files {f : FileTree → Command β} {r : Except CommandError β} {u : FileTree}
    (h : (f t).Ends t r u) : (Command.files >>= f).Ends t r u := by
  have hfiles : Command.files.Answers t (.ok t) := by
    rintro p rfl
    exact ⟨rfl, rfl⟩
  exact Ends.bind_ok hfiles h

/-- A text is written where that is possible. -/
theorem ends_write {path : Path} {text : String} {u : FileTree} (h : t.write path text = .ok u) :
    (write path text).Ends t (.ok ()) u :=
  Ends.files (Ends.bind_ok (answers_check_ok h .write) fun _ _ => ⟨rfl, rfl⟩)

/-- Where it is not, nothing is changed. -/
theorem answers_write {path : Path} {text : String} {e : WriteError}
    (h : t.write path text = .error e) : (write path text).Answers t (.error (.write e)) :=
  Ends.files (Ends.bind_error (answers_check_error h .write) _)

theorem start_of_ends {x : Command Unit} {r : Except CommandError Unit} {u : FileTree}
    (h : x.Ends t r u) : (x.start t).outcome = r ∧ (x.start t).files = u :=
  h { files := t } rfl

end Answers

end Command

/-! ### Invocations -/

namespace Invocation

/-- What loading the documents comes to. -/
def loading (i : Invocation) (t : FileTree) (current : Path) : Loading :=
  loadDocuments (t.sources current (Path.resolve current i.documents).text)

/-- The configuration is read, and this is it. -/
def Configures (i : Invocation) (t : FileTree) (current : Path) (c : Config) : Prop :=
  ∃ text?, i.configText? t current = .ok text? ∧ i.config text? = .ok c

/-- A phase before the output is written fails, and those before it do not. -/
inductive Stops (i : Invocation) (t : FileTree) (current : Path) : CommandError → Prop
  | finding {e : UsageError} : i.configText? t current = .error e → Stops i t current (.usage e)
  | configuring {text? : Option String} {es : List ConfigError} :
      i.configText? t current = .ok text? → i.config text? = .error es →
      Stops i t current (.config es)
  | loading {c : Config} {e : GraphQL.SyntaxError} : i.Configures t current c →
      (i.loading t current).outcome = .error e → Stops i t current (.document e)
  | generating {c : Config} {d : GraphQL.Document} {e : GenerationError} :
      i.Configures t current c → (i.loading t current).outcome = .ok d →
      (i.generator current d c).Fails e → Stops i t current (.generation e)

/-- All phases before the output is written succeed: this is the text that was
generated, and the generator afterwards. -/
def Generates (i : Invocation) (t : FileTree) (current : Path) (text : String) (g : Generator) :
    Prop :=
  ∃ c d, i.Configures t current c ∧ (i.loading t current).outcome = .ok d ∧
    (i.generator current d c).generate = (.ok text, g)

/-- What generating comes to. -/
def generated (i : Invocation) (current : Path) (d : GraphQL.Document) (c : Config) :
    Except CommandError (String × Generator) :=
  ((i.generator current d c).generate.1.mapError .generation).map
    (·, (i.generator current d c).generate.2)

/-- What all that comes before the output is written comes to. -/
def prepared (i : Invocation) (t : FileTree) (current : Path) :
    Except CommandError (String × Generator) := do
  let text? ← (i.configText? t current).mapError .usage
  let c ← (i.config text?).mapError .config
  let document ← (i.loading t current).outcome.mapError .document
  i.generated current document c

theorem answers_load (i : Invocation) (t : FileTree) (current : Path) :
    (i.load current).Answers t ((i.loading t current).outcome.mapError .document) :=
  Command.Ends.files (Command.answers_report _ (Command.answers_check _ _))

theorem answers_generate (i : Invocation) (t : FileTree) (current : Path) (d : GraphQL.Document)
    (c : Config) : (i.generate current d c).Answers t (i.generated current d c) := by
  unfold generate generated
  obtain ⟨outcome, g⟩ := (i.generator current d c).generate
  refine Command.answers_report g.log ?_
  cases outcome with
  | error e => exact fun _ ht => ⟨rfl, ht⟩
  | ok text => exact fun _ ht => ⟨rfl, ht⟩

/-- **All that comes before the output is written** leaves the files as they are. -/
theorem answers_prepare (i : Invocation) (t : FileTree) (current : Path) :
    (i.prepare current).Answers t (i.prepared t current) := by
  refine Command.Ends.files ((Command.answers_check _ _).bind fun text? => ?_)
  refine (Command.answers_check _ _).bind fun c => Command.answers_print _ ?_
  exact (i.answers_load t current).bind fun d =>
    Command.answers_print _ (i.answers_generate t current d c)

/-! ### Runs -/

variable {i : Invocation} {t u : FileTree} {current : Path} {e : CommandError} {text : String}
  {g : Generator}

theorem prepared_of_stops (h : i.Stops t current e) : i.prepared t current = .error e := by
  unfold prepared
  cases h with
  | finding h => simp only [h, Except.mapError, bind, Except.bind]
  | configuring h hc => simp only [h, hc, Except.mapError, bind, Except.bind]
  | loading hc hd =>
    obtain ⟨text?, h, hc⟩ := hc
    simp only [h, hc, hd, Except.mapError, bind, Except.bind]
  | generating hc hd hg =>
    obtain ⟨text?, h, hc⟩ := hc
    simp only [h, hc, hd, Except.mapError, bind, Except.bind, generated,
      Generator.generate_eq_error.mpr hg, Except.map]

theorem prepared_of_generates (h : i.Generates t current text g) :
    i.prepared t current = .ok (text, g) := by
  obtain ⟨c, d, ⟨text?, h, hc⟩, hd, hg⟩ := h
  unfold prepared
  simp only [h, hc, hd, Except.mapError, bind, Except.bind, generated, hg, Except.map]

theorem exists_generates {c : Config} {d : GraphQL.Document} (hc : i.Configures t current c)
    (hd : (i.loading t current).outcome = .ok d)
    (htext : (i.generator current d c).generate.1 = .ok text) :
    ∃ g, i.Generates t current text g :=
  ⟨(i.generator current d c).generate.2, c, d, hc, hd, Prod.ext htext rfl⟩

/-- The phases before the output is written all succeed, or one fails first. -/
theorem stops_or_generates (i : Invocation) (t : FileTree) (current : Path) :
    (∃ e, i.Stops t current e) ∨ ∃ text g, i.Generates t current text g := by
  cases h : i.configText? t current with
  | error e => exact Or.inl ⟨_, .finding h⟩
  | ok text? =>
    cases hc : i.config text? with
    | error es => exact Or.inl ⟨_, .configuring h hc⟩
    | ok c =>
      have hconfig : i.Configures t current c := ⟨text?, h, hc⟩
      cases hd : (i.loading t current).outcome with
      | error e => exact Or.inl ⟨_, .loading hconfig hd⟩
      | ok d =>
        cases hg : (i.generator current d c).generate.1 with
        | error e =>
          exact Or.inl ⟨_, .generating hconfig hd (Generator.generate_eq_error.mp hg)⟩
        | ok text => exact Or.inr ⟨text, exists_generates hconfig hd hg⟩

theorem Generates.exists_body (h : i.Generates t current text g) : ∃ body,
    Code.isModule body = true ∧ text = Header.putAll (present i.header?).toList body := by
  obtain ⟨c, d, -, -, hg⟩ := h
  obtain ⟨body, ⟨-, -, -, -, -, hmodule⟩, htext⟩ :=
    Generator.generate_eq_ok.mp (congrArg Prod.fst hg)
  exact ⟨body, hmodule, htext⟩

theorem answers_run_of_stops (h : i.Stops t current e) : (i.run current).Answers t (.error e) := by
  have hprepare := i.answers_prepare t current
  rw [prepared_of_stops h] at hprepare
  exact Command.Ends.bind_error hprepare _

theorem answers_run_of_write {w : WriteError} (h : i.Generates t current text g)
    (hw : t.write (i.outputPath current) text = .error w) :
    (i.run current).Answers t (.error (.write w)) := by
  have hprepare := i.answers_prepare t current
  rw [prepared_of_generates h] at hprepare
  exact Command.Ends.bind_ok hprepare (Command.Ends.bind_error (Command.answers_write hw) _)

theorem ends_run (h : i.Generates t current text g)
    (hw : t.write (i.outputPath current) text = .ok u) : (i.run current).Ends t (.ok ()) u := by
  have hprepare := i.answers_prepare t current
  rw [prepared_of_generates h] at hprepare
  have hprint : (Command.print (i.closingLines current g)).Ends u (.ok ()) u :=
    fun _ hu => ⟨rfl, hu⟩
  exact Command.Ends.bind_ok hprepare (Command.Ends.bind_ok (Command.ends_write hw) hprint)

end Invocation

section Runs

variable {t u : FileTree} {current : Path} {args : List String}

theorem runCommand_of_usage {e : UsageError} (h : Request.parse args = .error e) :
    (runCommand t current args).outcome = .error (.usage e) ∧
      (runCommand t current args).files = t :=
  Command.start_of_ends (Command.Ends.bind_error (Command.answers_check_error h .usage) _)

theorem runCommand_of_ends {request : Request} (h : Request.parse args = .ok request)
    {r : Except CommandError Unit} (hrun : (request.run current).Ends t r u) :
    (runCommand t current args).outcome = r ∧ (runCommand t current args).files = u :=
  Command.start_of_ends (Command.Ends.bind_ok (Command.answers_check_ok h .usage) hrun)

/-- How a run ends that is to generate a module. -/
theorem runCommand_cases {i : Invocation} (h : Request.parse args = .ok (.generate i))
    (t : FileTree) (current : Path) :
    let r := runCommand t current args
    (∃ e, i.Stops t current e ∧ r.outcome = .error e ∧ r.files = t) ∨
    ∃ text g, i.Generates t current text g ∧
      ((∃ w, t.write (i.outputPath current) text = .error w ∧ r.outcome = .error (.write w) ∧
        r.files = t) ∨
      ∃ u, t.write (i.outputPath current) text = .ok u ∧ r.outcome = .ok () ∧ r.files = u) := by
  intro r
  rcases i.stops_or_generates t current with ⟨e, hstops⟩ | ⟨text, g, hgenerates⟩
  · exact Or.inl ⟨e, hstops, runCommand_of_ends h (Invocation.answers_run_of_stops hstops)⟩
  · refine Or.inr ⟨text, g, hgenerates, ?_⟩
    cases hw : t.write (i.outputPath current) text with
    | error w =>
      exact Or.inl ⟨w, rfl, runCommand_of_ends h (Invocation.answers_run_of_write hgenerates hw)⟩
    | ok u => exact Or.inr ⟨u, rfl, runCommand_of_ends h (Invocation.ends_run hgenerates hw)⟩

/-- A run that fails leaves the files as they were. -/
theorem files_of_failed {e : CommandError} (h : (runCommand t current args).outcome = .error e) :
    (runCommand t current args).files = t := by
  cases hrequest : Request.parse args with
  | error fault => exact (runCommand_of_usage hrequest).2
  | ok request =>
    have hprint : ∀ lines, (Command.print lines).Ends t (.ok ()) t := fun _ _ ht => ⟨rfl, ht⟩
    cases request with
    | help => exact (runCommand_of_ends hrequest (hprint usageLines)).2
    | version => exact (runCommand_of_ends hrequest (hprint [versionLine])).2
    | generate i =>
      obtain ⟨-, -, -, hfiles⟩ | ⟨-, -, -, ⟨-, -, -, hfiles⟩ | ⟨u, -, hok, -⟩⟩ :=
        runCommand_cases hrequest t current
      · exact hfiles
      · exact hfiles
      · cases hok.symm.trans h

/-- **The output is written last.** Whatever the files are and whatever the arguments
ask for, a run that fails leaves all files as they were. A run that is to generate a
module fails as the first phase does that does not succeed: the arguments, the
configuration, the documents, the module, and last of all the output, if it cannot be
written. If it succeeds, the output holds the text that was generated, which is that
of a module below the header, and nothing else has changed but the directories that it
is in. -/
theorem output_written_last (t : FileTree) (current : Path) (args : List String) :
    let r := runCommand t current args
    (∀ e, r.outcome = .error e → r.files = t) ∧
    (∀ e, Request.parse args = .error e → r.outcome = .error (.usage e)) ∧
    ∀ i, Request.parse args = .ok (.generate i) →
      (∀ e, r.outcome = .error e ↔ i.Stops t current e ∨ ∃ text g w,
        i.Generates t current text g ∧ t.write (i.outputPath current) text = .error w ∧
        e = .write w) ∧
      (r.outcome = .ok () → ∃ text g body, i.Generates t current text g ∧
        text = Header.putAll (present i.header?).toList body ∧ Code.isModule body = true ∧
        r.files.find? (i.outputPath current) = some (.file text) ∧
        ∀ q, ¬q <+: i.outputPath current → r.files.find? q = t.find? q) := by
  intro r
  refine ⟨fun e he => files_of_failed he, fun e he => (runCommand_of_usage he).1, fun i hi => ?_⟩
  refine ⟨fun e => ⟨fun he => ?_, ?_⟩, fun hok => ?_⟩
  · obtain ⟨fault, hstops, hfault, -⟩ | ⟨text, g, hgenerates, ⟨w, hw, hfault, -⟩ | ⟨u, -, hok, -⟩⟩ :=
      runCommand_cases hi t current
    · obtain rfl := Except.error.inj (hfault.symm.trans he)
      exact Or.inl hstops
    · exact Or.inr ⟨text, g, w, hgenerates, hw, (Except.error.inj (hfault.symm.trans he)).symm⟩
    · cases hok.symm.trans he
  · rintro (hstops | ⟨text, g, w, hgenerates, hw, rfl⟩)
    · exact (runCommand_of_ends hi (Invocation.answers_run_of_stops hstops)).1
    · exact (runCommand_of_ends hi (Invocation.answers_run_of_write hgenerates hw)).1
  · obtain ⟨fault, -, hfault, -⟩ | ⟨text, g, hgenerates, ⟨w, -, hfault, -⟩ | ⟨u, hw, -, hfiles⟩⟩ :=
      runCommand_cases hi t current
    · cases hfault.symm.trans hok
    · cases hfault.symm.trans hok
    · obtain ⟨hwritten, hothers⟩ := FileTree.find?_of_write hw
      obtain ⟨body, hmodule, htext⟩ := hgenerates.exists_body
      have hfiles : r.files = u := hfiles
      rw [hfiles]
      exact ⟨text, g, body, hgenerates, htext, hmodule, hwritten, hothers⟩

end Runs

/-- A file of notes, and an empty directory. -/
def FileTree.sampleNotes : FileTree :=
  directory [("notes.txt", file "x"), ("out", directory [])]

namespace Invocation

/-- Notes are no documents, so this asks for a module without operations. -/
def sampleEmpty : Invocation where
  documents := "notes.txt"
  output := "out/linear/sdk.py"

/-- The arguments for it. -/
def sampleArgs : List String :=
  ["generate", "-d", "notes.txt", "-o", "out/linear/sdk.py"]

theorem sampleEmpty_outputPath : sampleEmpty.outputPath [] = ["out", "linear", "sdk.py"] := by
  decide +kernel

theorem sampleEmpty_loading : (sampleEmpty.loading .sampleNotes []).outcome = .ok ⟨[]⟩ := by
  have hsources : FileTree.sampleNotes.sources []
      (Path.resolve [] sampleEmpty.documents).text = [] := by decide +kernel
  unfold loading
  rw [hsources]
  rfl

theorem sampleEmpty_generates : ∃ text g, sampleEmpty.Generates .sampleNotes [] text g := by
  have hgenerator : sampleEmpty.generator [] ⟨[]⟩ {} = Generator.create ⟨[]⟩ {} := by
    unfold generator
    rw [sampleEmpty_outputPath]
    rfl
  have hkeeps : (Generator.create ⟨[]⟩ {}).Keeps [] := ⟨[], rfl, rfl⟩
  obtain ⟨rest, htext⟩ := Generator.generateFor_of_checked ⟨[]⟩ {} [] [] rfl (by decide +kernel)
  rw [← Generator.generate_of_keeps hkeeps, ← hgenerator] at htext
  have hconfig : sampleEmpty.Configures .sampleNotes [] {} :=
    ⟨none, eq_ok_of_toOption (by decide +kernel), rfl⟩
  exact ⟨_, exists_generates hconfig sampleEmpty_loading htext⟩

end Invocation

open Invocation in
/-- A name that cannot be imported stops the run, and the directory of the output is
not made; without that option it is, and the output is a module. -/
theorem sample_output :
    (∃ e, (runCommand .sampleNotes [] (sampleArgs ++ ["--types-namespace", "not a name"])).outcome =
        .error e ∧
      (runCommand .sampleNotes [] (sampleArgs ++ ["--types-namespace", "not a name"])).files =
        .sampleNotes) ∧
    Request.parse sampleArgs = .ok (.generate sampleEmpty) ∧
    (runCommand .sampleNotes [] sampleArgs).outcome = .ok () ∧
    ∃ text, (runCommand .sampleNotes [] sampleArgs).files.find? ["out", "linear", "sdk.py"] =
        some (.file text) ∧ Code.isModule text = true := by
  have hparse : Request.parse sampleArgs = .ok (.generate sampleEmpty) :=
    eq_ok_of_toOption (by decide +kernel)
  refine ⟨?_, hparse, ?_⟩
  · have hcode : (runCommand .sampleNotes []
        (sampleArgs ++ ["--types-namespace", "not a name"])).exitCode = 1 := by decide +kernel
    obtain ⟨hfailed, -⟩ :=
      output_written_last .sampleNotes [] (sampleArgs ++ ["--types-namespace", "not a name"])
    cases houtcome : (runCommand .sampleNotes []
        (sampleArgs ++ ["--types-namespace", "not a name"])).outcome with
    | error e => exact ⟨e, rfl, hfailed e houtcome⟩
    | ok _ =>
      unfold CommandRun.exitCode at hcode
      rw [houtcome] at hcode
      cases hcode
  · obtain ⟨text, g, hgenerates⟩ := sampleEmpty_generates
    obtain ⟨u, hu⟩ : ∃ u, FileTree.sampleNotes.write (sampleEmpty.outputPath []) text = .ok u := by
      rw [sampleEmpty_outputPath]
      exact ⟨_, rfl⟩
    have hok := (runCommand_of_ends hparse (ends_run hgenerates hu)).1
    obtain ⟨-, -, hruns⟩ := output_written_last .sampleNotes [] sampleArgs
    obtain ⟨text, -, body, -, rfl, hmodule, hfound, -⟩ := (hruns sampleEmpty hparse).2 hok
    rw [sampleEmpty_outputPath] at hfound
    exact ⟨hok, _, hfound, hmodule⟩

end ChainedSdk
