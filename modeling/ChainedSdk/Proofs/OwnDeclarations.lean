/-
# Whose declarations a method uses

The method of an operation sends a constant, and may take a record. Both are
declared in the module under names that are made from the name of the operation with
a capital letter, for the operations of all scopes: of several constants of one name
the last one counts, and of several records the first one. Nothing looks whether
another operation has the name, since methods are compared inside one scope only.

So every method uses what is declared for its own operation exactly if operations
whose names agree up to the case of the first letter have the same text, and the same
fields in their records (`own_declarations_iff`). Texts tell the names of operations
(`name_eq_of_documentText?_eq`); so in a document in which every operation has its
own name, as GraphQL asks for, this is so exactly if no two names differ in the case
of the first letter only. Of `team` and `Team` with different variables, the first
method sends the text of the second operation, and the second one takes the record of
the first (`shared_declarations`).

Key definitions: `SdkOperation.TakesRecord`, `Serves`, `Generator.Builds`,
`SdkOperation.Alike`.
Key theorems: `Assoc.get?_own_iff`, `constants_own_iff`, `records_own_iff`,
`builds_of_generate`, `own_declarations_iff`.
-/
import ChainedSdk.Proofs.DocumentTexts
import ChainedSdk.Proofs.Phases
import ChainedSdk.Proofs.Placement

namespace ChainedSdk

open Code (Statement FunctionDef)

/-- The names of constants and records are made as they are by default, and the
constants are declared in the module. -/
structure Config.DefaultDeclarationNames (c : Config) : Prop where
  document : c.documentTemplate = ({} : Config).documentTemplate
  variablesType : c.variablesTypeTemplate = ({} : Config).variablesTypeTemplate
  omitType : c.omitTypeTemplate = ({} : Config).omitTypeTemplate
  documentsModule : c.documentsModule? = none

namespace SdkOperation

/-- The operation has a variable with the name of the id, and others, which its method
takes in a record. -/
def TakesRecord (c : Config) (o : SdkOperation) : Prop :=
  o.definition.declares c.idName = true ∧ o.definition.declaresOther c.idName = true

instance (c : Config) (o : SdkOperation) : Decidable (o.TakesRecord c) := by
  unfold TakesRecord
  infer_instance

/-- The fields of the record of an operation: one for each variable but the id, in
order, with the type of the variable, and required if the variable is. -/
def recordFields (c : Config) (o : SdkOperation) : List Code.Field :=
  (o.definition.otherVariables c.idName).map c.conventions.variableField

/-- The operations may share what is declared for one of them: they have the same
text, and the same fields if both take a record under one name. -/
structure Alike (c : Config) (table : GraphQL.FragmentTable) (o p : SdkOperation) : Prop where
  text : o.documentText? table = p.documentText? table
  fields : o.definition.kind = p.definition.kind → o.TakesRecord c → p.TakesRecord c →
    o.recordFields c = p.recordFields c

end SdkOperation

/-- A method uses what is declared for its operation: the constant that it sends has
the text of the operation, and the record that it takes has a field for each variable
but the id. -/
structure Serves (c : Config) (d : GraphQL.Document) (documents : List Statement)
    (declared : Declared) (o : SdkOperation) (f : FunctionDef) : Prop where
  constant : ∃ name text, f.document? = some name ∧
    Code.constantNamed? documents name = some text ∧
    o.documentText? d.fragmentTable = some text
  record : o.TakesRecord c → ∃ p ∈ f.params, ∃ name decl, p.name = c.variablesName ∧
    p.recordNames = [name] ∧ Assoc.get? name declared.records = some decl ∧
    decl.fields = o.recordFields c

/-- What a generator makes a module of: its operations, their APIs, and their
constants. -/
structure Generator.Builds (g : Generator) (os : List SdkOperation) (apis : List ScopedApi)
    (documents : List Statement) : Prop where
  described : g.described = .ok os
  built : (g.build os).1 = .ok apis
  documents : operationDocuments g.document os = .ok documents

/-! ### Dictionaries in which each finds its own -/

namespace Assoc

variable {ι κ α : Type} [DecidableEq κ]

/-- **Each finds its own value** under its key exactly if those with one key have one
value, whichever entry counts. -/
theorem get?_own_iff {xs : List ι} {key : ι → κ} {val : ι → α} {d : List (κ × α)}
    (hmem : ∀ e ∈ d, ∃ x ∈ xs, key x = e.1 ∧ val x = e.2)
    (hkeys : ∀ x ∈ xs, key x ∈ d.map (·.1)) :
    (∀ x ∈ xs, get? (key x) d = some (val x)) ↔
      ∀ x ∈ xs, ∀ y ∈ xs, key x = key y → val x = val y := by
  constructor
  · intro hall x hx y hy hxy
    have hsame := hall x hx
    rw [hxy, hall y hy] at hsame
    exact (Option.some.inj hsame).symm
  · intro hall x hx
    obtain ⟨a, ha⟩ := Option.isSome_iff_exists.mp (has_iff_mem.mpr (hkeys x hx))
    obtain ⟨y, hy, hkey, hval⟩ := hmem _ (mem_of_get? ha)
    rw [ha, hall x hx y hy hkey.symm]
    exact congrArg some hval.symm

end Assoc

section Declarations

variable {c : Config} {d : GraphQL.Document} {os : List SdkOperation}

/-! ### Constants -/

theorem documentName_of_default (hc : c.DefaultDeclarationNames) {o : SdkOperation}
    (ho : Described c o) : o.documentName = Text.upperFirst o.name ++ "Document" :=
  document_of_default hc.document ho.operationNames_eq

/-- The constants of operations hold their own texts exactly if operations whose names
agree up to the case of the first letter have one text. -/
theorem constants_own_iff (hc : c.DefaultDeclarationNames) (hos : ∀ o ∈ os, Described c o)
    {documents : List Statement} (h : operationDocuments d os = .ok documents) :
    (∀ o ∈ os, ∃ text, Code.constantNamed? documents o.documentName = some text ∧
        o.documentText? d.fragmentTable = some text) ↔
      ∀ o ∈ os, ∀ p ∈ os, Text.upperFirst o.name = Text.upperFirst p.name →
        o.documentText? d.fragmentTable = p.documentText? d.fragmentTable := by
  obtain ⟨htexts, hconstants⟩ := constants_of_operationDocuments h
  have hval : ∀ o ∈ os, o.documentText? d.fragmentTable =
      some ((o.documentText? d.fragmentTable).getD "") := by
    intro o ho
    obtain ⟨text, htext⟩ := htexts o ho
    rw [htext]
    rfl
  have hown : (∀ o ∈ os, Code.constantNamed? documents o.documentName =
        some ((o.documentText? d.fragmentTable).getD "")) ↔
      ∀ o ∈ os, ∀ p ∈ os, o.documentName = p.documentName →
        (o.documentText? d.fragmentTable).getD "" = (p.documentText? d.fragmentTable).getD "" := by
    unfold Code.constantNamed?
    rw [hconstants]
    refine Assoc.get?_own_iff (fun e he => ?_) fun o ho => ?_
    · obtain ⟨o, ho, rfl⟩ := List.mem_map.mp (List.mem_reverse.mp he)
      exact ⟨o, ho, rfl, rfl⟩
    · exact List.mem_map.mpr ⟨_, List.mem_reverse.mpr (List.mem_map.mpr ⟨o, ho, rfl⟩), rfl⟩
  have hleft : (∀ o ∈ os, ∃ text, Code.constantNamed? documents o.documentName = some text ∧
        o.documentText? d.fragmentTable = some text) ↔
      ∀ o ∈ os, Code.constantNamed? documents o.documentName =
        some ((o.documentText? d.fragmentTable).getD "") := by
    refine forall₂_congr fun o ho => ?_
    constructor
    · rintro ⟨text, hconstant, htext⟩
      rw [hconstant, htext]
      rfl
    · exact fun hconstant => ⟨_, hconstant, hval o ho⟩
  rw [hleft, hown]
  refine forall₂_congr fun o ho => forall₂_congr fun p hp => ?_
  rw [documentName_of_default hc (hos o ho), documentName_of_default hc (hos p hp),
    String.append_left_inj]
  refine imp_congr_right fun _ => ?_
  rw [hval o ho, hval p hp, Option.some.injEq]
  rfl

/-! ### Records -/

/-- The name of the record of an operation. -/
def SdkOperation.recordName (c : Config) (o : SdkOperation) : String :=
  Text.upperFirst o.name ++ Text.upperFirst o.definition.kind.word ++ "Variables" ++ "Without" ++
    Text.upperFirst c.idName

theorem omitTypeName_of_described (hc : c.DefaultDeclarationNames) {o : SdkOperation}
    (ho : Described c o) : c.omitTypeName o.variablesType c.idName = .ok (o.recordName c) := by
  have htype : o.variablesType = _ := variablesType_of_default hc.variablesType ho.operationNames_eq
  rw [omitTypeName_of_default hc.omitType, htype]
  rfl

theorem recordName_eq_iff {o p : SdkOperation} : o.recordName c = p.recordName c ↔
    Text.upperFirst o.name = Text.upperFirst p.name ∧ o.definition.kind = p.definition.kind := by
  unfold SdkOperation.recordName
  rw [String.append_left_inj, String.append_left_inj, String.append_left_inj]
  constructor
  · exact append_kind_inj
  · rintro ⟨hname, hkind⟩
    rw [hname, hkind]

section Built

variable {apis : List ScopedApi}

/-- Every operation has a method in one of the APIs. -/
theorem exists_method_of_mem {s : Conventions} (hos : ∀ o ∈ os, Described c o)
    (h : (buildApis s os).outcome = .ok apis) {o : SdkOperation} (ho : o ∈ os) :
    ∃ a ∈ apis, ∃ f, (o, f) ∈ a.methods :=
  exists_method_of_scope h ho (childKey?_mem_scopes hos o ho)

/-- The records of operations have their own fields exactly if operations whose names
agree up to the case of the first letter, and whose kinds agree, have the same
fields. -/
theorem records_own_iff (hc : c.DefaultDeclarationNames) (hargs : c.ArgumentsDiffer)
    (hos : ∀ o ∈ os, Described c o)
    (h : ((buildApis c.conventions os).settle { scalars := c.conventions.scalars }).outcome =
      .ok apis) :
    (∀ o ∈ os, o.TakesRecord c → ∃ decl,
        Assoc.get? (o.recordName c) (ownDeclared c.conventions os).records = some decl ∧
        decl.fields = o.recordFields c) ↔
      ∀ o ∈ os, ∀ p ∈ os, Text.upperFirst o.name = Text.upperFirst p.name →
        o.definition.kind = p.definition.kind → o.TakesRecord c → p.TakesRecord c →
        o.recordFields c = p.recordFields c := by
  obtain ⟨hbuilt, -⟩ := Emit.settle_outcome_eq_ok.mp h
  have hmem : ∀ e ∈ (ownDeclared c.conventions os).records.map fun r => (r.1, r.2.fields),
      ∃ o ∈ os.filter fun o => o.TakesRecord c, o.recordName c = e.1 ∧ o.recordFields c = e.2 := by
    intro e he
    obtain ⟨r, hr, rfl⟩ := List.mem_map.mp he
    obtain ⟨a, ha, o, f, hf, hrecord, hdecl⟩ := method_of_mem_records hargs h hr
    have ho := mem_of_mem_methods hbuilt ha hf
    obtain ⟨hid, hother, hname⟩ := Conventions.omitTypeName_of_mem_recordNames hargs.method
      (method_of_mem (buildApi_of_mem hbuilt ha) hf) hrecord
    refine ⟨o, List.mem_filter.mpr ⟨ho, decide_eq_true ⟨hid, hother⟩⟩, ?_, ?_⟩
    · exact Except.ok.inj ((omitTypeName_of_described hc (hos o ho)).symm.trans hname)
    · rw [hdecl]
      rfl
  have hkeys : ∀ o ∈ os.filter fun o => o.TakesRecord c,
      o.recordName c ∈ ((ownDeclared c.conventions os).records.map fun r =>
        (r.1, r.2.fields)).map (·.1) := by
    intro o ho
    obtain ⟨ho, htakes⟩ := List.mem_filter.mp ho
    obtain ⟨hid, hother⟩ := of_decide_eq_true htakes
    obtain ⟨a, ha, f, hf⟩ := exists_method_of_mem hos hbuilt ho
    obtain ⟨p, hp, record, -, hnames, hname⟩ := Conventions.exists_record_param hargs.method
      (method_of_mem (buildApi_of_mem hbuilt ha) hf) hid hother
    cases (omitTypeName_of_described hc (hos o ho)).symm.trans hname
    rw [List.map_map]
    refine (mem_records_iff hargs h).mpr ⟨a, ha, f, (List.of_mem_zip hf).2, ?_⟩
    exact List.mem_flatMap.mpr ⟨p, hp, by rw [hnames]; exact List.mem_cons_self⟩
  have hown := Assoc.get?_own_iff hmem hkeys
  simp only [Assoc.get?_map, Option.map_eq_some_iff, List.mem_filter, decide_eq_true_eq, and_imp,
    recordName_eq_iff] at hown
  rw [hown]
  constructor
  · exact fun hall o ho p hp hname hkind hto htp => hall o ho hto p hp htp hname hkind
  · exact fun hall o ho hto p hp htp hname hkind => hall o ho p hp hname hkind hto htp

/-! ### Methods -/

theorem serves_iff (hc : c.DefaultDeclarationNames) (hargs : c.ArgumentsDiffer)
    (hos : ∀ o ∈ os, Described c o) (h : (buildApis c.conventions os).outcome = .ok apis)
    {a : ScopedApi} (ha : a ∈ apis) {o : SdkOperation} {f : FunctionDef} (hf : (o, f) ∈ a.methods)
    {documents : List Statement} {declared : Declared} :
    Serves c d documents declared o f ↔
      (∃ text, Code.constantNamed? documents o.documentName = some text ∧
        o.documentText? d.fragmentTable = some text) ∧
      (o.TakesRecord c → ∃ decl, Assoc.get? (o.recordName c) declared.records = some decl ∧
        decl.fields = o.recordFields c) := by
  have hmethod := method_of_mem (buildApi_of_mem h ha) hf
  have ho := hos o (mem_of_mem_methods h ha hf)
  have hdocument : f.document? = some o.documentName := by
    rw [Conventions.document?_of_method hmethod]
    show some (c.namespacedDocument o.documentName) = _
    unfold Config.namespacedDocument
    rw [hc.documentsModule]
    rfl
  constructor
  · rintro ⟨⟨name, text, hname, hconstant, htext⟩, hrecord⟩
    cases hname.symm.trans hdocument
    refine ⟨⟨text, hconstant, htext⟩, fun htakes => ?_⟩
    obtain ⟨p, hp, record, decl, -, hrecord, hdecl, hfields⟩ := hrecord htakes
    have hm : record ∈ f.recordNames :=
      List.mem_flatMap.mpr ⟨p, hp, by rw [hrecord]; exact List.mem_cons_self⟩
    obtain ⟨-, -, hname⟩ :=
      Conventions.omitTypeName_of_mem_recordNames hargs.method hmethod hm
    cases (omitTypeName_of_described hc ho).symm.trans hname
    exact ⟨decl, hdecl, hfields⟩
  · rintro ⟨⟨text, hconstant, htext⟩, hrecord⟩
    refine ⟨⟨_, text, hdocument, hconstant, htext⟩, fun htakes => ?_⟩
    obtain ⟨decl, hdecl, hfields⟩ := hrecord htakes
    obtain ⟨p, hp, record, hparam, hnames, hname⟩ :=
      Conventions.exists_record_param hargs.method hmethod htakes.1 htakes.2
    cases (omitTypeName_of_described hc ho).symm.trans hname
    exact ⟨p, hp, _, decl, hparam, hnames, hdecl, hfields⟩

/-- All methods use what is declared for their own operations exactly if operations
whose names agree up to the case of the first letter are alike. -/
theorem serves_all_iff (hc : c.DefaultDeclarationNames) (hargs : c.ArgumentsDiffer)
    (hos : ∀ o ∈ os, Described c o) {documents : List Statement}
    (hdocuments : operationDocuments d os = .ok documents)
    (h : ((buildApis c.conventions os).settle { scalars := c.conventions.scalars }).outcome =
      .ok apis) :
    (∀ a ∈ apis, ∀ o f, (o, f) ∈ a.methods →
        Serves c d documents (ownDeclared c.conventions os) o f) ↔
      ∀ o ∈ os, ∀ p ∈ os, Text.upperFirst o.name = Text.upperFirst p.name →
        o.Alike c d.fragmentTable p := by
  obtain ⟨hbuilt, -⟩ := Emit.settle_outcome_eq_ok.mp h
  have hconstants := constants_own_iff hc hos hdocuments
  have hrecords := records_own_iff hc hargs hos h
  constructor
  · intro hall
    have hown : ∀ o ∈ os, (∃ text, Code.constantNamed? documents o.documentName = some text ∧
          o.documentText? d.fragmentTable = some text) ∧
        (o.TakesRecord c → ∃ decl,
          Assoc.get? (o.recordName c) (ownDeclared c.conventions os).records = some decl ∧
          decl.fields = o.recordFields c) := by
      intro o ho
      obtain ⟨a, ha, f, hf⟩ := exists_method_of_mem hos hbuilt ho
      exact (serves_iff hc hargs hos hbuilt ha hf).mp (hall a ha o f hf)
    intro o ho p hp hname
    exact ⟨hconstants.mp (fun o ho => (hown o ho).1) o ho p hp hname,
      hrecords.mp (fun o ho => (hown o ho).2) o ho p hp hname⟩
  · intro hall a ha o f hf
    have ho := mem_of_mem_methods hbuilt ha hf
    exact (serves_iff hc hargs hos hbuilt ha hf).mpr
      ⟨hconstants.mpr (fun o ho p hp hname => (hall o ho p hp hname).text) o ho,
        hrecords.mpr (fun o ho p hp hname => (hall o ho p hp hname).fields) o ho⟩

/-- Operations of different names are alike exactly if they are the same. -/
theorem alike_iff_nodup (hos : ∀ o ∈ os, Described c o) {documents : List Statement}
    (hdocuments : operationDocuments d os = .ok documents) (hnames : (os.map (·.name)).Nodup) :
    (∀ o ∈ os, ∀ p ∈ os, Text.upperFirst o.name = Text.upperFirst p.name →
        o.Alike c d.fragmentTable p) ↔
      (os.map fun o => Text.upperFirst o.name).Nodup := by
  obtain ⟨htexts, -⟩ := constants_of_operationDocuments hdocuments
  rw [List.nodup_map_iff_inj_on hnames.of_map]
  constructor
  · intro hall o ho p hp hname
    obtain ⟨text, htext⟩ := htexts o ho
    have hsame := (hall o ho p hp hname).text
    exact List.inj_on_of_nodup_map hnames ho hp
      (name_eq_of_documentText?_eq (hos o ho) (hos p hp) htext (hsame ▸ htext))
  · intro hinj o ho p hp hname
    cases hinj o ho p hp hname
    exact ⟨rfl, fun _ _ _ => rfl⟩

/-! ### Modules -/

/-- A text that a new generator returns is that of a module of its operations, their
APIs and their constants. -/
theorem builds_of_generate (hc : c.documentsModule? = none) {text : String}
    (h : ((Generator.create d c).generate).1 = .ok text) :
    ∃ os apis documents, (Generator.create d c).Builds os apis documents ∧
      text = (Generator.create d c).textOf documents apis
        ((Generator.create d c).build os).2.declared := by
  obtain ⟨os, ⟨all, hos, hkeep⟩, h⟩ := Generator.exists_keeps h
  -- a new generator has no filters, so it keeps all operations
  obtain rfl : os = all := hkeep
  obtain ⟨apis, hbuilt⟩ := Generator.exists_build_of_generateFor h
  obtain ⟨documents, hdocuments, -, rfl⟩ := (Generator.generateFor_eq_ok rfl hbuilt).mp h
  refine ⟨os, apis, documents, ⟨hos, hbuilt, ?_⟩, rfl⟩
  have hmodule : present (Generator.create d c).config.documentsModule? = none := by
    show present c.documentsModule? = none
    rw [hc]
    rfl
  unfold Generator.documents at hdocuments
  simp only [hmodule] at hdocuments
  exact hdocuments

theorem described_create_eq_ok : (Generator.create d c).described = .ok os ↔
    (classifyAll c d).mapM (describe c) = .ok os := by
  show ((classifyAll c d).mapM (describe c)).mapError _ = _ ↔ _
  cases (classifyAll c d).mapM (describe c) <;> simp [Except.mapError]

end Built

/-- **Whose declarations methods use.** Every text that a new generator returns is that
of a module of operations, APIs and constants. In such a module every operation has
a method; the methods use what is declared for their own operations exactly if
operations whose names agree up to the case of the first letter are alike; and where
operations have different names, exactly if these differ in more than the case of the
first letter. -/
theorem own_declarations_iff (hc : c.DefaultDeclarationNames) (hargs : c.ArgumentsDiffer)
    (hd : d.WellNamed) :
    (∀ text, ((Generator.create d c).generate).1 = .ok text → ∃ os apis documents,
      (Generator.create d c).Builds os apis documents ∧
      text = (Generator.create d c).textOf documents apis
        ((Generator.create d c).build os).2.declared) ∧
    ∀ os apis documents, (Generator.create d c).Builds os apis documents →
      (∀ o ∈ os, ∃ a ∈ apis, ∃ f, (o, f) ∈ a.methods) ∧
      ((∀ a ∈ apis, ∀ o f, (o, f) ∈ a.methods →
          Serves c d documents ((Generator.create d c).build os).2.declared o f) ↔
        ∀ o ∈ os, ∀ p ∈ os, Text.upperFirst o.name = Text.upperFirst p.name →
          o.Alike c d.fragmentTable p) ∧
      ((os.map (·.name)).Nodup →
        ((∀ a ∈ apis, ∀ o f, (o, f) ∈ a.methods →
            Serves c d documents ((Generator.create d c).build os).2.declared o f) ↔
          (os.map fun o => Text.upperFirst o.name).Nodup)) := by
  refine ⟨fun text h => builds_of_generate hc.documentsModule h, fun os apis documents h => ?_⟩
  have hdescribed : (classifyAll c d).mapM (describe c) = .ok os := described_create_eq_ok.mp h.described
  have hos := described_of_mem hd hdescribed
  have hconventions : (Generator.create d c).conventions = c.conventions := rfl
  have hbefore : (Generator.create d c).declared = { scalars := c.conventions.scalars } := rfl
  have hsettle := Generator.build_eq_ok.mp h.built
  have hdeclared : ((Generator.create d c).build os).2.declared = _ := Generator.build_snd.1
  rw [hconventions, hbefore] at hsettle hdeclared
  have hserves := serves_all_iff hc hargs hos h.documents hsettle
  rw [hdeclared]
  exact ⟨fun o ho => exists_method_of_mem hos (Emit.settle_outcome_eq_ok.mp hsettle).1 ho, hserves,
    fun hnames => hserves.trans (alike_iff_nodup hos h.documents hnames)⟩

end Declarations

open GraphQL in
/-- In the sample every method uses what is declared for its own operation. -/
theorem sample_own_declarations : ∃ os apis documents,
    Config.DefaultDeclarationNames {} ∧ Config.ArgumentsDiffer {} ∧ Document.sample.WellNamed ∧
    (Generator.create Document.sample {}).Builds os apis documents ∧
    os.map (·.name) = ["team", "viewer", "TeamIssues", "issueCreate"] ∧
    ∀ a ∈ apis, ∀ o f, (o, f) ∈ a.methods → Serves {} Document.sample documents
      ((Generator.create Document.sample {}).build os).2.declared o f := by
  have hrun : ((Generator.create Document.sample {}).described.toOption.any fun os =>
      ((Generator.create Document.sample {}).build os).1.toOption.isSome &&
      ((operationDocuments Document.sample os).toOption.isSome &&
      (decide (os.map (·.name) = ["team", "viewer", "TeamIssues", "issueCreate"]) &&
      decide (os.map fun o => Text.upperFirst o.name).Nodup))) = true := by
    decide +kernel
  obtain ⟨os, hos, hrun⟩ := (Option.any_eq_true _ _).mp hrun
  simp only [Bool.and_eq_true, decide_eq_true_eq] at hrun
  obtain ⟨hbuilt, hdocuments, hnames, hdiffer⟩ := hrun
  obtain ⟨apis, hapis⟩ := Option.isSome_iff_exists.mp hbuilt
  obtain ⟨documents, hdocuments⟩ := Option.isSome_iff_exists.mp hdocuments
  have hc : Config.DefaultDeclarationNames {} := ⟨rfl, rfl, rfl, rfl⟩
  have hbuilds : (Generator.create Document.sample {}).Builds os apis documents :=
    ⟨eq_ok_of_toOption hos, eq_ok_of_toOption hapis, eq_ok_of_toOption hdocuments⟩
  obtain ⟨-, hall⟩ := own_declarations_iff hc (by decide) Document.sample_wellNamed
  obtain ⟨-, -, hserves⟩ := hall os apis documents hbuilds
  refine ⟨os, apis, documents, hc, by decide, Document.sample_wellNamed, hbuilds, hnames, ?_⟩
  exact (hserves (by rw [hnames]; decide)).mpr hdiffer

namespace GraphQL

/-- A parent and a child of its key, the names of which differ in the case of the
first letter, with different variables. -/
def Document.twoTeams : Document := ⟨[
  .operation ⟨.query, some "team", [.sampleId, ⟨"a", .named "Int", none, []⟩], [],
    [.field none "team" [] [] []]⟩,
  .operation ⟨.query, some "Team", [.sampleId, ⟨"b", .nonNull (.named "String"), none, []⟩], [],
    [.field none "team" [] [] []]⟩]⟩

end GraphQL

open GraphQL in
/-- **Shared declarations.** The two constants have one name, and the text of the second
operation is what counts for both; the two records have one name, and the fields of the
first operation are what counts for both. -/
theorem shared_declarations : ∃ os apis documents, Document.twoTeams.WellNamed ∧
    (Generator.create Document.twoTeams {}).Builds os apis documents ∧
    os.map (·.name) = ["team", "Team"] ∧
    (apis.map fun a => a.methods.map fun m => (m.1.name, m.2.document?, m.2.recordNames)) =
      [[("team", some "TeamDocument", ["TeamQueryVariablesWithoutId"])],
        [("Team", some "TeamDocument", ["TeamQueryVariablesWithoutId"])]] ∧
    Code.constantNamed? documents "TeamDocument" =
      some "query Team($id: ID!, $b: String!) \x7b\n  team\n\x7d" ∧
    (Assoc.get? "TeamQueryVariablesWithoutId"
      ((Generator.create Document.twoTeams {}).build os).2.declared.records).map
        (fun decl => decl.fields.map (·.name)) = some ["a"] ∧
    ¬∀ a ∈ apis, ∀ o f, (o, f) ∈ a.methods → Serves {} Document.twoTeams documents
      ((Generator.create Document.twoTeams {}).build os).2.declared o f := by
  have hrun : ((Generator.create Document.twoTeams {}).described.toOption.any fun os =>
      decide (os.map (·.name) = ["team", "Team"]) &&
      (decide ((Assoc.get? "TeamQueryVariablesWithoutId"
        ((Generator.create Document.twoTeams {}).build os).2.declared.records).map
          (fun decl => decl.fields.map (·.name)) = some ["a"]) &&
      ((((Generator.create Document.twoTeams {}).build os).1.toOption.any fun apis =>
        decide ((apis.map fun a => a.methods.map fun m =>
            (m.1.name, m.2.document?, m.2.recordNames)) =
          [[("team", some "TeamDocument", ["TeamQueryVariablesWithoutId"])],
            [("Team", some "TeamDocument", ["TeamQueryVariablesWithoutId"])]]) &&
        apis.any fun a => a.methods.any fun m =>
          decide (m.2.document? = some "TeamDocument") &&
          decide (m.1.documentText? Document.twoTeams.fragmentTable ≠
            some "query Team($id: ID!, $b: String!) \x7b\n  team\n\x7d")) &&
      ((operationDocuments Document.twoTeams os).toOption.any fun documents =>
        Code.constantNamed? documents "TeamDocument" =
          some "query Team($id: ID!, $b: String!) \x7b\n  team\n\x7d")))) = true := by
    decide +kernel
  obtain ⟨os, hos, hrun⟩ := (Option.any_eq_true _ _).mp hrun
  simp only [Bool.and_eq_true, decide_eq_true_eq] at hrun
  obtain ⟨hnames, hfields, hbuilt, hdocuments⟩ := hrun
  obtain ⟨apis, hapis, hbuilt⟩ := (Option.any_eq_true _ _).mp hbuilt
  obtain ⟨documents, hdocuments, hconstant⟩ := (Option.any_eq_true _ _).mp hdocuments
  simp only [Bool.and_eq_true, decide_eq_true_eq, List.any_eq_true, Prod.exists] at hbuilt hconstant
  obtain ⟨hmethods, a, ha, o, f, hf, hdocument, hother⟩ := hbuilt
  have hwell : Document.twoTeams.WellNamed := by decide +kernel
  have hbuilds : (Generator.create Document.twoTeams {}).Builds os apis documents :=
    ⟨eq_ok_of_toOption hos, eq_ok_of_toOption hapis, eq_ok_of_toOption hdocuments⟩
  refine ⟨os, apis, documents, hwell, hbuilds, hnames, hmethods, hconstant, hfields, fun hall => ?_⟩
  -- the method of the first operation sends a constant with another text
  obtain ⟨name, text, hname, htext, hown⟩ := (hall a ha o f hf).constant
  cases hdocument.symm.trans hname
  exact hother (hown.trans (htext.symm.trans hconstant))

end ChainedSdk
