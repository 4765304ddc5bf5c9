/-
# The names that the default templates give

Each default template is cut into its pieces once and for all, and a field that
is a bare name stands for its value (`Template.fillField_bare`). So the name of
a result is the name of its operation with a capital letter, and the kind of the
operation (`resultType_of_default`), that of the type a parent resolves to has
`Result` behind it (`chainResultName_of_default`), and that of a document is the
name of its operation with `Document` behind it (`document_of_default`). The type of
an operation's variables is named like its result, with `Variables` behind that, and
that of its variables without one of them with `Without` and the name of that one
(`variablesType_of_default`, `omitTypeName_of_default`). The names
of an API are made of its key, which stands in the name of its function as it is
(`apiFunctionName_of_default`), and in the name of its type with a capital letter
(`apiTypeName_of_default`). No two
operations whose names differ in more than the case of the first letter have
results of one name (`lowerFirst_eq_of_resultType_eq`).

Key theorems: `Template.fillField_bare`, `document_of_default`,
`resultType_of_default`, `chainResultName_of_default`,
`variablesType_of_default`, `omitTypeName_of_default`,
`apiFunctionName_of_default`, `apiTypeName_of_default`,
`lowerFirst_eq_of_resultType_eq`.
-/
import ChainedSdk.Proofs.Description

namespace ChainedSdk

namespace Template

/-- A field that is a bare name, without a conversion or a layout, stands for
the value of that name. -/
theorem fillField_bare {expand : List Char → Except TemplateError (List Char)}
    {values : List (String × String)} {name : List Char} {value : String}
    (hfirst : name.takeWhile (fun c => c ≠ '.' && c ≠ '[') = name)
    (hindex : index? name = .ok none) (hne : name.isEmpty = false)
    (hvalue : Assoc.get? (String.ofList name) values = some value) :
    fillField expand values ⟨name, none, []⟩ = .ok value := by
  have hlookup : lookup values name = .ok (.text value.toList) := by
    unfold lookup
    simp only [hfirst, hindex, hne, hvalue]
    simp [bind, Except.bind, follow]
  unfold fillField
  simp [hlookup, convert, lay, bind, Except.bind, pure, Except.pure, Part.shown]

theorem fillPieces_text {expand : List Char → Except TemplateError (List Char)}
    {values : List (String × String)} {cs : List Char} {rest : List Piece} {text : String}
    (h : fillPieces expand values rest = .ok text) :
    fillPieces expand values (.text cs :: rest) = .ok (String.ofList cs ++ text) := by
  simp [fillPieces, h, bind, Except.bind, pure, Except.pure]

theorem fillPieces_field {expand : List Char → Except TemplateError (List Char)}
    {values : List (String × String)} {f : Field} {rest : List Piece} {value text : String}
    (hf : fillField expand values f = .ok value) (h : fillPieces expand values rest = .ok text) :
    fillPieces expand values (.field f :: rest) = .ok (value ++ text) := by
  simp [fillPieces, hf, h, bind, Except.bind, pure, Except.pure]

end Template

open Template

theorem operationNames_eq_ok {c : Config} {name kind : String} {names : OperationNames}
    (h : c.operationNames name kind = .ok names) :
    fill c.documentTemplate [("Name", Text.upperFirst name), ("Operation", Text.upperFirst kind)] =
      .ok names.document ∧
    fill c.resultTypeTemplate [("Name", Text.upperFirst name), ("Operation", Text.upperFirst kind)] =
      .ok names.resultType ∧
    fill c.variablesTypeTemplate
      [("Name", Text.upperFirst name), ("Operation", Text.upperFirst kind)] =
      .ok names.variablesType := by
  unfold Config.operationNames at h
  simp only [bind, Except.bind, pure, Except.pure] at h
  split at h
  · cases h
  · rename_i document hdocument
    split at h
    · cases h
    · rename_i resultType hresultType
      split at h
      · cases h
      · rename_i variablesType hvariablesType
        cases h
        exact ⟨hdocument, hresultType, hvariablesType⟩

/-- The name of a document under the default template. -/
theorem document_of_default {c : Config}
    (hc : c.documentTemplate = ({} : Config).documentTemplate) {name kind : String}
    {names : OperationNames} (h : c.operationNames name kind = .ok names) :
    names.document = Text.upperFirst name ++ "Document" := by
  have hpieces : pieces ({} : Config).documentTemplate =
      [.text [], .field ⟨"Name".toList, none, []⟩, .text "Document".toList] := by rfl
  have hfill := (operationNames_eq_ok h).1
  rw [hc, fill, hpieces, fillPieces_text (fillPieces_field (fillField_bare rfl rfl rfl rfl)
    (fillPieces_text rfl))] at hfill
  rw [← Except.ok.inj hfill]
  simp

/-- The name of a result under the default template. -/
theorem resultType_of_default {c : Config}
    (hc : c.resultTypeTemplate = ({} : Config).resultTypeTemplate) {name kind : String}
    {names : OperationNames} (h : c.operationNames name kind = .ok names) :
    names.resultType = Text.upperFirst name ++ Text.upperFirst kind := by
  have hpieces : pieces ({} : Config).resultTypeTemplate =
      [.text [], .field ⟨"Name".toList, none, []⟩, .text [], .field ⟨"Operation".toList, none, []⟩,
        .text []] := by rfl
  have hfill := (operationNames_eq_ok h).2.1
  rw [hc, fill, hpieces, fillPieces_text (fillPieces_field (fillField_bare rfl rfl rfl rfl)
    (fillPieces_text (fillPieces_field (fillField_bare rfl rfl rfl rfl) (fillPieces_text rfl))))]
    at hfill
  rw [← Except.ok.inj hfill]
  simp

/-- The name of the type of an operation's variables under the default template. -/
theorem variablesType_of_default {c : Config}
    (hc : c.variablesTypeTemplate = ({} : Config).variablesTypeTemplate) {name kind : String}
    {names : OperationNames} (h : c.operationNames name kind = .ok names) :
    names.variablesType = Text.upperFirst name ++ Text.upperFirst kind ++ "Variables" := by
  have hpieces : pieces ({} : Config).variablesTypeTemplate =
      [.text [], .field ⟨"Name".toList, none, []⟩, .text [], .field ⟨"Operation".toList, none, []⟩,
        .text "Variables".toList] := by rfl
  have hfill := (operationNames_eq_ok h).2.2
  rw [hc, fill, hpieces, fillPieces_text (fillPieces_field (fillField_bare rfl rfl rfl rfl)
    (fillPieces_text (fillPieces_field (fillField_bare rfl rfl rfl rfl) (fillPieces_text rfl))))]
    at hfill
  rw [← Except.ok.inj hfill]
  simp [String.append_assoc]

/-- The name of a variables type that lacks a variable, under the default
template. -/
theorem omitTypeName_of_default {c : Config}
    (hc : c.omitTypeTemplate = ({} : Config).omitTypeTemplate) (type key : String) :
    c.omitTypeName type key = .ok (type ++ "Without" ++ Text.upperFirst key) := by
  have hpieces : pieces ({} : Config).omitTypeTemplate =
      [.text [], .field ⟨"Type".toList, none, []⟩, .text "Without".toList,
        .field ⟨"Key".toList, none, []⟩, .text []] := by rfl
  rw [Config.omitTypeName, hc, fill, hpieces, fillPieces_text (fillPieces_field
    (fillField_bare rfl rfl rfl rfl) (fillPieces_text (fillPieces_field
      (fillField_bare rfl rfl rfl rfl) (fillPieces_text rfl))))]
  simp [String.append_assoc]

/-- The name of the type a parent resolves to, under the default template. -/
theorem chainResultName_of_default {c : Config}
    (hc : c.chainResultTemplate = ({} : Config).chainResultTemplate) (resultType : String) :
    c.chainResultName resultType = .ok (resultType ++ "Result") := by
  have hpieces : pieces ({} : Config).chainResultTemplate =
      [.text [], .field ⟨"Type".toList, none, []⟩, .text "Result".toList] := by rfl
  rw [Config.chainResultName, hc, fill, hpieces, fillPieces_text (fillPieces_field
    (fillField_bare rfl rfl rfl rfl) (fillPieces_text rfl))]
  simp

/-- The name of the function of an API, under the default template. -/
theorem apiFunctionName_of_default {c : Config}
    (hc : c.apiFunctionTemplate = ({} : Config).apiFunctionTemplate) {key : String}
    (hkey : present (some key) = some key) :
    c.apiFunctionName (some key) = .ok ("create_" ++ key ++ "_sdk") := by
  have hpieces : pieces ({} : Config).apiFunctionTemplate =
      [.text "create_".toList, .field ⟨"key".toList, none, []⟩, .text "_sdk".toList] := by rfl
  unfold Config.apiFunctionName
  simp only [hkey]
  rw [hc, fill, hpieces, fillPieces_text (fillPieces_field
    (fillField_bare rfl rfl rfl rfl) (fillPieces_text rfl))]
  simp [String.append_assoc]

/-- The name of the type of an API, under the default template. -/
theorem apiTypeName_of_default {c : Config}
    (hc : c.apiTypeTemplate = ({} : Config).apiTypeTemplate) {key : String}
    (hkey : present (some key) = some key) :
    c.apiTypeName (some key) = .ok (Text.upperFirst key ++ "Sdk") := by
  have hpieces : pieces ({} : Config).apiTypeTemplate =
      [.text [], .field ⟨"Key".toList, none, []⟩, .text "Sdk".toList] := by rfl
  unfold Config.apiTypeName
  simp only [hkey]
  rw [hc, fill, hpieces, fillPieces_text (fillPieces_field
    (fillField_bare rfl rfl rfl rfl) (fillPieces_text rfl))]
  simp

/-- No kind of operation ends with another. -/
theorem append_kind_inj {a b : String} {k l : GraphQL.OperationKind}
    (h : a ++ Text.upperFirst k.word = b ++ Text.upperFirst l.word) : a = b ∧ k = l := by
  have hquery : (Text.upperFirst (GraphQL.OperationKind.word .query)).toList.reverse =
      ['y', 'r', 'e', 'u', 'Q'] := rfl
  have hmutation : (Text.upperFirst (GraphQL.OperationKind.word .mutation)).toList.reverse =
      ['n', 'o', 'i', 't', 'a', 't', 'u', 'M'] := rfl
  have hsubscription : (Text.upperFirst (GraphQL.OperationKind.word .subscription)).toList.reverse =
      ['n', 'o', 'i', 't', 'p', 'i', 'r', 'c', 's', 'b', 'u', 'S'] := rfl
  have hrev := congrArg (fun s : String => s.toList.reverse) h
  simp only [String.toList_append, List.reverse_append] at hrev
  have hparts : a.toList.reverse = b.toList.reverse ∧ k = l := by
    cases k <;> cases l <;> simp_all
  exact ⟨String.toList_injective (List.reverse_injective hparts.1), hparts.2⟩

/-- **Results under the default templates.** Operations whose results have one
name have one name themselves, but for the case of the first letter. -/
theorem lowerFirst_eq_of_resultType_eq {c : Config}
    (hc : c.resultTypeTemplate = ({} : Config).resultTypeTemplate) {o p : SdkOperation}
    (ho : Described c o) (hp : Described c p) (h : o.resultType = p.resultType) :
    Text.lowerFirst o.name = Text.lowerFirst p.name := by
  unfold SdkOperation.resultType at h
  rw [resultType_of_default hc ho.operationNames_eq,
    resultType_of_default hc hp.operationNames_eq] at h
  exact Text.lowerFirst_eq_of_upperFirst_eq ho.isName_name hp.isName_name (append_kind_inj h).1

end ChainedSdk
