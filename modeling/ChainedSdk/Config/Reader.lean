/-
# Reading a configuration

A configuration is an object whose fields are settings. Every setting that is
not fit for its use is reported: the settings in their own order, then the
fields that are no settings in the order in which they are given.

Key definitions: `Setting`, `settings`, `ConfigError`, `Config.ofJson`,
`Config.parse`, `Config.override`.
-/
import ChainedSdk.Config.Basic
import ChainedSdk.Json.Reader
import ChainedSdk.Text.Identifier

namespace ChainedSdk

/-- What is wrong with a field of a configuration. -/
inductive ConfigFault where
  | notText
  | notDictionary (inFile : Bool)
  | notObject (inFile : Bool)
  | notJson
  | unknownKey
  | importName (name : String)
  | modulePath (path : String)
deriving DecidableEq, Repr

/-- The kind of a fault. -/
def ConfigFault.code : ConfigFault → String
  | notText => "string_type"
  | notDictionary _ => "dict_type"
  | notObject _ => "model_type"
  | notJson => "json_invalid"
  | unknownKey => "extra_forbidden"
  | importName _ => "value_error"
  | modulePath _ => "value_error"

/-- The fault in words, where it has words of its own. -/
def ConfigFault.message? : ConfigFault → Option String
  | notText => some "Input should be a valid string"
  | notDictionary inFile =>
    some (if inFile then "Input should be an object" else "Input should be a valid dictionary")
  | notObject inFile =>
    some (if inFile then "Input should be an object"
      else "Input should be a valid dictionary or instance of SdkConfig")
  | notJson => none
  | unknownKey => some "Extra inputs are not permitted"
  | importName name => some ("Value error, " ++ Text.quote name ++ " is not a valid import name")
  | modulePath path => some ("Value error, " ++ Text.quote path ++ " is not a valid module path")

/-- A fault and the field it was found in. -/
structure ConfigError where
  fault : ConfigFault
  path : List String
deriving DecidableEq, Repr

/-- What the text of a setting has to be. -/
inductive Fitness where
  | anyText
  | importName
  | modulePath
deriving DecidableEq, Repr

/-- The fault of a text that is not fit. -/
def Fitness.fault? (f : Fitness) (s : String) : Option ConfigFault :=
  match f with
  | .anyText => none
  | .importName => if Text.isIdentifier s then none else some (.importName s)
  | .modulePath =>
    if (Text.split '.' s).all Text.isIdentifier then none else some (.modulePath s)

/-- A setting whose value is a text, or is left out where it may be. -/
structure Setting where
  key : String
  fitness : Fitness := .anyText
  nullable : Bool := false
  get : Config → Option String
  set : Option String → Config → Config

/-- The settings other than the scalars, in order. -/
def settings : List Setting :=
  let text (key : String) (get : Config → String) (set : String → Config → Config) : Setting :=
    { key, get := fun c => some (get c), set := fun s c => set (s.getD "") c }
  [ text "id_name" (·.idName) fun s c => { c with idName := s },
    text "id_type" (·.idType) fun s c => { c with idType := s },
    text "variables_name" (·.variablesName) fun s c => { c with variablesName := s },
    text "requester_name" (·.requesterName) fun s c => { c with requesterName := s },
    text "requester_type" (·.requesterType) fun s c => { c with requesterType := s },
    text "wrapper_name" (·.wrapperName) fun s c => { c with wrapperName := s },
    text "wrapper_type" (·.wrapperType) fun s c => { c with wrapperType := s },
    text "wrapper_default_name" (·.wrapperDefault) fun s c => { c with wrapperDefault := s },
    text "response_name" (·.responseName) fun s c => { c with responseName := s },
    text "response_type" (·.responseType) fun s c => { c with responseType := s },
    text "status_type" (·.statusType) fun s c => { c with statusType := s },
    text "options_name" (·.optionsName) fun s c => { c with optionsName := s },
    text "options_type" (·.optionsType) fun s c => { c with optionsType := s },
    text "operation_set_type" (·.operationSetType) fun s c => { c with operationSetType := s },
    text "sdk_name" (·.sdkName) fun s c => { c with sdkName := s },
    text "api_function_template" (·.apiFunctionTemplate)
      fun s c => { c with apiFunctionTemplate := s },
    text "api_root_function" (·.apiRootFunction) fun s c => { c with apiRootFunction := s },
    text "api_type_template" (·.apiTypeTemplate) fun s c => { c with apiTypeTemplate := s },
    text "api_root_type" (·.apiRootType) fun s c => { c with apiRootType := s },
    text "chain_result_template" (·.chainResultTemplate)
      fun s c => { c with chainResultTemplate := s },
    text "document_template" (·.documentTemplate) fun s c => { c with documentTemplate := s },
    text "result_type_template" (·.resultTypeTemplate)
      fun s c => { c with resultTypeTemplate := s },
    text "variables_type_template" (·.variablesTypeTemplate)
      fun s c => { c with variablesTypeTemplate := s },
    text "omit_type_template" (·.omitTypeTemplate) fun s c => { c with omitTypeTemplate := s },
    { key := "types_module", fitness := .modulePath, nullable := true,
      get := (·.typesModule?), set := fun s c => { c with typesModule? := s } },
    { key := "types_namespace", fitness := .importName, nullable := true,
      get := (·.typesNamespace?), set := fun s c => { c with typesNamespace? := s } },
    { key := "documents_module", fitness := .modulePath, nullable := true,
      get := (·.documentsModule?), set := fun s c => { c with documentsModule? := s } },
    { key := "documents_namespace", fitness := .importName, nullable := true,
      get := (·.documentsNamespace?), set := fun s c => { c with documentsNamespace? := s } },
    { text "runtime_module" (·.runtimeModule) fun s c => { c with runtimeModule := s } with
      fitness := .modulePath } ]

/-- The key of the setting that maps scalars to annotations. -/
def scalarsKey : String := "scalars"

namespace Setting

/-- The faults of a value given to the setting. -/
def faults (s : Setting) (value : Json) : List ConfigFault :=
  match value with
  | .string text => (s.fitness.fault? text).toList
  | .null => if s.nullable then [] else [.notText]
  | _ => [.notText]

/-- The setting takes a value without faults. -/
def store (s : Setting) (value : Json) (c : Config) : Config :=
  match value with
  | .string text => s.set (some text) c
  | _ => s.set none c

/-- The value of the setting. -/
def value (s : Setting) (c : Config) : Json :=
  match s.get c with
  | some text => .string text
  | none => .null

end Setting

namespace Config

/-- A configuration, and the keys of the settings that were given. -/
structure Loaded where
  config : Config
  given : List String
deriving Repr

/-- The entries of a dictionary of texts. -/
def textEntries (fields : List (String × Json)) : List (String × String) :=
  fields.filterMap fun f =>
    match f.2 with
    | .string text => some (f.1, text)
    | _ => none

/-- The faults of the dictionary of scalars, also of entries that a later one
replaces. -/
def scalarFaults (inFile : Bool) (value : Json) : List ConfigError :=
  match value with
  | .object fields =>
    fields.filterMap fun f =>
      match f.2 with
      | .string _ => none
      | _ => some ⟨.notText, [scalarsKey, f.1]⟩
  | _ => [⟨.notDictionary inFile, [scalarsKey]⟩]

/-- The faults of the fields of a configuration. -/
def errors (inFile : Bool) (fields : List (String × Json)) : List ConfigError :=
  let known := settings.flatMap fun s =>
    match Assoc.get? s.key fields with
    | some value => (s.faults value).map fun fault => ⟨fault, [s.key]⟩
    | none => []
  let scalars :=
    match Assoc.get? scalarsKey fields with
    | some value => scalarFaults inFile value
    | none => []
  let keys := settings.map (·.key) ++ [scalarsKey]
  let unknown := (fields.filter fun f => !keys.contains f.1).map fun f =>
    ⟨.unknownKey, [f.1]⟩
  known ++ scalars ++ unknown

/-- The configuration with the given fields in place of the defaults. -/
def ofFields (fields : List (String × Json)) : Config :=
  let c := settings.foldl
    (fun c s =>
      match Assoc.get? s.key fields with
      | some value => s.store value c
      | none => c)
    {}
  match Assoc.get? scalarsKey fields with
  | some (.object entries) => { c with scalars := textEntries (Assoc.ofList entries) }
  | _ => c

/-- Reads a configuration from a value, which came from a file or not. Of a
field that is given several times the last one counts. -/
def ofJson (inFile : Bool) (value : Json) : Except (List ConfigError) Loaded :=
  match value with
  | .object fields =>
    let fields := Assoc.ofList fields
    match errors inFile fields with
    | [] => .ok ⟨ofFields fields, fields.map (·.1)⟩
    | faults => .error faults
  | _ => .error [⟨.notObject inFile, []⟩]

/-- What the file of a configuration may hold at most. -/
def fileLimits : Json.Limits where
  depth? := some 200
  wholePart? := some 4300

/-- Reads a configuration from the text of a file. -/
def parse (text : String) : Except (List ConfigError) Loaded :=
  match Json.readAll? fileLimits text with
  | some value => ofJson true value
  | none => .error [⟨.notJson, []⟩]

/-- All settings and their values. -/
def fields (c : Config) : List (String × Json) :=
  settings.map (fun s => (s.key, s.value c)) ++
    [(scalarsKey, .object (c.scalars.map fun s => (s.1, .string s.2)))]

/-- The configuration with further fields in place of its own. -/
def override (c : Config) (changes : List (String × Json)) : Except (List ConfigError) Loaded :=
  ofJson false (.object (changes.foldl (fun fields f => Assoc.put f.1 f.2 fields) c.fields))

/-- The settings that were given and their values. -/
def Loaded.givenFields (l : Loaded) : List (String × Json) :=
  l.config.fields.filter fun f => l.given.contains f.1

end Config
end ChainedSdk
