import ResolverGen.Files.Tree
import ResolverGen.Json.Parser
import ResolverGen.Settings.Basic

/-!
# Reading settings

Settings out of JSON values. Variants may be written as an object of parameters by name, as a list of
names, or as a list of objects with a name and parameters.
-/
namespace ResolverGen

/-- Why a configuration is refused. -/
inductive ConfigFault where
  | templateEntry (owner : String) (entry : Json)
  | templates (owner : String)
  | templateName (owner : String) (name : Json)
  | parameters (variant owner : String)
  | notObject (owner : String)
  | fields (owner : String)
  | scalar (name : String)
  | types
  | scalars
  | fileMissing (path : String)
  | fileKind (path : String)
  | fileMalformed (path : String) (fault : Json.SyntaxError)
  | fileUnreadable (path : String) (fault : FileFault)
  | fileNotObject (path : String)
deriving Repr, BEq

def ConfigFault.message : ConfigFault → String
  | templateEntry owner entry => "Invalid template entry for " ++ owner ++ ": " ++ entry.display
  | templates owner => "Templates for " ++ owner ++ " must be an object or a list"
  | templateName owner name => "Invalid template name for " ++ owner ++ ": " ++ name.display
  | parameters variant owner =>
    "Parameters of template '" ++ variant ++ "' for " ++ owner ++ " must be an object"
  | notObject owner => "Configuration of " ++ owner ++ " must be an object"
  | fields owner => "Fields of " ++ owner ++ " must be an object"
  | scalar name => "Scalar mapping for " ++ name ++ " must be a string or an object"
  | types => "'types' must be an object keyed by type name"
  | scalars => "'scalars' must be an object keyed by scalar name"
  | fileMissing path => "Configuration file not found: " ++ path
  | fileKind path => "Configuration file must be JSON: " ++ path
  | fileMalformed path fault =>
    "Invalid JSON in configuration file " ++ path ++ ": " ++ fault.message
  | fileUnreadable path fault =>
    "Failed to load configuration file " ++ path ++ ": " ++ fault.message
  | fileNotObject path => "Configuration file must contain a JSON object: " ++ path

/-! ## Variants -/

/-- The name and the parameters that an entry of a list stands for. -/
def variantEntry (owner : String) (entry : Json) : Except ConfigFault (Json × Json) :=
  match entry with
  | .str _ => .ok (entry, .obj [])
  | .obj entries =>
    match Json.valueAt? entries "name" with
    | none => .error (.templateEntry owner entry)
    | some name =>
      let params := Json.entryOrNull entries "params"
      .ok (name, if params.isGiven then params else .obj [])
  | _ => .error (.templateEntry owner entry)

/-- A variant from its name and parameters. -/
def variantOf (owner : String) (name params : Json) : Except ConfigFault Variant :=
  match name with
  | .str text =>
    if text = "" then .error (.templateName owner name)
    else match params with
      | .null => .ok ⟨text, []⟩
      | .obj entries => .ok ⟨text, entries⟩
      | _ => .error (.parameters text owner)
  | _ => .error (.templateName owner name)

/-- The names and parameters of a configured value, in order. -/
def variantEntries (owner : String) (raw : Json) : Except ConfigFault (List (Json × Json)) :=
  match raw with
  | .obj entries => .ok (entries.map fun entry => (.str entry.1, entry.2))
  | .arr items => items.mapM (variantEntry owner)
  | _ => .error (.templates owner)

/-- The variants of an owner. A value that is not given stands for the default variant. -/
def readVariants (owner : String) (raw : Json) : Except ConfigFault (List Variant) :=
  if raw.isGiven then do
    (← variantEntries owner raw).mapM fun entry => variantOf owner entry.1 entry.2
  else .ok defaultVariants

/-! ## Types and scalars -/

/-- The entries of an object, none for null. -/
def objectEntries (owner : String) : Json → Except ConfigFault (Table Json)
  | .null => .ok []
  | .obj entries => .ok entries
  | _ => .error (.notObject owner)

def FieldSettings.read (owner : String) (raw : Json) : Except ConfigFault FieldSettings := do
  let entries ← objectEntries owner raw
  return .ofVariants (← readVariants owner (Json.entryOrNull entries "templates"))

/-- The settings of each field of an owner. -/
def readFields (owner : String) (raw : Json) : Except ConfigFault (Table Json) :=
  if raw.isGiven then
    match raw with
    | .obj entries => .ok entries
    | _ => .error (.fields owner)
  else .ok []

def TypeSettings.read (owner : String) (raw : Json) : Except ConfigFault TypeSettings := do
  let entries ← objectEntries owner raw
  let fields ← readFields owner (Json.entryOrNull entries "fields")
  let variants ← readVariants owner (Json.entryOrNull entries "templates")
  let fields ← fields.mapM fun entry => do
    return (entry.1, ← FieldSettings.read (owner ++ "." ++ entry.1) entry.2)
  return .ofVariants variants fields

def ScalarSettings.read (name : String) (raw : Json) : Except ConfigFault ScalarSettings :=
  match raw with
  | .str _ => .ok { type := raw }
  | .obj entries =>
    let either (first second : String) : Json :=
      ((Json.valueAt? entries first).orElse fun _ => Json.valueAt? entries second).getD (.str "")
    .ok
      { type := either "type" "go_type"
        importPath := either "import" "import_path"
        skip := ((Json.valueAt? entries "skip").map Json.isGiven).getD true }
  | _ => .error (.scalar name)

def readTypes (raw : Json) : Except ConfigFault (Table TypeSettings) :=
  if raw.isGiven then
    match raw with
    | .obj entries => entries.mapM fun entry => do
      return (entry.1, ← TypeSettings.read entry.1 entry.2)
    | _ => .error .types
  else .ok []

def readScalars (raw : Json) : Except ConfigFault (Table ScalarSettings) :=
  if raw.isGiven then
    match raw with
    | .obj entries => entries.mapM fun entry => do
      return (entry.1, ← ScalarSettings.read entry.1 entry.2)
    | _ => .error .scalars
  else .ok []

/-- Settings out of the values of their keys; an absent key leaves the default. -/
def Settings.read (values : Table Json) : Except ConfigFault Settings := do
  let plain : Settings := {}
  let types ← readTypes ((values.get? "types").getD .null)
  let scalars ← readScalars ((values.get? "scalars").getD .null)
  return {
    packageName := (values.get? "package_name").getD plain.packageName
    fileSuffix := (values.get? "file_suffix").getD plain.fileSuffix
    templateDir := (values.get? "template_dir").getD plain.templateDir
    formatter := (values.get? "formatter").getD plain.formatter
    addComments := (values.get? "add_comments").getD plain.addComments
    types
    scalars
    custom := (values.get? "custom").getD plain.custom }

end ResolverGen
