import ResolverGen.Failure.Breakdown
import ResolverGen.Formatter
import ResolverGen.Go.Package
import ResolverGen.Settings.Basic

/-!
# Validation of settings

Warnings about settings that can be used but lead to nothing good.
-/
namespace ResolverGen

inductive SettingsWarning where
  | formatter (name : String)
  | templateDirectory (path : String)
  | package (fault : Go.PackageFault)
  /-- All variants of a field use storage that none of them declares. -/
  | noStorage (typeName fieldName : String) (variants : List String)
  | undefinedType (name : String)
deriving DecidableEq, Repr

def SettingsWarning.message : SettingsWarning → String
  | formatter name => "Invalid formatter: " ++ name
  | templateDirectory path => "Template directory not found: " ++ path
  | package fault => fault.message
  | noStorage typeName fieldName variants =>
    "Field " ++ typeName ++ "." ++ fieldName ++ " uses only " ++ ", ".intercalate variants ++
      ", which declares no storage; add a variant such as 'default'"
  | undefinedType name => "Configured type " ++ name ++ " is not defined in the schema"

namespace Settings

def formatterWarnings (s : Settings) : Except Breakdown (List SettingsWarning) :=
  match s.formatter with
  | .arr _ | .obj _ => .error .wrongKind
  | .str name => .ok (if Formatter.known.has name then [] else [.formatter name])
  | other => .ok [.formatter other.plain]

def templateDirectoryWarnings (s : Settings) (files : Files) :
    Except Breakdown (List SettingsWarning) :=
  if s.templateDir.isGiven then
    match s.templateDir with
    | .str path =>
      match files.isDirectory (Path.ofText path) with
      | .ok true => .ok []
      | .ok false => .ok [.templateDirectory path]
      | .error fault => .error (.file fault)
    | _ => .error .wrongKind
  else .ok []

def packageWarnings (s : Settings) : Except Breakdown (List SettingsWarning) :=
  if s.packageName.isGiven then
    match s.packageName with
    | .str name => .ok ((Go.packageFaults name).map .package)
    | _ => .error .noSuchPart
  else .ok [.package .empty]

end Settings

namespace Go

/-- Variants that add methods around storage that another variant declares. -/
def storagelessVariants : List String := ["setter"]

/-- A warning for a field whose variants declare no storage. -/
def fieldWarnings (typeName : String) (entry : String × FieldSettings) : List SettingsWarning :=
  let names := entry.2.templates.map (·.name)
  if names.all (· ∈ storagelessVariants) then [.noStorage typeName entry.1 names] else []

/-- Warnings about fields whose variants declare no storage. -/
def storageWarnings (s : Settings) : List SettingsWarning :=
  s.types.flatMap fun entry => entry.2.fields.flatMap (fieldWarnings entry.1)

end Go

/-- Warnings about settings; those for Go also look at the package name and at field storage. -/
def Settings.warnings (s : Settings) (files : Files) (language : String) :
    Except Breakdown (List SettingsWarning) := do
  let formatter ← s.formatterWarnings
  let templates ← s.templateDirectoryWarnings files
  if language = "go" then
    return formatter ++ templates ++ (← s.packageWarnings) ++ Go.storageWarnings s
  else
    return formatter ++ templates

end ResolverGen
