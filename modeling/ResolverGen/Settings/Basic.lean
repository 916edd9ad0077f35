import ResolverGen.Json.Value
import ResolverGen.Template.Value

/-!
# Settings

What a run is configured with: output, rendering, and per type and field the template variants. Plain
settings are kept as they were given; whoever uses one decides what it accepts.
-/
namespace ResolverGen

/-- A template variant with its parameters. -/
structure Variant where
  name : String
  params : Table Json := []
deriving Repr, BEq, Inhabited

/-- The variant that is used where none is configured. -/
def defaultVariant : Variant := { name := "default" }

def defaultVariants : List Variant := [defaultVariant]

/-- Variants in use: the default one where none is given. -/
def orDefault (variants : List Variant) : List Variant :=
  if variants.isEmpty then defaultVariants else variants

structure FieldSettings where
  templates : List Variant := defaultVariants
deriving Repr, BEq, Inhabited

def FieldSettings.ofVariants (variants : List Variant) : FieldSettings := ⟨orDefault variants⟩

structure TypeSettings where
  templates : List Variant := defaultVariants
  fields : Table FieldSettings := []
deriving Repr, BEq, Inhabited

namespace TypeSettings

def ofVariants (variants : List Variant) (fields : Table FieldSettings) : TypeSettings :=
  ⟨orDefault variants, fields⟩

/-- The settings of a field, the default ones where there are none. -/
def field (t : TypeSettings) (name : String) : FieldSettings := (t.fields.get? name).getD {}

end TypeSettings

/-- What stands for a custom scalar. -/
structure ScalarSettings where
  type : Json := .str ""
  importPath : Json := .str ""
  skip : Bool := true
deriving Repr, BEq, Inhabited

structure Settings where
  packageName : Json := .str "resolvers"
  fileSuffix : Json := .str "_gen"
  templateDir : Json := .null
  formatter : Json := .str "basic"
  addComments : Json := .bool true
  types : Table TypeSettings := []
  scalars : Table ScalarSettings := []
  /-- Settings that only templates look at. -/
  custom : Json := .obj []
deriving Repr, BEq, Inhabited

/-- The settings of a type, the default ones where there are none. -/
def Settings.type (s : Settings) (name : String) : TypeSettings := (s.types.get? name).getD {}

theorem orDefault_of_ne_nil {variants : List Variant} (h : variants ≠ []) :
    orDefault variants = variants := by
  rw [orDefault, if_neg (by simpa using h)]

/-! ## Settings in templates -/

open Template

/-- Parameters as a template sees them; it cannot change them. -/
def paramsValue (params : Table Json) : Value := .frozen (Value.ofJsonEntries params)

def Variant.value (v : Variant) : Value :=
  .record .variant [("name", .str v.name), ("params", paramsValue v.params)]

def templatesValue (variants : List Variant) : Value := .tuple (variants.map Variant.value)

def FieldSettings.value (f : FieldSettings) : Value :=
  .record .fieldSettings [("templates", templatesValue f.templates)]

def TypeSettings.value (t : TypeSettings) : Value :=
  .record .typeSettings
    [("templates", templatesValue t.templates),
      ("fields", .frozen (t.fields.map fun entry => (.str entry.1, entry.2.value)))]

def ScalarSettings.value (s : ScalarSettings) : Value :=
  .record .scalarSettings
    [("type", .ofJson s.type), ("import_path", .ofJson s.importPath), ("skip", .bool s.skip)]

def Settings.value (s : Settings) : Value :=
  .record .settings
    [("package_name", .ofJson s.packageName), ("file_suffix", .ofJson s.fileSuffix),
      ("template_dir", .ofJson s.templateDir), ("formatter", .ofJson s.formatter),
      ("add_comments", .ofJson s.addComments),
      ("types", .dict (s.types.map fun entry => (.str entry.1, entry.2.value))),
      ("scalars", .dict (s.scalars.map fun entry => (.str entry.1, entry.2.value))),
      ("custom", .ofJson s.custom)]

end ResolverGen
