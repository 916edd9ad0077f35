import ResolverGen.Failure.Basic
import ResolverGen.Go.Filters
import ResolverGen.Go.Templates
import ResolverGen.Go.TypeExpr
import ResolverGen.Settings.Basic

/-!
# Go generator

One Go file per schema type: a resolver struct with its accessors, an interface with its
conversions, or a scalar. Fields are rendered first, by the variants configured for each, and then
the type around them. The first failure ends the run.
-/
namespace ResolverGen.Go

open Template

structure Generator where
  settings : Settings
  store : TemplateStore
  formatter : Formatter
  scalars : ScalarTable

def language : String := "go"

def fileExtension : String := ".go"

/-- The directory of the user, if there is one, and then the packaged templates. -/
def shelves (s : Settings) : List Shelf :=
  (if s.templateDir.isGiven then [.directory (Path.ofText s.templateDir.plain)] else []) ++
    [.packaged packagedTemplates]

/-- What the configured scalars stand for. -/
def customScalars (s : Settings) : Table Scalar :=
  s.scalars.map fun entry =>
    (entry.1, { goType := entry.2.type, importPath := entry.2.importPath, skip := entry.2.skip })

/-- A store of the templates for Go. -/
def templateStore (s : Settings) : TemplateStore where
  shelves := shelves s
  extension := fileExtension ++ ".j2"
  ownFilters := filters

namespace Generator

/-- A generator with a given formatter. -/
def make (settings : Settings) (formatter : Formatter) : Generator where
  settings
  store := templateStore settings
  formatter
  scalars := ScalarTable.ofCustom (customScalars settings)

/-- The generator that settings describe, with what is recorded of their scalars. -/
def ofSettings (settings : Settings) : Except FormatFault (Generator × Log) := do
  let formatter ← Formatter.ofName settings.formatter
  return (make settings formatter, ScalarTable.warnings (customScalars settings))

/-- The state of a generator that has not rendered anything. -/
def initialState (log : Log) : RunState := { sanitizer, log }

/-! ## Fields -/

/-- What all variants of a field write. -/
structure RenderedField where
  declaration : String := ""
  method : String := ""
  imports : List Json := []
deriving Repr, BEq

/-- A configured Go type that is no text cannot follow the marks of a reference. -/
def fieldType (g : Generator) (t : TypeRef) : Run String :=
  match typeExpression g.scalars t with
  | .ok text => return text
  | .error (.schema fault) => Run.fail (.schema fault)
  | .error .goTypeNotText => throw (.breakdown .wrongKind)

/-- What a declaration template sees. -/
def declarationContext (g : Generator) (f : SchemaField) (ownerKind : TypeKind) (goType : String)
    (variant : Variant) : Table Value :=
  [("type_kind", .str ownerKind.label), ("field_name", .str f.name),
    ("field_description", .str (f.description?.getD "")),
    ("field_deprecated", (f.deprecation?.map Value.str).getD .null),
    ("field_type", .str goType), ("config", g.settings.value),
    ("template_config", paramsValue variant.params)]

/-- What a method template sees. -/
def methodContext (g : Generator) (f : SchemaField) (owner : SchemaType) (goType : String)
    (variant : Variant) : Table Value :=
  [("type_kind", .str owner.kind.label), ("type_name", .str owner.name),
    ("method_name", .str f.name), ("method_return_type", .str goType),
    ("method_return", .str f.name), ("config", g.settings.value),
    ("template_config", paramsValue variant.params)]

/-- What one variant of a field writes: the declaration and the method. -/
def renderFieldVariant (g : Generator) (files : Files) (f : SchemaField) (owner : SchemaType)
    (goType : String) (variant : Variant) : Run (String × String) :=
  Run.tagged
    { typeName? := some owner.name, fieldName? := some f.name, variant? := some variant.name } do
    let template ← Run.found .field variant.name (g.store.fieldTemplate? files variant.name)
    let engine := g.store.engine files
    let declaration ← Run.render ("field/" ++ variant.name)
      (engine.render template.declaration (g.declarationContext f owner.kind goType variant))
    let method ← Run.render ("field/" ++ variant.name ++ TemplateStore.methodSuffix)
      (engine.render template.method (g.methodContext f owner goType variant))
    return (declaration, method)

/-- What variants write one after another. Each brings the imports of the field. -/
def renderVariants (g : Generator) (files : Files) (f : SchemaField) (owner : SchemaType)
    (goType : String) : List Variant → Run RenderedField
  | [] => return {}
  | variant :: rest => do
    let (declaration, method) ← g.renderFieldVariant files f owner goType variant
    let others ← g.renderVariants files f owner goType rest
    return {
      declaration := declaration ++ others.declaration
      method := method ++ others.method
      imports := importsFor g.scalars f.type ++ others.imports }

/-- A field under the settings of its type. -/
def renderField (g : Generator) (files : Files) (f : SchemaField) (owner : SchemaType)
    (typeSettings : TypeSettings) : Run RenderedField := do
  let goType ← g.fieldType f.type
  g.renderVariants files f owner goType (typeSettings.field f.name).templates

section

variable {g g' : Generator} {files : Files} {f f' : SchemaField} {owner owner' : SchemaType}
  (hscalars : g.scalars = g'.scalars) (htype : f.type = f'.type)

include hscalars htype

theorem renderVariants_congr {goType : String} {variants : List Variant}
    (h : ∀ v ∈ variants, g.renderFieldVariant files f owner goType v =
      g'.renderFieldVariant files f' owner' goType v) :
    g.renderVariants files f owner goType variants =
      g'.renderVariants files f' owner' goType variants := by
  induction variants with
  | nil => simp only [renderVariants]
  | cons v rest ih =>
    obtain ⟨hv, hrest⟩ := List.forall_mem_cons.mp h
    rw [renderVariants, renderVariants, hv, ih hrest, hscalars, htype]

/-- A field of one generator is rendered like one of another if each of its variants is. -/
theorem renderField_congr {typeSettings : TypeSettings} (hname : f.name = f'.name)
    (h : ∀ goType, ∀ v ∈ (typeSettings.field f.name).templates,
      g.renderFieldVariant files f owner goType v =
        g'.renderFieldVariant files f' owner' goType v) :
    g.renderField files f owner typeSettings = g'.renderField files f' owner' typeSettings := by
  have hvariants (goType : String) := renderVariants_congr hscalars htype (h goType)
  have hgoType : g.fieldType f.type = g'.fieldType f'.type := by
    rw [fieldType, fieldType, hscalars, htype]
  unfold renderField
  rw [hgoType, ← hname]
  exact bind_congr hvariants

end

/-! ## Types -/

/-- Whether two imports count as one: texts that are equal, or numbers of one size. A number that is
not one counts as itself. -/
def isSameImport (a b : Json) : Bool :=
  match a, b with
  | .float x, .float y => x = y || Value.same (.float x) (.float y)
  | a, b => Value.same (.ofJson a) (.ofJson b)

@[simp] theorem isSameImport_str (s t : String) :
    isSameImport (.str s) (.str t) = decide (s = t) := by
  simp [isSameImport, Value.ofJson, Value.same]

/-- First occurrences of imports, in order. -/
def distinctImports (imports : List Json) : List Json :=
  imports.foldl (fun acc item => if acc.any (isSameImport · item) then acc else acc ++ [item]) []

/-- A list or an object cannot be told from others of its kind. -/
def isComparable : Json → Bool
  | .arr _ | .obj _ => false
  | _ => true

def checkImports (imports : List Json) : Run Unit :=
  if imports.all isComparable then return () else throw (.breakdown .wrongKind)

/-- What a type template sees. -/
def typeContext (g : Generator) (t : SchemaType) (fields : List RenderedField) (variant : Variant) :
    Table Value :=
  [("kind", .str t.kind.label), ("possible_types", Value.texts t.possibleNames),
    ("type_name", .str t.name), ("type_description", .str (t.description?.getD "")),
    ("config", g.settings.value), ("fields", Value.texts (fields.map (·.declaration))),
    ("methods", Value.texts (fields.map (·.method))),
    ("imports", .list ((distinctImports (fields.flatMap (·.imports))).map Value.ofJson)),
    ("template_config", paramsValue variant.params)]

/-- What one variant of a type writes around its fields. -/
def renderTypeVariant (g : Generator) (files : Files) (t : SchemaType)
    (fields : List RenderedField) (variant : Variant) : Run String :=
  Run.tagged { typeName? := some t.name, variant? := some variant.name } do
    let body ← Run.found .type variant.name (g.store.typeTemplate? files variant.name)
    Run.render ("type/" ++ variant.name)
      ((g.store.engine files).render body (g.typeContext t fields variant))

/-- The final form of a source text; a refusal belongs to the type, if one is given. -/
def formatCode (g : Generator) (programs : Programs) (code : String) (typeName? : Option String) :
    Run String :=
  match g.formatter.format programs code with
  | .ok text => return text
  | .error fault => do
    Run.record (fault.records code)
    Run.fail (.formatting { cause := fault, location := { typeName? } })

/-- The file of a type. -/
def renderType (g : Generator) (files : Files) (programs : Programs) (t : SchemaType) :
    Run String := do
  let typeSettings := g.settings.type t.name
  let fields ← t.fields.mapM fun f => g.renderField files f t typeSettings
  checkImports (fields.flatMap (·.imports))
  let parts ← typeSettings.templates.mapM (g.renderTypeVariant files t fields)
  g.formatCode programs (String.join parts) (some t.name)

/-! ## Runs -/

/-- What names of types that are not generated begin with. -/
def internalMark : Char := '_'

def unsupportedKinds : List TypeKind := [.enum, .inputObject, .union]

/-- The name of the file of a type. -/
def fileName (g : Generator) (typeName : String) : String :=
  Text.onChars Text.lower typeName ++ g.settings.fileSuffix.plain ++ fileExtension

/-- Whether a type is left out without a word: it is internal, or a scalar to skip. -/
def isSilent (g : Generator) (t : SchemaType) : Bool :=
  t.name.toList.head? = some internalMark || g.scalars.skips t.name

/-- The files of types, after those that are there already with their owners. -/
def generateFrom (g : Generator) (files : Files) (programs : Programs)
    (owners : Table String) : List SchemaType → Run (Table String)
  | [] => return []
  | t :: rest => do
    if g.isSilent t then
      g.generateFrom files programs owners rest
    else if t.kind ∈ unsupportedKinds then do
      Run.record [⟨.info, t.kind.label ++ " not supported yet, skipping " ++ t.name⟩]
      g.generateFrom files programs owners rest
    else do
      let file := g.fileName t.name
      match owners.get? file with
      | some owner => Run.fail (.collision owner t.name file)
      | none =>
        Run.record [⟨.info, "Generating Go code for " ++ t.kind.label ++ " " ++ t.name⟩]
        let text ← g.renderType files programs t
        let others ← g.generateFrom files programs (owners.put file t.name) rest
        return (file, text) :: others

/-- The files of a schema by name, in the order of its types. -/
def generate (g : Generator) (files : Files) (programs : Programs) (schema : Schema) :
    Run (Table String) :=
  g.generateFrom files programs [] schema.types

end Generator

end ResolverGen.Go
