import ResolverGen.Go.Generator
import ResolverGen.Proofs.Runs

/-!
# The steps of rendering a type

A file is rendered in steps on a common draft: the fields in order, each with its Go type and then
variant by variant, the imports, the variants of the type, and the final form. Rendering a type is the
same work as taking these steps one after another, whatever formatter stands at the end.
-/
namespace ResolverGen.Go

open Template

inductive Step where
  /-- The Go type of a field. -/
  | fieldType (f : SchemaField)
  | fieldLookup (f : SchemaField) (variant : Variant)
  | declaration (f : SchemaField) (variant : Variant)
  | method (f : SchemaField) (variant : Variant)
  /-- What the fields import, each once. -/
  | imports
  | typeLookup (variant : Variant)
  | typeText (variant : Variant)
  | format

/-- The steps of one variant of a field. -/
def Step.ofFieldVariant (f : SchemaField) (variant : Variant) : List Step :=
  [.fieldLookup f variant, .declaration f variant, .method f variant]

/-- The steps of one variant of a type. -/
def Step.ofTypeVariant (variant : Variant) : List Step := [.typeLookup variant, .typeText variant]

/-- Where in a type a step belongs, for steps that tell it. -/
def Step.place? (t : SchemaType) : Step → Option Location
  | .fieldLookup f variant | .declaration f variant | .method f variant =>
    some { typeName? := some t.name, fieldName? := some f.name, variant? := some variant.name }
  | .typeLookup variant | .typeText variant =>
    some { typeName? := some t.name, variant? := some variant.name }
  | .fieldType _ | .imports | .format => none

namespace Generator

/-- What fields write, one thing after another. -/
def RenderedField.append (a b : RenderedField) : RenderedField where
  declaration := a.declaration ++ b.declaration
  method := a.method ++ b.method
  imports := a.imports ++ b.imports

@[simp] theorem RenderedField.append_empty (a : RenderedField) : a.append {} = a := by
  simp [append]

@[simp] theorem RenderedField.empty_append (a : RenderedField) : append {} a = a := by
  simp [append]

/-- A declaration and then a method, before what is still to come. -/
theorem RenderedField.append_parts (a more : RenderedField) (declaration method : String)
    (imports : List Json) :
    ((a.append { declaration }).append { method, imports }).append more =
      a.append {
        declaration := declaration ++ more.declaration
        method := method ++ more.method
        imports := imports ++ more.imports } := by
  simp [append, String.append_assoc]

/-- What has been rendered of a type so far. -/
structure Draft where
  /-- The fields that were begun, the last one first. -/
  fields : List RenderedField := []
  /-- The Go type of the last field. -/
  goType : String := ""
  /-- The bodies of the last field variant. -/
  bodies : TemplateStore.FieldTemplate := ⟨"", ""⟩
  /-- The body of the last type variant. -/
  body : String := ""
  text : String := ""

namespace Draft

def begin (d : Draft) (goType : String) : Draft := { d with goType, fields := {} :: d.fields }

/-- Something more of the last field. -/
def extend (d : Draft) (more : RenderedField) : Draft :=
  { d with fields := d.fields.modifyHead (·.append more) }

/-- What later fields and variants see of a draft. -/
def kept (d : Draft) : List RenderedField × String := (d.fields, d.text)

end Draft

/-- The steps of a field: its Go type, and each of its variants. -/
def fieldSteps (g : Generator) (t : SchemaType) (f : SchemaField) : List Step :=
  .fieldType f ::
    ((g.settings.type t.name).field f.name).templates.flatMap (Step.ofFieldVariant f)

def typeSteps (g : Generator) (t : SchemaType) : List Step :=
  (g.settings.type t.name).templates.flatMap Step.ofTypeVariant

/-- The steps behind the fields. -/
def closingSteps (g : Generator) (t : SchemaType) : List Step :=
  .imports :: (g.typeSteps t ++ [.format])

def steps (g : Generator) (t : SchemaType) : List Step :=
  t.fields.flatMap (g.fieldSteps t) ++ g.closingSteps t

variable (g : Generator) (files : Files) (format : String → Run String) (t : SchemaType)

/-- What a step does to a draft, without telling where it belongs. -/
def work (d : Draft) : Step → Run Draft
  | .fieldType f => return d.begin (← g.fieldType f.type)
  | .fieldLookup _ variant =>
    return { d with
      bodies := ← Run.found .field variant.name (g.store.fieldTemplate? files variant.name) }
  | .declaration f variant => do
    let text ← Run.render ("field/" ++ variant.name)
      ((g.store.engine files).render d.bodies.declaration
        (g.declarationContext f t.kind d.goType variant))
    return d.extend { declaration := text }
  | .method f variant => do
    let text ← Run.render ("field/" ++ variant.name ++ TemplateStore.methodSuffix)
      ((g.store.engine files).render d.bodies.method (g.methodContext f t d.goType variant))
    return d.extend { method := text, imports := importsFor g.scalars f.type }
  | .imports => do
    checkImports (d.fields.reverse.flatMap (·.imports))
    return d
  | .typeLookup variant =>
    return { d with
      body := ← Run.found .type variant.name (g.store.typeTemplate? files variant.name) }
  | .typeText variant => do
    let text ← Run.render ("type/" ++ variant.name)
      ((g.store.engine files).render d.body (g.typeContext t d.fields.reverse variant))
    return { d with text := d.text ++ text }
  | .format => return { d with text := ← format d.text }

/-- A step on a draft. Failures to find or to render a template tell where it belongs. -/
def perform (d : Draft) (step : Step) : Run Draft :=
  match step.place? t with
  | some l => Run.tagged l (g.work files format t d step)
  | none => g.work files format t d step

/-- The file of a type, in the final form that any formatter gives it. -/
def renderTypeWith : Run String := do
  let typeSettings := g.settings.type t.name
  let fields ← t.fields.mapM fun f => g.renderField files f t typeSettings
  checkImports (fields.flatMap (·.imports))
  let parts ← typeSettings.templates.mapM (g.renderTypeVariant files t fields)
  format (String.join parts)

/-- The final form that the generator's own formatter gives the text of a type. -/
def ownFormat (programs : Programs) (code : String) : Run String :=
  g.formatCode programs code (some t.name)

theorem renderType_eq (programs : Programs) :
    g.renderType files programs t = g.renderTypeWith files (g.ownFormat t programs) t := rfl

/-- Work on a draft that only looks at what is kept of it. -/
theorem bind_of_kept {α : Type} {before : Run Draft} {next : Draft → Run α}
    {k : List RenderedField × String → Run α} (h : ∀ d, next d = k d.kept) :
    before >>= next = Draft.kept <$> before >>= k := by
  rw [bind_map_left]
  exact bind_congr h

/-! ## Fields -/

/-- The steps of field variants write what the variants do, behind what is there of the field. -/
theorem kept_variantSteps (f : SchemaField) (variants : List Variant) (r : RenderedField)
    (rest : List RenderedField) (goType : String) (bodies : TemplateStore.FieldTemplate)
    (body text : String) :
    Draft.kept <$> (variants.flatMap (Step.ofFieldVariant f)).foldlM (g.perform files format t)
        ⟨r :: rest, goType, bodies, body, text⟩ =
      (fun more => (r.append more :: rest, text)) <$>
        g.renderVariants files f t goType variants := by
  induction variants generalizing r bodies with
  | nil => simp [renderVariants, Draft.kept]
  | cons variant variants ih =>
    rw [List.flatMap_cons, List.foldlM_append, renderVariants, renderFieldVariant]
    simp only [Step.ofFieldVariant, List.foldlM_cons, List.foldlM_nil, perform, Step.place?, work,
      map_bind, bind_assoc, pure_bind, tagged_bind, tagged_pure]
    refine bind_congr fun bodies => bind_congr fun declaration => bind_congr fun method => ?_
    refine (ih _ bodies).trans ?_
    simp only [RenderedField.append_parts, map_eq_pure_bind, pure_bind]

theorem kept_fieldSteps (f : SchemaField) (d : Draft) :
    Draft.kept <$> (g.fieldSteps t f).foldlM (g.perform files format t) d =
      (fun r => (r :: d.fields, d.text)) <$>
        g.renderField files f t (g.settings.type t.name) := by
  rw [fieldSteps, List.foldlM_cons, renderField]
  simp only [perform, Step.place?, work, map_bind, bind_assoc, pure_bind]
  refine bind_congr fun goType => ?_
  refine (g.kept_variantSteps files format t f _ {} _ goType _ _ _).trans ?_
  simp only [RenderedField.empty_append]

/-- The steps of fields render them, behind the fields that are there. -/
theorem kept_fieldsSteps (fields : List SchemaField) (d : Draft) :
    Draft.kept <$> (fields.flatMap (g.fieldSteps t)).foldlM (g.perform files format t) d =
      (fun rendered => (rendered.reverse ++ d.fields, d.text)) <$>
        fields.mapM fun f => g.renderField files f t (g.settings.type t.name) := by
  induction fields generalizing d with
  | nil => simp [Draft.kept]
  | cons f fields ih =>
    -- the fields behind the first see of it what is kept
    rw [List.flatMap_cons, List.foldlM_append, List.mapM_cons, map_bind,
      bind_of_kept (k := fun k => (fun rendered => (rendered.reverse ++ k.1, k.2)) <$>
        fields.mapM fun f => g.renderField files f t (g.settings.type t.name)) ih, kept_fieldSteps]
    simp only [map_eq_pure_bind, bind_assoc, pure_bind, List.reverse_cons, List.append_assoc,
      List.singleton_append]

/-! ## The type -/

/-- The steps of type variants write what the variants do, behind the text that is there. -/
theorem kept_typeSteps (variants : List Variant) (d : Draft) :
    Draft.kept <$> (variants.flatMap Step.ofTypeVariant).foldlM (g.perform files format t) d =
      (fun parts => (d.fields, d.text ++ String.join parts)) <$>
        variants.mapM (g.renderTypeVariant files t d.fields.reverse) := by
  induction variants generalizing d with
  | nil => simp [Draft.kept]
  | cons variant variants ih =>
    rw [List.flatMap_cons, List.foldlM_append, List.mapM_cons, renderTypeVariant]
    simp only [Step.ofTypeVariant, List.foldlM_cons, List.foldlM_nil, perform, Step.place?, work,
      map_bind, bind_assoc, pure_bind, tagged_bind, tagged_pure]
    refine bind_congr fun body => bind_congr fun part => ?_
    refine (ih _).trans ?_
    simp only [map_eq_pure_bind, pure_bind, String.join_cons, String.append_assoc]

/-- What becomes of the fields that are there. -/
theorem text_closingSteps (d : Draft) :
    Draft.text <$> (g.closingSteps t).foldlM (g.perform files format t) d = (do
      checkImports (d.fields.reverse.flatMap (·.imports))
      let parts ← (g.settings.type t.name).templates.mapM
        (g.renderTypeVariant files t d.fields.reverse)
      format (d.text ++ String.join parts)) := by
  have hformat : ∀ d, Draft.text <$> g.perform files format t d .format = format d.text := by
    intro d
    simp [perform, Step.place?, work]
  rw [closingSteps, List.foldlM_cons, perform, Step.place?, work]
  simp only [List.foldlM_append, List.foldlM_cons, List.foldlM_nil, bind_assoc, pure_bind, bind_pure,
    map_bind, hformat]
  refine bind_congr fun _ => ?_
  refine (bind_of_kept (k := fun k => format k.2) fun _ => rfl).trans ?_
  rw [typeSteps, kept_typeSteps, bind_map_left]

/-- Rendering a type takes its steps one after another, from an empty draft. -/
theorem renderTypeWith_eq_steps :
    g.renderTypeWith files format t =
      Draft.text <$> (g.steps t).foldlM (g.perform files format t) {} := by
  rw [steps, List.foldlM_append, map_bind,
    bind_of_kept (k := fun k => do
      checkImports (k.1.reverse.flatMap (·.imports))
      let parts ← (g.settings.type t.name).templates.mapM
        (g.renderTypeVariant files t k.1.reverse)
      format (k.2 ++ String.join parts)) (g.text_closingSteps files format t),
    kept_fieldsSteps, bind_map_left]
  simp only [List.append_nil, List.reverse_reverse, String.empty_append]
  rfl

end Generator

end ResolverGen.Go
