import ResolverGen.Proofs.Go.SilentRuns
import ResolverGen.Proofs.Go.VariantRendering
import ResolverGen.Proofs.Template.RecordParts

/-!
# Templates that do not show which variants are configured

Templates see the settings, and so the very variants that they belong to. What a variant writes is
the same whichever variants are configured beside it, if its templates write the same. The packaged
ones do: they look at other settings only, and that can be checked on their statements.
-/
namespace ResolverGen

open Template

def Settings.withTypes (s : Settings) (types : Table TypeSettings) : Settings := { s with types }

/-- Settings of types with variants for one of them, whose fields are configured as they were. -/
def Settings.typesUnder (s : Settings) (typeName : String) (variants : List Variant) :
    Table TypeSettings :=
  s.types.put typeName (.ofVariants variants (s.type typeName).fields)

/-- Settings of a type with variants for one of its fields. -/
def TypeSettings.withFieldVariants (t : TypeSettings) (fieldName : String)
    (variants : List Variant) : TypeSettings :=
  { t with fields := t.fields.put fieldName (.ofVariants variants) }

/-- Settings of types with variants for a field of one of them. -/
def Settings.typesUnderField (s : Settings) (typeName fieldName : String)
    (variants : List Variant) : Table TypeSettings :=
  s.types.put typeName ((s.type typeName).withFieldVariants fieldName variants)

theorem Settings.type_withTypes_put (s : Settings) (types : Table TypeSettings) (typeName : String)
    (t : TypeSettings) : (s.withTypes (types.put typeName t)).type typeName = t := by
  change ((types.put typeName t).get? typeName).getD {} = t
  rw [Table.get?_put, if_pos rfl]
  rfl

theorem Settings.type_typesUnder (s : Settings) (typeName : String) {variants : List Variant}
    (h : variants ≠ []) : (s.withTypes (s.typesUnder typeName variants)).type typeName =
      ⟨variants, (s.type typeName).fields⟩ := by
  rw [typesUnder, type_withTypes_put, TypeSettings.ofVariants, orDefault_of_ne_nil h]

theorem TypeSettings.field_withFieldVariants (t : TypeSettings) (fieldName : String)
    {variants : List Variant} (h : variants ≠ []) :
    ((t.withFieldVariants fieldName variants).field fieldName).templates = variants := by
  rw [TypeSettings.field, TypeSettings.withFieldVariants, Table.get?_put, if_pos rfl]
  exact orDefault_of_ne_nil h

namespace Go.Generator

/-! ## What is asked of templates -/

/-- A generator with other settings of types. -/
def withTypes (g : Generator) (types : Table TypeSettings) : Generator :=
  { g with settings := g.settings.withTypes types }

variable {g : Generator} {files : Files} {configured : List Variant → Table TypeSettings}
  {v : Variant}

/-- A source writes the same whichever variants are configured. -/
def Ignores (g : Generator) (files : Files) (configured : List Variant → Table TypeSettings)
    (source : String) : Prop :=
  ∀ (context : Table Value) (vs ws : List Variant),
    (g.store.engine files).render source
        (context.put "config" (g.settings.withTypes (configured vs)).value) =
      (g.store.engine files).render source
        (context.put "config" (g.settings.withTypes (configured ws)).value)

/-- The template of a variant of types, if there is one, does not show which are configured. -/
def VariantIgnores (g : Generator) (files : Files)
    (configured : List Variant → Table TypeSettings) (v : Variant) : Prop :=
  ∀ body, g.store.typeTemplate? files v.name = .ok (some body) → g.Ignores files configured body

/-- The templates of a variant of fields, if there are any, do not show which are configured. -/
def FieldVariantIgnores (g : Generator) (files : Files)
    (configured : List Variant → Table TypeSettings) (v : Variant) : Prop :=
  ∀ template, g.store.fieldTemplate? files v.name = .ok (some template) →
    g.Ignores files configured template.declaration ∧ g.Ignores files configured template.method

/-! ## What variants write -/

theorem declarationContext_withTypes (types : Table TypeSettings) (f : SchemaField)
    (kind : TypeKind) (goType : String) (v : Variant) :
    (g.withTypes types).declarationContext f kind goType v =
      (g.declarationContext f kind goType v).put "config" (g.settings.withTypes types).value := by
  simp [declarationContext, withTypes, Table.put]

theorem methodContext_withTypes (types : Table TypeSettings) (f : SchemaField)
    (owner : SchemaType) (goType : String) (v : Variant) :
    (g.withTypes types).methodContext f owner goType v =
      (g.methodContext f owner goType v).put "config" (g.settings.withTypes types).value := by
  simp [methodContext, withTypes, Table.put]

theorem typeContext_withTypes (types : Table TypeSettings) (t : SchemaType)
    (fields : List RenderedField) (v : Variant) :
    (g.withTypes types).typeContext t fields v =
      (g.typeContext t fields v).put "config" (g.settings.withTypes types).value := by
  simp [typeContext, withTypes, Table.put]

variable (vs ws : List Variant)

theorem renderFieldVariant_configured (h : g.FieldVariantIgnores files configured v)
    (f : SchemaField) (owner : SchemaType) (goType : String) :
    (g.withTypes (configured vs)).renderFieldVariant files f owner goType v =
      (g.withTypes (configured ws)).renderFieldVariant files f owner goType v := by
  have hstore (us : List Variant) : (g.withTypes (configured us)).store = g.store := rfl
  unfold renderFieldVariant
  simp only [hstore]
  refine congrArg (Run.tagged _) (found_bind_congr fun template htemplate => ?_)
  obtain ⟨hdeclaration, hmethod⟩ := h template htemplate
  simp only [declarationContext_withTypes, methodContext_withTypes, hdeclaration _ vs ws,
    hmethod _ vs ws]

theorem renderField_configured {f : SchemaField} {typeSettings : TypeSettings}
    (h : ∀ v ∈ (typeSettings.field f.name).templates, g.FieldVariantIgnores files configured v)
    (owner : SchemaType) :
    (g.withTypes (configured vs)).renderField files f owner typeSettings =
      (g.withTypes (configured ws)).renderField files f owner typeSettings := by
  have hscalars : (g.withTypes (configured vs)).scalars = (g.withTypes (configured ws)).scalars :=
    rfl
  exact renderField_congr hscalars rfl rfl fun goType v hv =>
    renderFieldVariant_configured vs ws (h v hv) f owner goType

theorem renderTypeVariant_configured (h : g.VariantIgnores files configured v) (t : SchemaType)
    (fields : List RenderedField) :
    (g.withTypes (configured vs)).renderTypeVariant files t fields v =
      (g.withTypes (configured ws)).renderTypeVariant files t fields v := by
  have hstore (us : List Variant) : (g.withTypes (configured us)).store = g.store := rfl
  unfold renderTypeVariant
  simp only [hstore]
  refine congrArg (Run.tagged _) (found_bind_congr fun body hbody => ?_)
  simp only [typeContext_withTypes, h body hbody _ vs ws]

/-! ## The packaged templates -/

/-- The parts of the settings that hold those of types. -/
def configuredTypes : RecordParts where
  record := "config"
  keys := ["types", "type_config"]
  place := by decide

theorem attributeOf_settings_withTypes (settings : Settings) (types types' : Table TypeSettings)
    {key : String} (hkey : key ∉ configuredTypes.keys) :
    attributeOf (settings.withTypes types).value key =
      attributeOf (settings.withTypes types').value key := by
  have htypes : (key == "types") = false := by
    simpa using fun h => hkey (by simp [h, configuredTypes])
  have hmethod : key ≠ "type_config" := fun h => hkey (by simp [h, configuredTypes])
  simp [attributeOf, ownAttribute?, held?, noAttribute, Settings.value, Settings.withTypes,
    List.lookup_cons, htypes, methodNames, hmethod, Value.ownerName]

/-- A source whose statements look at other settings only does not show those of types. -/
theorem ignores_of_keepsTo {source : String}
    (h : ∀ body, (g.store.engine files).compile source = .ok body →
      bodyKeepsTo configuredTypes.likeness body = true) : g.Ignores files configured source := by
  intro context vs ws
  refine Engine.render_eq_of_alike h ⟨fun x hx => ?_, fun key hkey => ?_⟩ ?_
  · have hname : x ≠ "config" := hx
    rw [lookupName_put, lookupName_put, if_neg hname, if_neg hname]
  · change attributeOf (lookupName _ "config") key = attributeOf (lookupName _ "config") key
    rw [lookupName_put, lookupName_put, if_pos rfl, if_pos rfl]
    exact attributeOf_settings_withTypes g.settings _ _ hkey
  · rw [Bool.eq_iff_iff, Table.has_iff, Table.has_iff, Table.keys_put, Table.keys_put]

theorem keepsTo_packaged {body : List Stmt} (h : body ∈ packagedBodies) :
    bodyKeepsTo configuredTypes.likeness body = true := by
  have hall : ∀ b ∈ packagedBodies, bodyKeepsTo configuredTypes.likeness b = true := by decide
  exact hall body h

theorem IsPackaged.variantIgnores (h : g.IsPackaged) (v : Variant) :
    g.VariantIgnores files configured v := by
  intro source hsource
  obtain ⟨entry, hentry, rfl⟩ := mem_of_typeTemplate h hsource
  exact ignores_of_keepsTo fun body hbody =>
    keepsTo_packaged (mem_packagedBodies (h.ownFilters files) hentry hbody)

theorem IsPackaged.fieldVariantIgnores (h : g.IsPackaged) (hv : v.name ∈ fieldVariants) :
    g.FieldVariantIgnores files configured v := by
  have he := h.ownFilters files
  have hread {source : String} {body : List Stmt} (hb : body ∈ packagedBodies)
      (hcompile : (g.store.engine files).compile source = .ok body) :
      g.Ignores files configured source := by
    refine ignores_of_keepsTo fun body' hbody' => ?_
    rw [← Except.ok.inj (hcompile.symm.trans hbody')]
    exact keepsTo_packaged hb
  intro template htemplate
  simp only [fieldVariants, List.mem_cons, List.not_mem_nil, or_false] at hv
  rcases hv with hv | hv
  · rw [hv, show "default" = defaultVariant.name from rfl, h.fieldTemplate files] at htemplate
    obtain rfl := Option.some.inj (Except.ok.inj htemplate)
    exact ⟨hread (by simp [packagedBodies]) (readsPackaged he).ofField,
      hread (by simp [packagedBodies]) (readsPackaged he).ofMethod⟩
  · rw [hv, h.setterTemplate files] at htemplate
    obtain rfl := Option.some.inj (Except.ok.inj htemplate)
    exact ⟨hread (by simp [packagedBodies]) (readsPackaged he).ofSetter,
      hread (by simp [packagedBodies]) (readsPackaged he).ofSetterMethod⟩

end Go.Generator

end ResolverGen
