import ResolverGen.Proofs.Go.VariantRendering

/-!
# Rendering with the default variants

A type that has the default variant and no other, and whose fields do too, comes to what the default
templates write for it, be it configured so or not configured at all.
-/
namespace ResolverGen.Go

open Go.Generator

variable {g : Generator} {t : SchemaType} {f : SchemaField} {goType : String}

/-- A type and each of its fields have the default variant and no other, under any parameters. -/
structure RendersByDefault (g : Generator) (t : SchemaType) : Prop where
  type : ∃ v : Variant, (g.settings.type t.name).templates = [v] ∧ v.name = "default"
  fields : ∀ f ∈ t.fields, ∃ v : Variant,
    ((g.settings.type t.name).field f.name).templates = [v] ∧ v.name = "default"

theorem rendersByDefault_of_unset (h : g.settings.types.get? t.name = none) :
    RendersByDefault g t := by
  have hsettings : g.settings.type t.name = {} := by
    unfold Settings.type
    rw [h]
    rfl
  constructor
  · rw [hsettings]
    exact ⟨defaultVariant, rfl, rfl⟩
  · intro f _
    rw [hsettings]
    exact ⟨defaultVariant, rfl, rfl⟩

/-- A type and its fields use the default variant and no other, be it once or more often. -/
structure UsesDefault (g : Generator) (t : SchemaType) : Prop where
  given : (g.settings.type t.name).templates ≠ []
  types : ∀ v ∈ (g.settings.type t.name).templates, v.name = "default"
  fields : ∀ f ∈ t.fields, ∀ v ∈ ((g.settings.type t.name).field f.name).templates,
    v.name = "default"

theorem UsesDefault.usesPackaged (h : UsesDefault g t) : g.UsesPackaged t := by
  constructor
  · intro v hv
    rw [h.types v hv]
    decide
  · intro f hf v hv
    rw [h.fields f hf v hv]
    decide

theorem RendersByDefault.usesDefault (h : RendersByDefault g t) : UsesDefault g t := by
  obtain ⟨v, hv, hname⟩ := h.type
  constructor
  · rw [hv]
    exact List.cons_ne_nil v []
  · rw [hv]
    intro w hw
    rwa [List.mem_singleton.mp hw]
  · intro f hf
    obtain ⟨v, hv, hname⟩ := h.fields f hf
    rw [hv]
    intro w hw
    rwa [List.mem_singleton.mp hw]

theorem RendersByDefault.usesPackaged (h : RendersByDefault g t) : g.UsesPackaged t :=
  h.usesDefault.usesPackaged

theorem usesDefault_of_unset (h : g.settings.types.get? t.name = none) : UsesDefault g t :=
  (rendersByDefault_of_unset h).usesDefault

/-- Under the default variant a field is written as it is without settings. -/
theorem variantField_default {v : Variant} (hv : v.name = "default") :
    variantField g t f goType [v] = packagedField g t f goType := by
  have hne : v.name ≠ "setter" := by
    rw [hv]
    decide
  unfold variantField variantDeclaration variantMethod packagedField
  simp [hne, String.join_cons]

theorem RendersByDefault.variantFields_eq (h : RendersByDefault g t) :
    variantFields g t = packagedFields g t fun f => goTypeOf g.scalars f.type := by
  unfold variantFields packagedFields
  refine List.map_congr_left fun f hf => ?_
  obtain ⟨v, hv, hname⟩ := h.fields f hf
  rw [hv, variantField_default hname]

theorem RendersByDefault.variantCode_eq (h : RendersByDefault g t) :
    g.variantCode t =
      g.packagedCode g.settings.packageName.plain t fun f => goTypeOf g.scalars f.type := by
  obtain ⟨v, hv, hname⟩ := h.type
  have hne : v.name ≠ "constructor" := by
    rw [hname]
    decide
  unfold variantCode variantText packagedCode fieldImports
  rw [hv, h.variantFields_eq, flatMap_imports]
  simp [hne, String.join_cons]

end ResolverGen.Go
