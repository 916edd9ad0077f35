import ResolverGen.Proofs.Go.DefaultRendering

/-!
# Types in other words

What is said about a type and its fields does not decide which variants it has, whether it can be
rendered, what it imports, and which methods it gets. Only the names and types of the fields do.
-/
namespace ResolverGen.Go

open Go.Generator

/-- A change of fields that keeps their names and types. -/
def KeepsTypes (p : SchemaField → SchemaField) : Prop :=
  ∀ f, (p f).name = f.name ∧ (p f).type = f.type

/-- A type with another description and with its fields changed. -/
def reworded (description? : Option String) (p : SchemaField → SchemaField) (t : SchemaType) :
    SchemaType :=
  { t with description?, fields := t.fields.map p }

variable {g : Generator} {t : SchemaType} {description? : Option String}
  {p : SchemaField → SchemaField}

theorem forall_mem_reworded (q : SchemaField → Prop) :
    (∀ f ∈ (reworded description? p t).fields, q f) ↔ ∀ f ∈ t.fields, q (p f) :=
  List.forall_mem_map

theorem rendersByDefault_reworded_iff (hp : KeepsTypes p) :
    RendersByDefault g (reworded description? p t) ↔ RendersByDefault g t := by
  have hfields : (∀ f ∈ (reworded description? p t).fields, ∃ v : Variant,
      ((g.settings.type t.name).field f.name).templates = [v] ∧ v.name = "default") ↔ _ :=
    forall_mem_reworded _
  simp only [(hp _).1] at hfields
  constructor
  · exact fun h => ⟨h.type, hfields.mp h.fields⟩
  · exact fun h => ⟨h.type, hfields.mpr h.fields⟩

theorem flatMap_imports_reworded (hp : KeepsTypes p) :
    (variantFields g (reworded description? p t)).flatMap (·.imports) =
      (variantFields g t).flatMap (·.imports) := by
  unfold variantFields reworded variantField
  simp [List.flatMap_map, (hp _).1, (hp _).2]

/-- Whether a type can be rendered does not depend on what is said about it. -/
theorem hasParts_reworded_iff (hp : KeepsTypes p) :
    g.HasParts (reworded description? p t) ↔ g.HasParts t := by
  have hconfigured (v : Variant) :
      configuredParts g (reworded description? p t) v = configuredParts g t v := by
    unfold configuredParts
    rw [flatMap_imports_reworded hp]
    rfl
  have hname : (reworded description? p t).name = t.name := rfl
  rw [hasParts_iff, hasParts_iff, flatMap_imports_reworded hp, forall_mem_reworded]
  simp only [hconfigured, hname, (hp _).2]

theorem fieldImports_reworded (hp : KeepsTypes p) :
    g.fieldImports (reworded description? p t) = g.fieldImports t := by
  unfold fieldImports reworded
  simp [List.flatMap_map, (hp _).2]

/-- The methods of a type do not depend on what is said about it. -/
theorem methods_reworded (hp : KeepsTypes p) {goType : SchemaField → String}
    (hgo : ∀ f, goType (p f) = goType f) :
    (packagedFields g (reworded description? p t) goType).map (·.method) =
      (packagedFields g t goType).map (·.method) := by
  unfold packagedFields reworded
  rw [List.map_map, List.map_map, List.map_map]
  refine List.map_congr_left fun f _ => ?_
  simp only [Function.comp_apply, packagedField, hgo, (hp f).1]

end ResolverGen.Go
