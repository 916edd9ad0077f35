import ResolverGen.Proofs.Go.PackagedTexts
import ResolverGen.Proofs.Go.SteadyRendering

/-!
# Rendering with the packaged templates

What a generator comes to for a type that is not configured, when there are no templates beside the
packaged ones: the texts of its fields first, then the text of the type, then its final form.
-/
namespace ResolverGen.Go

open Template

namespace Generator

/-- A generator that has the packaged templates and no others. -/
structure IsPackaged (g : Generator) : Prop where
  store : g.store = templateStore g.settings
  noDirectory : g.settings.templateDir.isGiven = false

theorem isPackaged_make {settings : Settings} (h : settings.templateDir.isGiven = false)
    (formatter : Formatter) : (make settings formatter).IsPackaged where
  store := rfl
  noDirectory := h

variable {g : Generator} (files : Files)

/-! ## Looking templates up -/

theorem source_of_noDirectory {s : Settings} (h : s.templateDir.isGiven = false) (name : String) :
    (templateStore s).source files name =
      .ok ((Shelf.pieces? name).bind fun pieces =>
        packagedTemplates.get? ("/".intercalate pieces)) := by
  unfold TemplateStore.source templateStore shelves
  rw [h]
  simp only [Bool.false_eq_true, if_false, List.nil_append, TemplateStore.sourceOn, Shelf.source]
  cases (Shelf.pieces? name).bind fun pieces => packagedTemplates.get? ("/".intercalate pieces) with
  | none => rfl
  | some source => rfl

theorem IsPackaged.fieldTemplate (h : g.IsPackaged) :
    g.store.fieldTemplate? files defaultVariant.name =
      .ok (some ⟨TemplateStore.trimBody fieldDefault, fieldDefaultMethod⟩) := by
  have hdeclaration : (Shelf.pieces? "field/default.go.j2").bind (fun pieces =>
      packagedTemplates.get? ("/".intercalate pieces)) = some fieldDefault := by
    rw [show Shelf.pieces? "field/default.go.j2" = some ["field", "default.go.j2"] by
        rfl,
      Option.bind_some,
      show "/".intercalate ["field", "default.go.j2"] = "field/default.go.j2" by rfl]
    rfl
  have hmethod : (Shelf.pieces? "field/default.method.go.j2").bind (fun pieces =>
      packagedTemplates.get? ("/".intercalate pieces)) = some fieldDefaultMethod := by
    rw [show Shelf.pieces? "field/default.method.go.j2" = some ["field", "default.method.go.j2"] by
        rfl, Option.bind_some,
      show "/".intercalate ["field", "default.method.go.j2"] = "field/default.method.go.j2" by
        rfl]
    rfl
  rw [h.store]
  unfold TemplateStore.fieldTemplate?
  rw [source_of_noDirectory files h.noDirectory, source_of_noDirectory files h.noDirectory,
    show (templateStore g.settings).fileName .field defaultVariant.name = "field/default.go.j2" by
      change "field" ++ "/" ++ "default" ++ (".go" ++ ".j2") = _
      rfl,
    show (templateStore g.settings).fileName .field
        (defaultVariant.name ++ TemplateStore.methodSuffix) = "field/default.method.go.j2" by
      change "field" ++ "/" ++ ("default" ++ ".method") ++ (".go" ++ ".j2") = _
      rfl,
    hdeclaration, hmethod]
  rfl

theorem IsPackaged.typeTemplate (h : g.IsPackaged) :
    g.store.typeTemplate? files defaultVariant.name =
      .ok (some (TemplateStore.trimBody typeDefault)) := by
  have htype : (Shelf.pieces? "type/default.go.j2").bind (fun pieces =>
      packagedTemplates.get? ("/".intercalate pieces)) = some typeDefault := by
    rw [show Shelf.pieces? "type/default.go.j2" = some ["type", "default.go.j2"] by rfl,
      Option.bind_some,
      show "/".intercalate ["type", "default.go.j2"] = "type/default.go.j2" by rfl]
    rfl
  rw [h.store]
  unfold TemplateStore.typeTemplate?
  rw [source_of_noDirectory files h.noDirectory,
    show (templateStore g.settings).fileName .type defaultVariant.name = "type/default.go.j2" by
      change "type" ++ "/" ++ "default" ++ (".go" ++ ".j2") = _
      rfl,
    htype]
  rfl

theorem IsPackaged.ownFilters (h : g.IsPackaged) : (g.store.engine files).ownFilters = filters := by
  rw [h.store]
  rfl

/-! ## Fields -/

/-- What the packaged templates make of a field of a type. -/
def packagedField (g : Generator) (owner : SchemaType) (f : SchemaField) (goType : String) :
    RenderedField where
  declaration := declarationText g.settings.addComments.isGiven owner.kind f goType
  method := if owner.kind ≠ .interface then accessorText owner.name f.name goType else ""
  imports := importsFor g.scalars f.type

variable (f : SchemaField) (owner : SchemaType) (goType : String)

theorem packagedField_declaration (g : Generator) :
    (packagedField g owner f goType).declaration =
      declarationText g.settings.addComments.isGiven owner.kind f goType := by
  unfold packagedField
  rfl

theorem packagedField_method (g : Generator) (h : owner.kind ≠ .interface) :
    (packagedField g owner f goType).method = accessorText owner.name f.name goType := by
  unfold packagedField
  exact if_pos h

/-- The default variant of a field writes the same under any parameters. -/
theorem IsPackaged.settles_fieldVariantOf (h : g.IsPackaged) {variant : Variant}
    (hv : variant.name = defaultVariant.name) :
    Settles IsFaithful (g.renderFieldVariant files f owner goType variant)
      (.ok ((packagedField g owner f goType).declaration,
        (packagedField g owner f goType).method)) := by
  have hfilters := h.ownFilters files
  have hknown (other) : KnowsFilters ⟨(g.store.engine files).filters, none, other⟩ := by
    unfold KnowsFilters Engine.filters
    rw [hfilters]
  have hdeclaration := settles_render (readsPackaged hfilters).ofField (by rfl)
    fun other => writes_fieldBody (hknown other) g f owner.kind goType variant
  have hmethod := settles_render (readsPackaged hfilters).ofMethod (by rfl)
    fun other => writes_methodBody (hknown other) g f owner goType variant
  unfold renderFieldVariant
  refine Settles.tagged (r := .ok _) ?_ _
  rw [hv]
  refine (settles_found (h.fieldTemplate files)).bind ?_
  refine (hdeclaration.render _).bind ?_
  refine (hmethod.render _).bind ?_
  exact settles_pure _

theorem IsPackaged.settles_fieldVariant (h : g.IsPackaged) :
    Settles IsFaithful (g.renderFieldVariant files f owner goType defaultVariant)
      (.ok ((packagedField g owner f goType).declaration,
        (packagedField g owner f goType).method)) :=
  h.settles_fieldVariantOf files f owner goType rfl

theorem IsPackaged.settles_field (h : g.IsPackaged) {f : SchemaField} {goType : String}
    (ht : typeExpression g.scalars f.type = .ok goType) :
    Settles IsFaithful (g.renderField files f owner {}) (.ok (packagedField g owner f goType)) := by
  have htype : Settles IsFaithful (g.fieldType f.type) (.ok goType) := by
    unfold fieldType
    rw [ht]
    exact settles_pure goType
  unfold renderField
  refine htype.bind ?_
  change Settles IsFaithful (g.renderVariants files f owner goType [defaultVariant]) _
  rw [renderVariants, renderVariants]
  refine (h.settles_fieldVariant files f owner goType).bind ?_
  refine (settles_pure _).bind ?_
  change Settles IsFaithful
    (pure ⟨(packagedField g owner f goType).declaration ++ "",
      (packagedField g owner f goType).method ++ "",
      importsFor g.scalars f.type ++ []⟩ : Run RenderedField) _
  rw [String.append_empty, String.append_empty, List.append_nil]
  exact settles_pure _

/-! ## Types -/

/-- The fields of a type as the packaged templates render them, each with its Go type. -/
def packagedFields (g : Generator) (t : SchemaType) (goType : SchemaField → String) :
    List RenderedField :=
  t.fields.map fun f => packagedField g t f (goType f)

/-- The imports that the fields of a type need, each once. -/
def fieldImports (g : Generator) (t : SchemaType) : List Json :=
  distinctImports (t.fields.flatMap fun f => importsFor g.scalars f.type)

/-- What the packaged templates write for a type, before its final form. -/
def packagedCode (g : Generator) (package : String) (t : SchemaType)
    (goType : SchemaField → String) : String :=
  typeText package g.settings.addComments.isGiven t (g.fieldImports t)
    ((packagedFields g t goType).map (·.declaration)) ((packagedFields g t goType).map (·.method))

theorem flatMap_imports (g : Generator) (t : SchemaType) (goType : SchemaField → String) :
    (packagedFields g t goType).flatMap (·.imports) =
      t.fields.flatMap fun f => importsFor g.scalars f.type := by
  unfold packagedFields
  rw [List.flatMap_map]
  rfl

/-- An import that can be told from others and written out. -/
def IsPlainImport (imported : Json) : Prop :=
  isComparable imported = true ∧ textOf (.ofJson imported) = .ok imported.plain

theorem mem_of_mem_distinctImports {imports : List Json} {j : Json}
    (h : j ∈ distinctImports imports) : j ∈ imports := by
  have key : ∀ (rest acc : List Json),
      j ∈ rest.foldl (fun acc item =>
        if acc.any (isSameImport · item) then acc else acc ++ [item]) acc → j ∈ acc ∨ j ∈ rest := by
    intro rest
    induction rest with
    | nil =>
      intro acc hj
      exact Or.inl hj
    | cons item rest ih =>
      intro acc hj
      rw [List.foldl_cons] at hj
      rcases ih _ hj with hj | hj
      · split at hj
        · exact Or.inl hj
        · rw [List.mem_append, List.mem_singleton] at hj
          rcases hj with hj | rfl
          · exact Or.inl hj
          · exact Or.inr List.mem_cons_self
      · exact Or.inr (List.mem_cons_of_mem item hj)
  rcases key imports [] h with hj | hj
  · cases hj
  · exact hj

variable {t : SchemaType} {package : String}

theorem settles_checkImports {imports : List Json} (h : ∀ j ∈ imports, isComparable j = true) :
    Settles IsFaithful (checkImports imports) (.ok ()) := by
  unfold checkImports
  rw [if_pos (List.all_eq_true.mpr h)]
  exact settles_pure ()

/-- The default variant of a type writes the same under any parameters. -/
theorem IsPackaged.settles_typeVariantOf (h : g.IsPackaged) {v : Variant}
    (hv : v.name = defaultVariant.name) (fields : List RenderedField)
    (hpackage : textOf (.ofJson g.settings.packageName) = .ok package)
    (himports : ∀ j ∈ distinctImports (fields.flatMap (·.imports)),
      textOf (.ofJson j) = .ok j.plain) :
    Settles IsFaithful (g.renderTypeVariant files t fields v)
      (.ok (typeText package g.settings.addComments.isGiven t
        (distinctImports (fields.flatMap (·.imports))) (fields.map (·.declaration))
        (fields.map (·.method)))) := by
  have hfilters := h.ownFilters files
  have hknown (other) : KnowsFilters ⟨(g.store.engine files).filters, none, other⟩ := by
    unfold KnowsFilters Engine.filters
    rw [hfilters]
  have hwrites := settles_render (readsPackaged hfilters).ofType (by rfl) fun other =>
    writes_typeBody (hknown other) g t fields v hpackage himports
  unfold renderTypeVariant
  refine Settles.tagged (r := .ok _) ?_ _
  rw [hv]
  exact (settles_found (h.typeTemplate files)).bind (hwrites.render _)

/-- The packaged template of a type writes its text around what was written for the fields. -/
theorem IsPackaged.settles_typeVariant (h : g.IsPackaged) (goType : SchemaField → String)
    (hpackage : textOf (.ofJson g.settings.packageName) = .ok package)
    (himports : ∀ f ∈ t.fields, ∀ j ∈ importsFor g.scalars f.type, IsPlainImport j) :
    Settles IsFaithful
      (g.renderTypeVariant files t (packagedFields g t goType) defaultVariant)
      (.ok (g.packagedCode package t goType)) := by
  have hplain : ∀ j ∈ distinctImports ((packagedFields g t goType).flatMap (·.imports)),
      textOf (.ofJson j) = .ok j.plain := by
    intro j hj
    rw [flatMap_imports] at hj
    obtain ⟨f, hf, hj⟩ := List.mem_flatMap.mp (mem_of_mem_distinctImports hj)
    exact (himports f hf j hj).2
  have hvariant := h.settles_typeVariantOf files (t := t) (v := defaultVariant) rfl
    (packagedFields g t goType) hpackage hplain
  rw [flatMap_imports] at hvariant
  exact hvariant

/-- A type that is not configured comes to what the packaged templates write for it, in its final
form. -/
theorem IsPackaged.settles_type (h : g.IsPackaged) {programs : Programs}
    {goType : SchemaField → String} {out : String} (hunset : g.settings.types.get? t.name = none)
    (hpackage : textOf (.ofJson g.settings.packageName) = .ok package)
    (htypes : ∀ f ∈ t.fields, typeExpression g.scalars f.type = .ok (goType f))
    (himports : ∀ f ∈ t.fields, ∀ j ∈ importsFor g.scalars f.type, IsPlainImport j)
    (hformat : g.formatter.format programs (g.packagedCode package t goType) = .ok out) :
    Settles IsFaithful (g.renderType files programs t) (.ok out) := by
  have hsettings : g.settings.type t.name = {} := by
    unfold Settings.type
    rw [hunset]
    rfl
  have hcomparable : ∀ j ∈ (packagedFields g t goType).flatMap (·.imports),
      isComparable j = true := by
    intro j hj
    rw [flatMap_imports, List.mem_flatMap] at hj
    obtain ⟨f, hf, hj⟩ := hj
    exact (himports f hf j hj).1
  have hcode : String.join [g.packagedCode package t goType] =
      g.packagedCode package t goType := by
    simp [String.join]
  unfold renderType
  rw [hsettings]
  refine (Settles.mapM (g := fun f => packagedField g t f (goType f)) fun f hf =>
    h.settles_field files t (htypes f hf)).bind ?_
  refine (settles_checkImports hcomparable).bind ?_
  refine (Settles.mapM (g := fun _ => g.packagedCode package t goType) fun variant hv => ?_).bind ?_
  · obtain rfl : variant = defaultVariant := List.mem_singleton.mp hv
    exact h.settles_typeVariant files goType hpackage himports
  · change Settles IsFaithful (g.formatCode programs
      (String.join [g.packagedCode package t goType]) (some t.name)) (.ok out)
    unfold formatCode
    rw [hcode, hformat]
    exact settles_pure out

end Generator

end ResolverGen.Go
