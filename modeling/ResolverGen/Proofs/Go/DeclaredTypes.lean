import Mathlib.Data.List.Nodup
import ResolverGen.Proofs.Go.GenerateRuns
import ResolverGen.Proofs.Go.TypeLines

/-!
# Types that a run declares

A type that uses the default variants comes to a file that declares the Go types belonging to it and
no other, whatever it is configured with, as long as nothing of that holds a newline. So the lines
of a run that declare types are told from the types that get a file.
-/
namespace ResolverGen.Go

open Text Formatter Go.Generator

/-- Nothing that is configured to stand in a file holds a newline. -/
structure IsOneLine (g : Generator) : Prop where
  package : '\n' ∉ g.settings.packageName.plain.toList
  goTypes : ∀ name scalar, g.scalars.get? name = some scalar → '\n' ∉ scalar.goType.plain.toList
  imports : ∀ name scalar, g.scalars.get? name = some scalar → '\n' ∉ scalar.importPath.plain.toList

/-- All names of a type are names as a schema has them. -/
structure HasSchemaNames (t : SchemaType) : Prop where
  name : IsSchemaName t.name
  fields : ∀ f ∈ t.fields, IsSchemaName f.name
  references : ∀ f ∈ t.fields, ∀ n ∈ f.type.names, IsSchemaName n
  possible : ∀ n ∈ t.possibleNames, IsSchemaName n

instance (t : SchemaType) : Decidable (HasSchemaNames t) :=
  decidable_of_iff
    (IsSchemaName t.name ∧ (∀ f ∈ t.fields, IsSchemaName f.name) ∧
      (∀ f ∈ t.fields, ∀ n ∈ f.type.names, IsSchemaName n) ∧
      ∀ n ∈ t.possibleNames, IsSchemaName n)
    ⟨fun ⟨hn, hf, hr, hp⟩ => ⟨hn, hf, hr, hp⟩,
      fun h => ⟨h.name, h.fields, h.references, h.possible⟩⟩

variable {g : Generator} {t : SchemaType} {f : SchemaField}

/-- A table without newlines in what is configured for it. -/
theorem isOneLine_make {settings : Settings} (formatter : Formatter)
    (hpackage : '\n' ∉ settings.packageName.plain.toList)
    (hscalars : ∀ e ∈ settings.scalars,
      '\n' ∉ e.2.type.plain.toList ∧ '\n' ∉ e.2.importPath.plain.toList) :
    IsOneLine (make settings formatter) := by
  have hbuiltin : ∀ e ∈ builtinScalars,
      '\n' ∉ e.2.goType.plain.toList ∧ '\n' ∉ e.2.importPath.plain.toList := by
    decide
  have htable : ∀ name scalar, (ScalarTable.ofCustom (customScalars settings)).get? name =
      some scalar → '\n' ∉ scalar.goType.plain.toList ∧ '\n' ∉ scalar.importPath.plain.toList := by
    intro name scalar hget
    rcases Table.mem_of_mem_overlay (Table.mem_of_get? hget) with hm | hm
    · exact hbuiltin (name, scalar) hm
    · obtain ⟨e, he, heq⟩ := List.mem_map.mp (List.mem_filter.mp hm).1
      obtain ⟨_, rfl⟩ := Prod.mk.inj heq
      exact hscalars e he
  exact ⟨hpackage, fun name scalar h => (htable name scalar h).1,
    fun name scalar h => (htable name scalar h).2⟩

/-! ## What a type declares -/

/-- Under default variants a field is given by accessors. -/
theorem method_variantField (hkind : t.kind ≠ .interface) {goType : String}
    {variants : List Variant} (hv : ∀ v ∈ variants, v.name = "default") :
    (variantField g t f goType variants).method = accessorsText t.name f.name goType variants := by
  unfold variantField accessorsText
  dsimp only
  congr 1
  refine List.map_congr_left fun v hmem => ?_
  have hne : v.name ≠ "setter" := by
    rw [hv v hmem]
    decide
  unfold variantMethod
  rw [if_pos hkind, if_neg hne]

theorem declares_methodText_variantFields (hg : IsOneLine g) (hn : HasSchemaNames t)
    (hv : UsesDefault g t) (hparts : g.HasParts t) (hkind : t.kind ≠ .interface) :
    ∀ m ∈ (variantFields g t).map (·.method), Declares (methodText m).toList [] := by
  intro m hm
  obtain ⟨field, hfield, rfl⟩ := List.mem_map.mp hm
  obtain ⟨f, hf, rfl⟩ := List.mem_map.mp hfield
  obtain ⟨goType, htype⟩ := hparts.types f hf
  have hnames : ∀ n ∈ f.type.names, '\n' ∉ n.toList := fun n hmem =>
    (hn.references f hf n hmem).not_mem_newline
  rw [goTypeOf_eq htype, method_variantField hkind (hv.fields f hf)]
  exact declares_methodText hn.name.not_mem_newline (hn.fields f hf)
    (not_mem_typeExpression hg.goTypes hnames htype) _

theorem not_mem_imports (hg : IsOneLine g) :
    ∀ j ∈ distinctImports ((variantFields g t).flatMap (·.imports)), '\n' ∉ j.plain.toList := by
  intro j hj
  obtain ⟨field, hfield, hj⟩ := List.mem_flatMap.mp (mem_of_mem_distinctImports hj)
  obtain ⟨f, _, rfl⟩ := List.mem_map.mp hfield
  obtain ⟨_, _, hj⟩ := List.mem_flatMap.mp hj
  obtain ⟨name, scalar, hscalar, rfl, _⟩ := mem_importsFor hj
  exact hg.imports name scalar hscalar

theorem declares_variantText (hg : IsOneLine g) (hn : HasSchemaNames t) (hv : UsesDefault g t)
    (hparts : g.HasParts t) {v : Variant} (hmem : v ∈ (g.settings.type t.name).templates) :
    Declares (variantText g t v).toList (typeHeads t) := by
  have hne : v.name ≠ "constructor" := by
    rw [hv.types v hmem]
    decide
  unfold variantText
  rw [if_neg hne]
  exact declares_typeText hg.package (not_mem_imports hg) hn.name.not_mem_newline
    (fun n hmem => (hn.possible n hmem).not_mem_newline)
    (declares_methodText_variantFields hg hn hv hparts)

/-- The file of a type declares what belongs to it, once for each of its variants. -/
theorem typeLines_of_renderType (h : g.IsPackaged) (hformatter : TidiesOnly g.formatter)
    (hg : IsOneLine g) (hn : HasSchemaNames t) (hv : UsesDefault g t) {files : Files}
    {programs : Programs} {s : RunState} (hs : IsFaithful s) {text : String}
    (hrun : ((g.renderType files programs t).run s).1 = .ok text) :
    typeLines text = (g.settings.type t.name).templates.flatMap fun _ => typeHeads t := by
  obtain ⟨hparts, hformat⟩ := (h.renderType_ok_iff files hv.usesPackaged hs programs text).mp hrun
  have hdeclares : Declares (g.variantCode t).toList
      ((g.settings.type t.name).templates.flatMap fun _ => typeHeads t) :=
    declares_join fun v hmem => declares_variantText hg hn hv hparts hmem
  refine typeLines_format hformatter hdeclares ?_ hformat
  intro l hl
  obtain ⟨_, _, hl⟩ := List.mem_flatMap.mp hl
  exact isSolid_typeHeads hl

/-! ## What a run declares -/

/-- A schema as a document gives it: its types have different names, and none is a wrapper. -/
structure IsCatalogue (schema : Schema) : Prop where
  nodup : (schema.types.map (·.name)).Nodup
  names : ∀ t ∈ schema.types, HasSchemaNames t
  kinds : ∀ t ∈ schema.types, t.kind.isWrapper = false

instance (schema : Schema) : Decidable (IsCatalogue schema) :=
  decidable_of_iff
    ((schema.types.map (·.name)).Nodup ∧ (∀ t ∈ schema.types, HasSchemaNames t) ∧
      ∀ t ∈ schema.types, t.kind.isWrapper = false)
    ⟨fun ⟨hd, hn, hk⟩ => ⟨hd, hn, hk⟩, fun h => ⟨h.nodup, h.names, h.kinds⟩⟩

theorem mem_eligible {types : List SchemaType} :
    t ∈ g.eligible types ↔ t ∈ types ∧ g.IsEligible t := by
  unfold eligible
  rw [List.mem_filter, decide_eq_true_iff]

/-- A run comes to a table if the types that get a file have names of their own for it, use packaged
variants and have all their parts. -/
theorem exists_generate (h : g.IsPackaged) (hformatter : TidiesOnly g.formatter) (schema : Schema)
    (hnames : ((g.eligible schema.types).map lowerName).Nodup)
    (huses : ∀ t ∈ g.eligible schema.types, g.UsesPackaged t ∧ g.HasParts t) (files : Files)
    (programs : Programs) {s : RunState} (hs : IsFaithful s) :
    ∃ table, ((g.generate files programs schema).run s).1 = .ok table := by
  have hformat : ∀ code, ∃ text, g.formatter.format programs code = .ok text := by
    intro code
    rcases hformatter with hf | hf
    · exact ⟨_, by rw [hf]; rfl⟩
    · exact ⟨_, by rw [hf]; rfl⟩
  have hfiles : HaveFiles (g.rendered files programs s) (g.eligible schema.types) := by
    refine ⟨hnames, fun t ht => ?_⟩
    obtain ⟨huse, hparts⟩ := huses t ht
    obtain ⟨text, htext⟩ := hformat (g.variantCode t)
    exact ⟨text, (h.renderType_ok_iff files huse hs programs text).mpr ⟨hparts, htext⟩⟩
  rw [generate_run h.isSteady files programs schema hs hs]
  exact hfiles.exists_fileWork

/-- A run that comes to a table gives each type that gets a file a name of its own, and a file that
declares what belongs to it. -/
theorem typeLines_of_generate (h : g.IsPackaged) (hformatter : TidiesOnly g.formatter)
    (hg : IsOneLine g) {schema : Schema} (hn : ∀ t ∈ schema.types, HasSchemaNames t)
    (hv : ∀ t ∈ g.eligible schema.types, UsesDefault g t) {files : Files} {programs : Programs}
    {s : RunState} (hs : IsFaithful s) {table : Table String}
    (hrun : ((g.generate files programs schema).run s).1 = .ok table) :
    ((g.eligible schema.types).map (·.name)).Nodup ∧
      table.map (fun e => typeLines e.2) = (g.eligible schema.types).map fun t =>
        (g.settings.type t.name).templates.flatMap fun _ => typeHeads t := by
  rw [generate_run h.isSteady files programs schema hs hs] at hrun
  obtain ⟨hfiles, _, hentries⟩ := fileWork_ok hrun
  constructor
  · refine List.Nodup.of_map (Text.onChars Text.lower) ?_
    rw [List.map_map]
    exact hfiles.1
  · have hmembers := (List.forall₂_and_left (p := (· ∈ g.eligible schema.types)) _ _).mpr
      ⟨fun t ht => ht, hentries.flip⟩
    rw [← List.forall₂_eq_eq_eq, List.forall₂_map_left_iff, List.forall₂_map_right_iff]
    refine List.Forall₂.flip (hmembers.imp ?_)
    rintro t e ⟨ht, _, hrendered⟩
    exact typeLines_of_renderType h hformatter hg (hn t (mem_eligible.mp ht).1) (hv t ht) hs
      hrendered

end ResolverGen.Go
