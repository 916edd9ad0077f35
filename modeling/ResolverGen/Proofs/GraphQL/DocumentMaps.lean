import ResolverGen.Proofs.GraphQL.CatalogueOrder
import ResolverGen.Proofs.GraphQL.ParsedTypes
import ResolverGen.Proofs.GraphQL.TypeMaps

/-!
# Type maps of documents

The types of a document that is read and keeps the rules are a complete map: their names are given
and differ, everything that is followed is entered, and marks that forbid null are single. The
catalogue of the document is the one that these types make.
-/
namespace ResolverGen.GraphQL

/-! ## Views and kinds -/

/-- A reference takes the kind of its own name only. -/
theorem TypeNode.ref_congr {kindOf kindOf' : String → TypeKind} {node : TypeNode}
    (h : kindOf node.baseName = kindOf' node.baseName) : node.ref kindOf = node.ref kindOf' := by
  rw [ref_eq_under, ref_eq_under, h]

theorem typeOf_congr {all : List MergedType} {kindOf kindOf' : String → TypeKind} {t : MergedType}
    (h : ∀ f ∈ t.body.fields, kindOf f.type.baseName = kindOf' f.type.baseName) :
    typeOf all kindOf t = typeOf all kindOf' t := by
  have hfields : ∀ fields : List FieldNode,
      (∀ f ∈ fields, kindOf f.type.baseName = kindOf' f.type.baseName) →
        fields.map (fieldOf kindOf t.name) = fields.map (fieldOf kindOf' t.name) := by
    intro fields hkinds
    refine List.map_congr_left fun f hf => ?_
    unfold fieldOf
    rw [TypeNode.ref_congr (hkinds f hf)]
  unfold typeOf
  unfold TypeBody.fields at h
  cases hbody : t.body with
  | object parents fields =>
    rw [hbody] at h
    simp only [hfields fields h]
  | interface parents fields =>
    rw [hbody] at h
    simp only [hfields fields h]
  | _ => rfl

theorem mem_references_of_mem_fields {body : TypeBody} {f : FieldNode} (h : f ∈ body.fields) :
    f.type.baseName ∈ body.references := by
  cases body with
  | object parents fields =>
    exact List.mem_append_right _ (List.mem_flatMap.mpr ⟨f, h, List.mem_cons_self⟩)
  | interface parents fields =>
    exact List.mem_append_right _ (List.mem_flatMap.mpr ⟨f, h, List.mem_cons_self⟩)
  | _ => cases h

/-- What is followed for a type is referred to by it, or is a type that implements it. -/
theorem TypeMap.of_mem_followed {m : TypeMap} {t : MergedType} {name : String}
    (h : name ∈ m.followed t) :
    name ∈ t.body.references ∨ ∃ other ∈ m.types, other.name = name := by
  rcases List.mem_append.mp h with hfield | hpossible
  · obtain ⟨f, hf, rfl⟩ := List.mem_map.mp hfield
    exact Or.inl (mem_references_of_mem_fields hf)
  · unfold view SchemaType.possibleNames typeOf at hpossible
    cases hbody : t.body with
    | interface parents fields =>
      simp only [hbody, Option.getD_some] at hpossible
      obtain ⟨other, hother, hname⟩ := List.mem_flatMap.mp hpossible
      split at hname
      · obtain ⟨_, -, rfl⟩ := List.mem_map.mp hname
        exact Or.inr ⟨other, hother, rfl⟩
      · cases hname
    | union members =>
      simp only [hbody, Option.getD_some] at hpossible
      exact Or.inl hpossible
    | _ =>
      simp only [hbody, Option.getD_none] at hpossible
      cases hpossible

/-! ## Types of a document -/

section

variable {doc : Document} {t : MergedType} {name : String}

/-- What a type of the document refers to is a type of the document. -/
theorem mem_typeMap_of_references (h : violations doc = []) (ht : t ∈ (typeMap doc).types)
    (hname : name ∈ t.body.references) : ∃ other ∈ (typeMap doc).types, other.name = name := by
  obtain ⟨n, hn, hfound⟩ := List.mem_filterMap.mp ht
  obtain ⟨other, hother⟩ := exists_findType?_of_references h hfound hname
  refine ⟨other, List.mem_filterMap.mpr ⟨name, ?_, hother⟩, name_of_findType? hother⟩
  exact mem_catalogueOrder_of_references hn hfound hname hother

/-- No two types of the document have one name. -/
theorem nodup_typeMap (h : violations doc = []) : ((typeMap doc).types.map (·.name)).Nodup := by
  have hdefined : ((definedTypes doc).map (·.name)).Nodup :=
    map_name_definedTypes ▸ nodup_typeNames h
  unfold typeMap
  rw [List.map_filterMap]
  refine (nodup_catalogueOrder doc hdefined _).filterMap fun listed other name hlisted hother => ?_
  obtain ⟨t, ht, rfl⟩ := Option.map_eq_some_iff.mp hlisted
  obtain ⟨t', ht', hsame⟩ := Option.map_eq_some_iff.mp hother
  rw [← name_of_findType? ht, ← name_of_findType? ht', hsame]

theorem isComplete_typeMap {text : String} (hparse : parseDocument text = .ok doc)
    (h : violations doc = []) : (typeMap doc).IsComplete where
  nodup := nodup_typeMap h
  name_ne := fun _ ht hempty =>
    (isWellFormed_typeMap hparse ht).1.toList_ne_nil (String.toList_eq_nil_iff.mpr hempty)
  entered := fun _ ht _ hname => (TypeMap.of_mem_followed hname).elim
    (mem_typeMap_of_references h ht) id
  single := fun _ ht => (isWellFormed_typeMap hparse ht).2

theorem kindOf_typeMap (h : violations doc = []) (ht : t ∈ (typeMap doc).types)
    (hname : name ∈ t.body.references) :
    ((findType? (definedTypes doc) name).map (·.body.kind)).getD .scalar =
      (typeMap doc).kindOf name := by
  obtain ⟨other, hother, rfl⟩ := mem_typeMap_of_references h ht hname
  obtain ⟨listed, -, hfound⟩ := List.mem_filterMap.mp hother
  rw [TypeMap.kindOf, TypeMap.type?_of_mem (nodup_typeMap h) hother, name_of_findType? hfound, hfound]

end

/-- A schema that is read from a text is the catalogue of the types of its document, which are a
complete map. -/
theorem exists_typeMap_of_schemaOf {text : String} {schema : Schema}
    (h : schemaOf text = .ok schema) :
    ∃ doc, parseDocument text = .ok doc ∧ (typeMap doc).IsComplete ∧
      (typeMap doc).convert = .ok schema := by
  obtain ⟨doc, hparse, hviolations, hcatalogue⟩ := schemaOf_eq_ok h
  have hcomplete := isComplete_typeMap hparse hviolations
  refine ⟨doc, hparse, hcomplete,
    TypeMap.convert_eq_ok_iff.mpr ⟨hcomplete.name_ne, hcomplete.entered, ?_⟩⟩
  have hviews : ∀ t ∈ (typeMap doc).types, typeOf (typeMap doc).types
      (fun name => ((findType? (definedTypes doc) name).map (·.body.kind)).getD .scalar) t =
        (typeMap doc).view t :=
    fun t ht => typeOf_congr fun f hf =>
      kindOf_typeMap hviolations ht (mem_references_of_mem_fields hf)
  rw [catalogue_eq_ok hcatalogue, List.map_congr_left hviews]
  rfl

/-- The fields of a schema that is read from a text stand for those of the types of its document. -/
theorem standFor_of_schemaOf {text : String} {schema : Schema} (h : schemaOf text = .ok schema) :
    ∃ doc, parseDocument text = .ok doc ∧ ∀ entry ∈ schema.types,
      schema.type? entry.name = some entry ∧ ∃ t ∈ (typeMap doc).types,
        List.Forall₂ (StandsFor schema entry) t.body.fields entry.fields := by
  obtain ⟨doc, hparse, hcomplete, hconvert⟩ := exists_typeMap_of_schemaOf h
  obtain ⟨-, -, rfl⟩ := TypeMap.convert_eq_ok_iff.mp hconvert
  refine ⟨doc, hparse, fun entry hentry => ?_⟩
  obtain ⟨t, ht, rfl⟩ := List.mem_map.mp hentry
  exact ⟨hcomplete.type?_views_of_mem ht, t, ht, hcomplete.standFor_fields ht⟩

end ResolverGen.GraphQL
