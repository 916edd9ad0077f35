import Mathlib.Data.List.Nodup
import ResolverGen.GraphQL.Catalogue
import ResolverGen.GraphQL.Rules

/-!
# References between the types of a document

In a document that keeps the rules every name that a type refers to is that of a type: one that the
document defines, or a standard one. The catalogue lists the types of the document and then, depth
first, the standard types that they refer to, and so on. This ends before its fuel does, since there
are only so many standard types, and so whatever a listed type refers to is listed as well.
-/
namespace ResolverGen.GraphQL

/-! ## Names that the rules let pass -/

section

variable {s : Surroundings} {doc : Document}

theorem checkVisits_cons_eq_nil {s : Surroundings} {v : Visit} {rest : List Visit} {p : Progress} :
    checkVisits s (v :: rest) p = [] ↔
      (checkVisit s v p).1 = [] ∧ checkVisits s rest (checkVisit s v p).2 = [] :=
  List.append_eq_nil_iff

theorem checkVisit_of_checkVisits {visits : List Visit} {p : Progress}
    (h : checkVisits s visits p = []) {v : Visit} (hv : v ∈ visits) :
    ∃ p, (checkVisit s v p).1 = [] := by
  induction visits generalizing p with
  | nil => cases hv
  | cons first rest ih =>
    obtain ⟨hfirst, hrest⟩ := checkVisits_cons_eq_nil.mp h
    rcases List.mem_cons.mp hv with rfl | hv
    · exact ⟨p, hfirst⟩
    · exact ih hrest hv

/-- A name in a schema part stands for a type of the document or for a standard one. -/
theorem known_of_visited (h : violations doc = []) {name : String}
    (hvisited : Visit.typeName name true ∈ doc.flatMap Definition.visits) :
    name ∈ (Surroundings.ofDocument doc).typeNames ∨ name ∈ standardTypeNames := by
  obtain ⟨p, hcheck⟩ := checkVisit_of_checkVisits h hvisited
  change checkTypeName _ name true = [] at hcheck
  unfold checkTypeName at hcheck
  split at hcheck
  · rename_i hknown
    simpa using hknown
  · cases hcheck

theorem mem_visits_argument (location : DirectiveLocation) {arguments : List InputValue}
    {name : String} (h : name ∈ arguments.map fun a => a.type.baseName) :
    Visit.typeName name true ∈ arguments.flatMap (inputValueVisits location) := by
  obtain ⟨a, ha, rfl⟩ := List.mem_map.mp h
  refine List.mem_flatMap.mpr ⟨a, ha, ?_⟩
  simp [inputValueVisits, typeNodeVisits]

theorem mem_visits_field {fields : List FieldNode} {name : String}
    (h : name ∈ fields.flatMap fun f => f.type.baseName :: f.arguments.map fun a => a.type.baseName) :
    Visit.typeName name true ∈ fields.flatMap fieldNodeVisits := by
  obtain ⟨f, hf, hname⟩ := List.mem_flatMap.mp h
  refine List.mem_flatMap.mpr ⟨f, hf, ?_⟩
  rcases List.mem_cons.mp hname with rfl | hargument
  · simp [fieldNodeVisits, typeNodeVisits]
  · have hvisit := mem_visits_argument .argumentDefinition hargument
    simp only [fieldNodeVisits, List.mem_append, List.mem_cons]
    exact Or.inl (Or.inl (Or.inr hvisit))

theorem mem_namesVisits {names : List String} {name : String} (h : name ∈ names) :
    Visit.typeName name true ∈ namesVisits names :=
  List.mem_map_of_mem h

/-- The walk through a type meets every name that the type refers to. -/
theorem mem_typeBodyVisits {isExtension : Bool} {directives : List Directive} {body : TypeBody}
    {name : String} (h : name ∈ body.references) :
    Visit.typeName name true ∈ typeBodyVisits isExtension directives body := by
  cases body with
  | scalar => cases h
  | enum values => cases h
  | object parents fields =>
    rcases List.mem_append.mp h with hparent | hfield
    · exact List.mem_append_left _ (List.mem_append_left _ (mem_namesVisits hparent))
    · exact List.mem_append_right _ (mem_visits_field hfield)
  | interface parents fields =>
    rcases List.mem_append.mp h with hparent | hfield
    · exact List.mem_append_left _ (List.mem_append_left _ (mem_namesVisits hparent))
    · exact List.mem_append_right _ (mem_visits_field hfield)
  | union members => exact List.mem_append_right _ (mem_namesVisits h)
  | inputObject fields => exact List.mem_append_right _ (mem_visits_argument _ h)

theorem known_of_references (h : violations doc = []) {isExtension : Bool}
    {description? : Option String} {type name : String} {directives : List Directive} {body : TypeBody}
    (hdoc : Definition.type isExtension description? type directives body ∈ doc)
    (hname : name ∈ body.references) :
    name ∈ (Surroundings.ofDocument doc).typeNames ∨ name ∈ standardTypeNames :=
  known_of_visited h (List.mem_flatMap.mpr
    ⟨_, hdoc, List.mem_cons_of_mem _ (mem_typeBodyVisits hname)⟩)

end

/-! ## Names that are defined -/

/-- The name that a visit defines a type under. -/
def Visit.definedName? : Visit → Option String
  | .definition (.type false _ name _ _) => some name
  | _ => none

theorem types_checkMembers (name : String) (body : TypeBody) (p : Progress) :
    (checkMembers name body p).2.types = p.types := by
  cases body <;> rfl

theorem types_checkNotes (s : Surroundings) (d : Definition) (p : Progress) :
    (checkNotes s d p).2.types = p.types := by
  cases d <;> rfl

/-- A name is defined once, and kept. -/
theorem types_checkVisit (s : Surroundings) (v : Visit) (p : Progress) :
    (checkVisit s v p).2.types = v.definedName?.toList ++ p.types := by
  cases v with
  | definition d =>
    unfold checkVisit checkDefinition
    cases d with
    | type isExtension _ name directives body =>
      cases isExtension <;> simp [types_checkNotes, types_checkMembers, Visit.definedName?]
    | _ => simp [types_checkNotes, Visit.definedName?, checkRoots]
  | _ => rfl

/-- A name that is defined without a violation is new. -/
theorem not_mem_types_of_checkVisit {s : Surroundings} {v : Visit} {p : Progress}
    (h : (checkVisit s v p).1 = []) {name : String} (hname : v.definedName? = some name) :
    name ∉ p.types := by
  unfold Visit.definedName? at hname
  split at hname
  · rename_i directives body
    cases hname
    unfold checkVisit checkDefinition at h
    intro hmem
    simp [hmem] at h
  · cases hname

/-- In a walk without violations the names that are defined are new and differ from each other. -/
theorem nodup_definedNames {s : Surroundings} {visits : List Visit} {p : Progress}
    (h : checkVisits s visits p = []) (hp : p.types.Nodup) :
    (visits.filterMap Visit.definedName? ++ p.types).Nodup := by
  induction visits generalizing p with
  | nil => exact hp
  | cons v rest ih =>
    obtain ⟨hfirst, hrest⟩ := checkVisits_cons_eq_nil.mp h
    have hbehind := ih hrest
    rw [types_checkVisit] at hbehind
    cases hv : v.definedName? with
    | none =>
      rw [hv] at hbehind
      rw [List.filterMap_cons_none hv]
      exact hbehind hp
    | some name =>
      rw [hv] at hbehind
      rw [List.filterMap_cons_some hv]
      exact List.nodup_middle.mp
        (hbehind (List.nodup_cons.mpr ⟨not_mem_types_of_checkVisit hfirst hv, hp⟩))

theorem sublist_definitions (doc : Document) :
    (doc.map Visit.definition).Sublist (doc.flatMap Definition.visits) := by
  induction doc with
  | nil => exact .refl _
  | cons d doc ih => exact (ih.trans (List.sublist_append_right _ _)).cons_cons _

theorem typeNames_ofDocument (doc : Document) : (Surroundings.ofDocument doc).typeNames =
    (doc.map Visit.definition).filterMap Visit.definedName? := by
  unfold Surroundings.typeNames Surroundings.ofDocument
  rw [List.map_filterMap, List.filterMap_map]
  refine List.filterMap_congr fun d _ => ?_
  cases d with
  | type isExtension description? name directives body => cases isExtension <;> rfl
  | _ => rfl

/-- A document that keeps the rules defines each of its types once. -/
theorem nodup_typeNames {doc : Document} (h : violations doc = []) :
    (Surroundings.ofDocument doc).typeNames.Nodup := by
  have hvisits := nodup_definedNames h List.nodup_nil
  rw [List.append_nil] at hvisits
  rw [typeNames_ofDocument]
  exact ((sublist_definitions doc).filterMap Visit.definedName?).nodup hvisits

/-! ## Merged types -/

/-- What a merged body refers to, one of its parts does. -/
theorem references_merge {body other : TypeBody} {name : String}
    (h : name ∈ (body.merge other).references) : name ∈ body.references ∨ name ∈ other.references := by
  unfold TypeBody.merge at h
  split at h
  all_goals simp only [TypeBody.references, List.flatMap_append, List.map_append, List.mem_append] at *
  all_goals grind

/-- If merging makes up no parts, what the merged body has is that of the first or of another one. -/
theorem mem_foldl_merge {α : Type} {parts : TypeBody → List α} {bodies : List TypeBody}
    {body : TypeBody} {a : α}
    (hmerge : ∀ body other a, a ∈ parts (body.merge other) → a ∈ parts body ∨ a ∈ parts other)
    (h : a ∈ parts (bodies.foldl .merge body)) :
    a ∈ parts body ∨ ∃ other ∈ bodies, a ∈ parts other := by
  induction bodies generalizing body with
  | nil => exact Or.inl h
  | cons first rest ih =>
    rcases ih h with hmerged | ⟨other, hother, ha⟩
    · rcases hmerge body first a hmerged with hbody | hfirst
      · exact Or.inl hbody
      · exact Or.inr ⟨first, List.mem_cons_self, hfirst⟩
    · exact Or.inr ⟨other, List.mem_cons_of_mem first hother, ha⟩

/-! ## Standard types -/

section

variable {name : String} {t : MergedType}

theorem exists_ofDefinition? {d : Definition} (h : d.typeName? = some name) :
    ∃ t, MergedType.ofDefinition? d = some t ∧ t.name = name := by
  cases d with
  | type isExtension description? type directives body => exact ⟨_, rfl, Option.some.inj h⟩
  | _ => cases h

/-- A standard type of a name. -/
def IsStandard (name : String) (t : MergedType) : Prop :=
  ∃ d, standardType? name = some d ∧ MergedType.ofDefinition? d = some t

theorem IsStandard.mem_standardTypes (h : IsStandard name t) :
    ∃ d ∈ standardTypes, d.typeName? = some name ∧ MergedType.ofDefinition? d = some t := by
  obtain ⟨d, hd, ht⟩ := h
  exact ⟨d, List.mem_of_find?_eq_some hd, by simpa using List.find?_some hd, ht⟩

theorem IsStandard.name_eq (h : IsStandard name t) : t.name = name := by
  obtain ⟨d, -, hname, ht⟩ := h.mem_standardTypes
  obtain ⟨t', ht', hname'⟩ := exists_ofDefinition? hname
  obtain rfl := Option.some.inj (ht.symm.trans ht')
  exact hname'

theorem IsStandard.mem_standardTypeNames (h : IsStandard name t) : name ∈ standardTypeNames := by
  obtain ⟨d, hd, hname, -⟩ := h.mem_standardTypes
  exact List.mem_filterMap.mpr ⟨d, hd, hname⟩

theorem exists_isStandard (h : name ∈ standardTypeNames) : ∃ t, IsStandard name t := by
  have hsome : (standardType? name).isSome = true := by
    simpa [standardType?, standardTypeNames] using h
  obtain ⟨d, hd⟩ := Option.isSome_iff_exists.mp hsome
  obtain ⟨t, ht, -⟩ := exists_ofDefinition? (d := d) (by simpa using List.find?_some hd)
  exact ⟨t, d, hd, ht⟩

/-- Standard types refer to standard types only. -/
theorem references_standardTypes : ∀ d ∈ standardTypes,
    ∀ name ∈ ((MergedType.ofDefinition? d).map (·.body.references)).getD [],
      name ∈ standardTypeNames := by
  decide

theorem IsStandard.references (h : IsStandard name t) {other : String}
    (hother : other ∈ t.body.references) : other ∈ standardTypeNames := by
  obtain ⟨d, hd, -, ht⟩ := h.mem_standardTypes
  refine references_standardTypes d hd other ?_
  rw [ht]
  exact hother

end

/-! ## Types of a document -/

section

variable {doc : Document} {types : List MergedType} {name : String} {t : MergedType}

/-- A type of a document is a standard one, if it has the name of one, and otherwise made of its
definition and the extensions of it. -/
theorem mem_definedTypes_iff : t ∈ definedTypes doc ↔ ∃ description? type directives body,
    Definition.type false description? type directives body ∈ doc ∧
      (IsStandard type t ∨ standardType? type = none ∧
        t = ⟨type, description?, directives, (extensionsOf doc type).foldl .merge body⟩) := by
  unfold definedTypes IsStandard
  rw [List.mem_filterMap]
  constructor
  · rintro ⟨d, hd, hdefined⟩
    split at hdefined
    · rename_i description? type directives body
      refine ⟨description?, type, directives, body, hd, ?_⟩
      split at hdefined
      · rename_i standard hstandard
        exact Or.inl ⟨standard, hstandard, hdefined⟩
      · rename_i hnone
        exact Or.inr ⟨hnone, (Option.some.inj hdefined).symm⟩
    · cases hdefined
  · rintro ⟨description?, type, directives, body, hd, ⟨standard, hstandard, ht⟩ | ⟨hnone, rfl⟩⟩
    · exact ⟨_, hd, by simpa only [hstandard] using ht⟩
    · exact ⟨_, hd, by simp only [hnone]⟩

theorem mem_extensionsOf {type : String} {body : TypeBody} (h : body ∈ extensionsOf doc type) :
    ∃ description? directives, Definition.type true description? type directives body ∈ doc := by
  obtain ⟨d, hd, hextension⟩ := List.mem_filterMap.mp h
  split at hextension
  · rename_i description? other directives body
    split at hextension
    · rename_i hsame
      cases hextension
      exact ⟨description?, directives, hsame ▸ hd⟩
    · cases hextension
  · cases hextension

theorem known_of_definedTypes (h : violations doc = []) (ht : t ∈ definedTypes doc)
    (hname : name ∈ t.body.references) :
    name ∈ (Surroundings.ofDocument doc).typeNames ∨ name ∈ standardTypeNames := by
  obtain ⟨_, type, _, body, hd, hstandard | ⟨-, rfl⟩⟩ := mem_definedTypes_iff.mp ht
  · exact Or.inr (hstandard.references hname)
  · rcases mem_foldl_merge (fun _ _ _ => references_merge) hname with hbody | ⟨other, hother, hextends⟩
    · exact known_of_references h hd hbody
    · obtain ⟨_, _, he⟩ := mem_extensionsOf hother
      exact known_of_references h he hextends

/-- The types of a document have the names that it defines. -/
theorem map_name_definedTypes :
    (definedTypes doc).map (·.name) = (Surroundings.ofDocument doc).typeNames := by
  unfold definedTypes Surroundings.typeNames Surroundings.ofDocument
  rw [List.map_filterMap, List.map_filterMap]
  refine List.filterMap_congr fun d _ => ?_
  cases d with
  | type isExtension description? type directives body =>
    cases isExtension with
    | true => rfl
    | false =>
      dsimp only
      split
      · rename_i standard hstandard
        obtain ⟨t, ht, hname⟩ := exists_ofDefinition? (d := standard)
          (by simpa using List.find?_some hstandard)
        rw [ht]
        exact congrArg some hname
      · rfl
  | _ => rfl

/-! ## Types found by name -/

/-- A type that is found is one of those given, or else a standard one. -/
theorem of_findType? (h : findType? types name = some t) :
    t ∈ types ∧ t.name = name ∨ name ∉ types.map (·.name) ∧ IsStandard name t := by
  unfold findType? at h
  split at h
  · rename_i found hfound
    obtain rfl := Option.some.inj h
    exact Or.inl ⟨List.mem_of_find?_eq_some hfound, by simpa using List.find?_some hfound⟩
  · rename_i hnone
    refine Or.inr ⟨fun hmem => ?_, Option.bind_eq_some_iff.mp h⟩
    obtain ⟨other, hother, hsame⟩ := List.mem_map.mp hmem
    exact absurd hsame (by simpa using List.find?_eq_none.mp hnone other hother)

theorem name_of_findType? (h : findType? types name = some t) : t.name = name := by
  rcases of_findType? h with ⟨-, hname⟩ | ⟨-, hstandard⟩
  · exact hname
  · exact hstandard.name_eq

theorem exists_findType? (h : name ∈ types.map (·.name) ∨ name ∈ standardTypeNames) :
    ∃ t, findType? types name = some t := by
  unfold findType?
  cases hfound : types.find? (·.name = name) with
  | some t => exact ⟨t, rfl⟩
  | none =>
    rcases h with hmem | hstandard
    · obtain ⟨other, hother, hsame⟩ := List.mem_map.mp hmem
      exact absurd hsame (by simpa using List.find?_eq_none.mp hfound other hother)
    · obtain ⟨t, hstandard⟩ := exists_isStandard hstandard
      exact ⟨t, Option.bind_eq_some_iff.mpr hstandard⟩

/-- In a document that keeps the rules, a type that is found refers to types that are found. -/
theorem exists_findType?_of_references (h : violations doc = []) {type : String}
    (ht : findType? (definedTypes doc) type = some t) (hname : name ∈ t.body.references) :
    ∃ other, findType? (definedTypes doc) name = some other := by
  refine exists_findType? ?_
  rw [map_name_definedTypes]
  rcases of_findType? ht with ⟨hmem, -⟩ | ⟨-, hstandard⟩
  · exact known_of_definedTypes h hmem hname
  · exact Or.inr (hstandard.references hname)

end

end ResolverGen.GraphQL
