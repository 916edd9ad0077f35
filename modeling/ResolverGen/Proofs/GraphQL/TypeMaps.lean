import Mathlib.Data.List.Forall2
import Mathlib.Data.List.Nodup
import ResolverGen.GraphQL.TypeMap
import ResolverGen.Proofs.FirstFailures
import ResolverGen.Proofs.Go.TypeReadings

/-!
# Catalogues of type maps

A map whose types have names of their own, and in which every name that is followed is entered, makes
a catalogue. Its fields stand as in the map, each under the type that has it, and a reference is read
as it was written and ends in the entry of its name. So every field of a catalogue has a Go type, as
far as the names in it have one.
-/
namespace ResolverGen.GraphQL

/-! ## References -/

theorem isWrapper_kind (body : TypeBody) : body.kind.isWrapper = false := by
  cases body <;> rfl

namespace TypeNode

variable (kindOf : String → TypeKind)

/-- A reference is the type of its name under the layers as written. -/
theorem ref_eq_under (node : TypeNode) :
    node.ref kindOf = (TypeRef.named (kindOf node.baseName) node.baseName).under node.layers := by
  induction node with
  | named name => rfl
  | list inner ih => exact congrArg TypeRef.listOf ih
  | nonNull inner ih => exact congrArg TypeRef.nonNull ih

end TypeNode

namespace TypeMap

variable {m : TypeMap} {t : MergedType} {name : String}

/-- What a map is to keep to: names are given and stand for one type each, what is followed is
entered, and no mark that forbids null stands right under another one. -/
structure IsComplete (m : TypeMap) : Prop where
  nodup : (m.types.map (·.name)).Nodup
  name_ne : ∀ t ∈ m.types, t.name ≠ ""
  entered : ∀ t ∈ m.types, ∀ name ∈ m.followed t, ∃ entry ∈ m.types, entry.name = name
  single : ∀ t ∈ m.types, ∀ f ∈ t.body.fields, ¬Doubled f.type.layers

theorem type?_isSome_iff :
    (m.type? name).isSome = true ↔ ∃ entry ∈ m.types, entry.name = name := by
  simp [type?, List.find?_isSome]

theorem name_of_type? {entry : MergedType} (h : m.type? name = some entry) :
    entry ∈ m.types ∧ entry.name = name :=
  ⟨List.mem_of_find?_eq_some h, by simpa using List.find?_some h⟩

theorem type?_of_mem (h : (m.types.map (·.name)).Nodup) (ht : t ∈ m.types) :
    m.type? t.name = some t := by
  obtain ⟨entry, hentry⟩ := Option.isSome_iff_exists.mp (type?_isSome_iff.mpr ⟨t, ht, rfl⟩)
  obtain ⟨hmem, hname⟩ := name_of_type? hentry
  rw [hentry, List.inj_on_of_nodup_map h hmem ht hname]

/-! ## Conversion -/

theorem enter_eq_ok_iff : enter t = .ok () ↔ t.name ≠ "" := by
  unfold enter TypeRef.make
  rw [if_neg (Bool.eq_false_iff.mp (isWrapper_kind t.body)), bind_eq_ok_iff]
  by_cases hname : t.name = "" <;> simp [hname, pure, Except.pure]

theorem follow_eq_ok_iff : m.follow name = .ok () ↔ ∃ entry ∈ m.types, entry.name = name := by
  rw [← type?_isSome_iff, follow]
  split <;> simp_all

/-- A map makes a catalogue exactly if its types have names and what is followed is entered, and the
catalogue consists of the views of the types. -/
theorem convert_eq_ok_iff {schema : Schema} :
    m.convert = .ok schema ↔ (∀ t ∈ m.types, t.name ≠ "") ∧
      (∀ t ∈ m.types, ∀ name ∈ m.followed t, ∃ entry ∈ m.types, entry.name = name) ∧
      schema = m.views := by
  have henter : m.types.forM enter = .ok () ↔ ∀ t ∈ m.types, t.name ≠ "" := by
    simp only [forM_eq_ok_iff, enter_eq_ok_iff]
  have hfollow : (m.types.forM fun t => (m.followed t).forM m.follow) = .ok () ↔
      ∀ t ∈ m.types, ∀ name ∈ m.followed t, ∃ entry ∈ m.types, entry.name = name := by
    simp only [forM_eq_ok_iff, follow_eq_ok_iff]
  unfold convert
  rw [← henter, ← hfollow]
  constructor
  · intro h
    obtain ⟨_, hentered, h⟩ := bind_eq_ok_iff.mp h
    obtain ⟨_, hfollowed, h⟩ := bind_eq_ok_iff.mp h
    exact ⟨hentered, hfollowed, (Except.ok.inj h).symm⟩
  · rintro ⟨hentered, hfollowed, rfl⟩
    exact bind_eq_ok_iff.mpr ⟨(), hentered, bind_eq_ok_iff.mpr ⟨(), hfollowed, rfl⟩⟩

/-! ## Views -/

theorem fields_view : (m.view t).fields = t.body.fields.map (fieldOf m.kindOf t.name) := by
  unfold view typeOf TypeBody.fields
  cases t.body <;> rfl

theorem type?_views : m.views.type? name = (m.type? name).map m.view := by
  unfold Schema.type? views
  rw [List.find?_map]
  rfl

theorem IsComplete.type?_views_of_mem (h : m.IsComplete) (ht : t ∈ m.types) :
    m.views.type? t.name = some (m.view t) :=
  type?_views.trans (congrArg (Option.map m.view) (type?_of_mem h.nodup ht))

/-- The name in the type of a field is that of an entry, of which it takes the kind. -/
theorem IsComplete.exists_entry (h : m.IsComplete) (ht : t ∈ m.types) {f : FieldNode}
    (hf : f ∈ t.body.fields) :
    ∃ entry, m.type? f.type.baseName = some entry ∧
      TypeRef.named (m.kindOf f.type.baseName) f.type.baseName = (m.view entry).ref ∧
      f.type.baseName ≠ "" := by
  have hfollowed : f.type.baseName ∈ m.followed t :=
    List.mem_append_left _ (List.mem_map_of_mem hf)
  obtain ⟨entry, hentry⟩ :=
    Option.isSome_iff_exists.mp (type?_isSome_iff.mpr (h.entered t ht _ hfollowed))
  obtain ⟨hmem, hname⟩ := name_of_type? hentry
  have hkind : m.kindOf f.type.baseName = entry.body.kind := by
    rw [kindOf, hentry]
    rfl
  refine ⟨entry, hentry, ?_, hname ▸ h.name_ne entry hmem⟩
  rw [hkind, ← hname]
  rfl

end TypeMap

/-- A field of a catalogue stands for a field of a type: under the same name, with the entry of the
type as its owner, and with the same type, which ends in the entry of its name and is refused by no
table for its shape. -/
structure StandsFor (schema : Schema) (entry : SchemaType) (f : FieldNode) (field : SchemaField) :
    Prop where
  name : field.name = f.name
  owner : schema.type? field.owner = some entry
  text : field.type.text = f.type.text
  named : ∃ base, schema.type? f.type.baseName = some base ∧ field.type.namedType = base.ref
  accepted : ∀ table fault, Go.typeExpression table field.type ≠ .error (.schema fault)

namespace TypeMap

variable {m : TypeMap} {t : MergedType}

theorem IsComplete.standsFor (h : m.IsComplete) (ht : t ∈ m.types) {f : FieldNode}
    (hf : f ∈ t.body.fields) : StandsFor m.views (m.view t) f (fieldOf m.kindOf t.name f) := by
  obtain ⟨entry, hentry, href, hne⟩ := h.exists_entry ht hf
  have htype : (fieldOf m.kindOf t.name f).type =
      (TypeRef.named (m.kindOf f.type.baseName) f.type.baseName).under f.type.layers :=
    f.type.ref_eq_under m.kindOf
  have hnamed : (TypeRef.named (m.kindOf f.type.baseName) f.type.baseName).IsNamed f.type.baseName := by
    refine TypeRef.isNamed_named ?_ hne
    rw [kindOf, hentry]
    exact isWrapper_kind entry.body
  refine ⟨rfl, ?_, ?_, ⟨m.view entry, ?_, ?_⟩, ?_⟩
  · exact h.type?_views_of_mem ht
  · rw [htype, TypeNode.text_under _ hne]
  · rw [type?_views, hentry]
    rfl
  · rw [htype, TypeRef.namedType_under hnamed, href]
  · intro table fault
    rw [htype, ne_eq, Go.typeExpression_eq_schema_iff hnamed]
    exact fun hrefused => h.single t ht f hf hrefused.1

theorem IsComplete.standFor_fields (h : m.IsComplete) (ht : t ∈ m.types) :
    List.Forall₂ (StandsFor m.views (m.view t)) t.body.fields (m.view t).fields := by
  rw [fields_view, List.forall₂_map_right_iff, List.forall₂_same]
  exact fun f hf => h.standsFor ht hf

/-- A complete map makes a catalogue, with an entry for each type, whose fields stand for those of the
type one by one. -/
theorem convert_fields (h : m.IsComplete) :
    ∃ schema, m.convert = .ok schema ∧ ∀ t ∈ m.types, ∃ entry,
      schema.type? t.name = some entry ∧ entry.kind = t.body.kind ∧
      List.Forall₂ (StandsFor schema entry) t.body.fields entry.fields := by
  refine ⟨_, convert_eq_ok_iff.mpr ⟨h.name_ne, h.entered, rfl⟩, fun t ht => ?_⟩
  exact ⟨m.view t, h.type?_views_of_mem ht, rfl, h.standFor_fields ht⟩

/-- A field without arguments and notes. -/
def plainField (name : String) (type : TypeNode) : FieldNode where
  description? := none
  name := name
  arguments := []
  type := type
  directives := []

/-- An author, who refers to posts, which refer back. -/
def authorType : MergedType where
  name := "Author"
  description? := none
  directives := []
  body := .object ["Named"] [plainField "name" (.nonNull (.named "String")),
    plainField "posts" (.list (.nonNull (.list (.named "Post"))))]

/-- Types that refer to each other in a circle, an interface and a scalar. -/
def authorMap : TypeMap where
  types := [authorType,
    { name := "Post", description? := none, directives := []
      body := .object [] [plainField "author" (.nonNull (.named "Author"))] },
    { name := "Named", description? := none, directives := []
      body := .interface [] [plainField "name" (.nonNull (.named "String"))] },
    { name := "String", description? := none, directives := [], body := .scalar }]
  query? := some "Author"

/-- The map is complete, and the fields of an author stand in its catalogue. -/
theorem convert_fields_authorMap :
    authorMap.IsComplete ∧ ∃ schema, authorMap.convert = .ok schema ∧ ∃ entry,
      schema.type? "Author" = some entry ∧ entry.kind = .object ∧
      List.Forall₂ (StandsFor schema entry) authorType.body.fields entry.fields := by
  have hcomplete : authorMap.IsComplete := ⟨by decide, by decide, by decide, by decide⟩
  obtain ⟨schema, hconvert, hfields⟩ := convert_fields hcomplete
  exact ⟨hcomplete, schema, hconvert, hfields authorType List.mem_cons_self⟩

end TypeMap

end ResolverGen.GraphQL
