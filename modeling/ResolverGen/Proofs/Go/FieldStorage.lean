import ResolverGen.Proofs.Go.VariantRendering
import ResolverGen.Proofs.Tables
import ResolverGen.Settings.Validation

/-!
# Storage of fields

The file of an object type as data: for each field of the schema the struct fields that its variants
declare and the methods that they give it, each method with the struct field that it uses. A field
of the schema is stored under one name whatever its variants are, so its methods find their struct
field if one of its variants declares it; the check of the settings warns where none does.
-/
namespace ResolverGen.Go

open Go.Generator

/-! ## Files as data -/

/-- A struct field behind its comment. -/
structure Member where
  comment : String
  name : String
  goType : String
deriving DecidableEq, Repr

def Member.text (m : Member) : String := m.comment ++ (m.name ++ " " ++ m.goType) ++ "\n"

inductive MethodKind where
  | accessor
  | setter
deriving DecidableEq, Repr

/-- A method of a resolver. -/
structure Method where
  kind : MethodKind
  typeName : String
  fieldName : String
  goType : String
  /-- The struct field that the method reads or replaces. -/
  storage : String
deriving DecidableEq, Repr

def Method.text (m : Method) : String :=
  match m.kind with
  | .accessor =>
    "\n// " ++ accessorName m.fieldName ++ " resolves " ++ m.typeName ++ "." ++ m.fieldName ++
      ".\nfunc (r *" ++ resolverName m.typeName ++ ") " ++ accessorName m.fieldName ++ "() " ++
      m.goType ++ " \x7b\n\treturn r." ++ m.storage ++ "\n\x7d\n"
  | .setter =>
    "\n// Set" ++ accessorName m.fieldName ++ " replaces the value returned by " ++
      accessorName m.fieldName ++ ".\nfunc (r *" ++ resolverName m.typeName ++ ") Set" ++
      accessorName m.fieldName ++ "(value " ++ m.goType ++ ") \x7b\n\tr." ++ m.storage ++
      " = value\n\x7d\n"

/-- What the variants of a field of the schema bring. -/
structure FieldParts where
  members : List Member
  methods : List Method
deriving DecidableEq, Repr

/-- The file of an object type. -/
structure ResolverFile where
  package : String
  imports : List Json
  comment : String
  typeName : String
  fields : List FieldParts

namespace ResolverFile

/-- A file with the members of the struct moved in and its methods behind it. -/
def text (file : ResolverFile) : String :=
  "package " ++ file.package ++ "\n" ++ importText file.imports ++ ("\n" ++ file.comment ++
    "type " ++ resolverName file.typeName ++ " struct \x7b\n" ++
    String.join (file.fields.map fun p => memberText (String.join (p.members.map Member.text))) ++
    "\x7d\n" ++
    String.join (file.fields.map fun p => methodText (String.join (p.methods.map Method.text))))

/-- The names of the fields of the struct. -/
def storages (file : ResolverFile) : List String :=
  file.fields.flatMap fun p => p.members.map (·.name)

def methods (file : ResolverFile) : List Method := file.fields.flatMap (·.methods)

end ResolverFile

/-! ## What variants bring -/

variable {g : Generator} {t : SchemaType}

/-- The struct field that stores a field of the schema. -/
def memberOf (g : Generator) (f : SchemaField) (goType : String) : Member where
  comment := descriptionText g.settings.addComments.isGiven (f.description?.getD "") ++
    deprecationText g.settings.addComments.isGiven (f.deprecation?.getD "")
  name := storageName f.name
  goType := goType

@[simp] theorem name_memberOf (g : Generator) (f : SchemaField) (goType : String) :
    (memberOf g f goType).name = storageName f.name := by
  unfold memberOf
  dsimp only

@[simp] theorem comment_memberOf (g : Generator) (f : SchemaField) (goType : String) :
    (memberOf g f goType).comment =
      descriptionText g.settings.addComments.isGiven (f.description?.getD "") ++
        deprecationText g.settings.addComments.isGiven (f.deprecation?.getD "") := by
  unfold memberOf
  dsimp only

@[simp] theorem goType_memberOf (g : Generator) (f : SchemaField) (goType : String) :
    (memberOf g f goType).goType = goType := by
  unfold memberOf
  dsimp only

/-- A setter declares no struct field. -/
def membersOf (g : Generator) (f : SchemaField) (goType : String) (v : Variant) : List Member :=
  if v.name ∈ storagelessVariants then [] else [memberOf g f goType]

def methodOf (t : SchemaType) (f : SchemaField) (goType : String) (v : Variant) : Method where
  kind := if v.name ∈ storagelessVariants then .setter else .accessor
  typeName := t.name
  fieldName := f.name
  goType := goType
  storage := storageName f.name

@[simp] theorem typeName_methodOf (t : SchemaType) (f : SchemaField) (goType : String)
    (v : Variant) : (methodOf t f goType v).typeName = t.name := by
  unfold methodOf
  dsimp only

@[simp] theorem fieldName_methodOf (t : SchemaType) (f : SchemaField) (goType : String)
    (v : Variant) : (methodOf t f goType v).fieldName = f.name := by
  unfold methodOf
  dsimp only

@[simp] theorem goType_methodOf (t : SchemaType) (f : SchemaField) (goType : String)
    (v : Variant) : (methodOf t f goType v).goType = goType := by
  unfold methodOf
  dsimp only

@[simp] theorem storage_methodOf (t : SchemaType) (f : SchemaField) (goType : String)
    (v : Variant) : (methodOf t f goType v).storage = storageName f.name := by
  unfold methodOf
  dsimp only

/-- The variants that are configured for a field. -/
def variantsOf (g : Generator) (t : SchemaType) (f : SchemaField) : List Variant :=
  ((g.settings.type t.name).field f.name).templates

def partsOf (g : Generator) (t : SchemaType) (f : SchemaField) : FieldParts where
  members := (variantsOf g t f).flatMap (membersOf g f (goTypeOf g.scalars f.type))
  methods := (variantsOf g t f).map (methodOf t f (goTypeOf g.scalars f.type))

theorem members_partsOf (g : Generator) (t : SchemaType) (f : SchemaField) :
    (partsOf g t f).members =
      (variantsOf g t f).flatMap (membersOf g f (goTypeOf g.scalars f.type)) := by
  unfold partsOf
  dsimp only

theorem methods_partsOf (g : Generator) (t : SchemaType) (f : SchemaField) :
    (partsOf g t f).methods =
      (variantsOf g t f).map (methodOf t f (goTypeOf g.scalars f.type)) := by
  unfold partsOf
  dsimp only

/-- The file of an object type under the variants that are configured for its fields. -/
def resolverFile (g : Generator) (t : SchemaType) : ResolverFile where
  package := g.settings.packageName.plain
  imports := distinctImports ((variantFields g t).flatMap (·.imports))
  comment := descriptionText g.settings.addComments.isGiven (t.description?.getD "")
  typeName := t.name
  fields := t.fields.map (partsOf g t)

theorem mem_storagelessVariants {v : String} : v ∈ storagelessVariants ↔ v = "setter" :=
  List.mem_singleton

/-- The struct fields that a variant brings are what it declares. -/
theorem join_membersOf (hkind : t.kind = .object) (f : SchemaField) (goType : String)
    (v : Variant) :
    String.join ((membersOf g f goType v).map Member.text) = variantDeclaration g t f goType v := by
  unfold membersOf variantDeclaration
  by_cases hv : v.name = "setter"
  · rw [if_pos (mem_storagelessVariants.mpr hv), if_pos hv]
    rfl
  · have hobject : t.kind ≠ .interface := by
      rw [hkind]
      decide
    rw [if_neg (mt mem_storagelessVariants.mp hv), if_neg hv]
    simp [declarationText, memberOf, Member.text, hobject, String.join_cons]

theorem text_methodOf (hkind : t.kind = .object) (f : SchemaField) (goType : String)
    (v : Variant) : (methodOf t f goType v).text = variantMethod t f goType v := by
  have hobject : t.kind ≠ .interface := by
    rw [hkind]
    decide
  unfold variantMethod
  rw [if_pos hobject]
  by_cases hv : v.name = "setter"
  · have hsetter : (methodOf t f goType v).kind = .setter :=
      if_pos (mem_storagelessVariants.mpr hv)
    rw [if_pos hv]
    unfold Method.text setterText
    rw [hsetter]
    unfold methodOf
    dsimp only
  · have haccessor : (methodOf t f goType v).kind = .accessor :=
      if_neg (mt mem_storagelessVariants.mp hv)
    rw [if_neg hv]
    unfold Method.text accessorText
    rw [haccessor]
    unfold methodOf
    dsimp only

theorem join_members (hkind : t.kind = .object) (f : SchemaField) (goType : String)
    (variants : List Variant) :
    String.join ((variants.flatMap (membersOf g f goType)).map Member.text) =
      String.join (variants.map (variantDeclaration g t f goType)) := by
  induction variants with
  | nil => rfl
  | cons v rest ih =>
    rw [List.flatMap_cons, List.map_append, List.map_cons, String.join_append, String.join_cons,
      join_membersOf hkind, ih]

/-- The packaged template of a type writes the file that its fields make up. -/
theorem text_resolverFile (hkind : t.kind = .object) {v : Variant}
    (hv : v.name ≠ "constructor") : variantText g t v = (resolverFile g t).text := by
  have hinterface : t.kind ≠ .interface := by
    rw [hkind]
    decide
  have hscalar : t.kind ≠ .scalar := by
    rw [hkind]
    decide
  have hmembers : ((variantFields g t).map (·.declaration)).map memberText =
      (t.fields.map (partsOf g t)).map fun p =>
        memberText (String.join (p.members.map Member.text)) := by
    simp only [variantFields, partsOf, variantsOf, variantField, List.map_map, Function.comp_def,
      join_members hkind]
  have hmethods : ((variantFields g t).map (·.method)).map methodText =
      (t.fields.map (partsOf g t)).map fun p =>
        methodText (String.join (p.methods.map Method.text)) := by
    simp only [variantFields, partsOf, variantsOf, variantField, List.map_map, Function.comp_def,
      text_methodOf hkind]
  unfold variantText typeText structText ResolverFile.text resolverFile
  rw [if_neg hv, if_neg hinterface, if_neg hscalar, hmembers, hmethods]

/-! ## Storage -/

/-- Where the settings draw no warning, a field has a variant that declares its storage. -/
theorem exists_storage {s : Settings} {typeName fieldName : String}
    (h : ∀ names, .noStorage typeName fieldName names ∉ storageWarnings s) :
    ∃ v ∈ ((s.type typeName).field fieldName).templates, v.name ∉ storagelessVariants := by
  have hdefault : ∃ v ∈ ({} : FieldSettings).templates, v.name ∉ storagelessVariants :=
    ⟨defaultVariant, List.mem_cons_self, by decide⟩
  unfold Settings.type TypeSettings.field
  cases htype : s.types.get? typeName with
  | none => exact hdefault
  | some settings =>
    rw [Option.getD_some]
    cases hfield : settings.fields.get? fieldName with
    | none => exact hdefault
    | some field =>
      rw [Option.getD_some]
      refine Classical.byContradiction fun hnone => ?_
      have hall : (field.templates.map (·.name)).all (· ∈ storagelessVariants) = true := by
        simpa using hnone
      refine h (field.templates.map (·.name)) ?_
      unfold storageWarnings
      refine List.mem_flatMap.mpr ⟨_, Table.mem_of_get? htype, ?_⟩
      refine List.mem_flatMap.mpr ⟨_, Table.mem_of_get? hfield, ?_⟩
      unfold fieldWarnings
      rw [if_pos hall]
      exact List.mem_cons_self

/-- A variant that declares storage brings the struct field. -/
theorem memberOf_mem {f : SchemaField} {v : Variant} (hv : v ∈ variantsOf g t f)
    (hstorage : v.name ∉ storagelessVariants) :
    memberOf g f (goTypeOf g.scalars f.type) ∈ (partsOf g t f).members := by
  rw [members_partsOf]
  refine List.mem_flatMap.mpr ⟨v, hv, ?_⟩
  unfold membersOf
  rw [if_neg hstorage]
  exact List.mem_singleton_self _

/-- All methods of a field use one struct field. -/
theorem storage_eq_of_mem {f : SchemaField} {m : Method} (hm : m ∈ (partsOf g t f).methods) :
    m.storage = storageName f.name := by
  rw [methods_partsOf] at hm
  obtain ⟨v, _, rfl⟩ := List.mem_map.mp hm
  rw [storage_methodOf]

/-- The methods of a field use the storage that one of its variants declares. -/
theorem storage_mem_of_variant {f : SchemaField} {v : Variant} (hv : v ∈ variantsOf g t f)
    (hstorage : v.name ∉ storagelessVariants) {m : Method} (hm : m ∈ (partsOf g t f).methods) :
    m.storage ∈ (partsOf g t f).members.map (·.name) := by
  rw [storage_eq_of_mem hm]
  exact List.mem_map.mpr ⟨_, memberOf_mem hv hstorage, name_memberOf g f _⟩

/-- A part of an object type: its file, or a constructor. -/
def partText (g : Generator) (t : SchemaType) (v : Variant) : String :=
  if v.name = "constructor" then constructorText t.name (constructorName t.name v.params).plain
  else (resolverFile g t).text

/-- An object type under packaged variants comes to its file and its constructors, in the order of
its variants. -/
theorem format_parts (h : g.IsPackaged) (hkind : t.kind = .object) (hv : g.UsesPackaged t)
    {files : Files} {programs : Programs} {s : RunState} (hs : IsFaithful s) {text : String}
    (hrun : ((g.renderType files programs t).run s).1 = .ok text) :
    g.formatter.format programs
      (String.join ((g.settings.type t.name).templates.map (partText g t))) = .ok text := by
  have hparts : (g.settings.type t.name).templates.map (variantText g t) =
      (g.settings.type t.name).templates.map (partText g t) := by
    refine List.map_congr_left fun v _ => ?_
    unfold partText
    by_cases hconstructor : v.name = "constructor"
    · rw [if_pos hconstructor]
      unfold variantText
      rw [if_pos hconstructor]
    · rw [if_neg hconstructor, text_resolverFile hkind hconstructor]
  have hformat := ((h.renderType_ok_iff files hv hs programs text).mp hrun).2
  unfold variantCode at hformat
  rwa [hparts] at hformat

/-- If the settings draw no warning for the fields of a type, each method in its file uses a field
that the struct in the file has. -/
theorem storage_mem_storages
    (hwarnings : ∀ f ∈ t.fields, ∀ names,
      .noStorage t.name f.name names ∉ storageWarnings g.settings)
    {m : Method} (hm : m ∈ (resolverFile g t).methods) :
    m.storage ∈ (resolverFile g t).storages := by
  obtain ⟨p, hp, hm⟩ := List.mem_flatMap.mp hm
  obtain ⟨f, hf, rfl⟩ := List.mem_map.mp hp
  obtain ⟨v, hmem, hstorage⟩ := exists_storage (hwarnings f hf)
  exact List.mem_flatMap.mpr
    ⟨_, List.mem_map_of_mem hf, storage_mem_of_variant hmem hstorage hm⟩

end ResolverGen.Go
