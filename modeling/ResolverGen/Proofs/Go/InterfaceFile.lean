import ResolverGen.Proofs.Go.TypeFile

/-!
# The file of an interface

The file of an interface that is not configured, rendered with the packaged templates: the Go
interface with a method for each field, the struct that wraps it, and a conversion to each of its
possible types.
-/
namespace ResolverGen.Go

open Text Formatter Go.Generator Template

/-- The file of an interface. -/
def interfaceFileText (formatter : Formatter) (package : String) (comments : Bool)
    (imports : List Json) (t : SchemaType) (goType : SchemaField → String) : String :=
  "package " ++ package ++ "\n" ++ importText imports ++ "\n" ++
    descriptionText comments (t.description?.getD "") ++ "type " ++ t.name ++
    " interface \x7b\n" ++
    String.join (t.fields.map fun f =>
      memberBlock formatter comments f (accessorName f.name ++ "() " ++ goType f)) ++
    "\x7d\n\n// " ++ resolverName t.name ++ " wraps a concrete " ++ t.name ++
    " implementation.\ntype " ++ resolverName t.name ++ " struct \x7b\n\t" ++ t.name ++
    "\n\x7d\n" ++ String.join (t.possibleNames.map (conversionText t.name))

/-! ## Lines -/

/-- The lines of the struct that wraps an interface, with an empty one before. -/
def wrapperLines (typeName : String) : List (List Char) :=
  [[], ("// " ++ resolverName typeName ++ " wraps a concrete " ++ typeName ++
      " implementation.").toList,
    ("type " ++ resolverName typeName ++ " struct \x7b").toList, ("\t" ++ typeName).toList,
    ['\x7d']]

/-- The lines of a conversion, with an empty one before. -/
def conversionLines (typeName possible : String) : List (List Char) :=
  [[],
    ("// To" ++ possible ++ " returns the " ++ possible ++ " behind the interface, if any.").toList,
    ("func (r *" ++ resolverName typeName ++ ") To" ++ possible ++ "() (*" ++
      resolverName possible ++ ", bool) \x7b").toList,
    ("\tc, ok := r." ++ typeName ++ ".(*" ++ resolverName possible ++ ")").toList,
    "\treturn c, ok".toList, ['\x7d']]

/-- What the file of an interface is put together of. -/
def interfaceLayout (package : String) (comments : Bool) (imports : List Json) (t : SchemaType)
    (goType : SchemaField → String) : Layout where
  package
  comments
  imports
  description := t.description?.getD ""
  opening := "type " ++ t.name ++ " interface \x7b"
  fields := t.fields
  member f := accessorName f.name ++ "() " ++ goType f
  after := wrapperLines t.name ++ t.possibleNames.flatMap (conversionLines t.name)

variable {g : Generator} {package : String} {t : SchemaType} {goType : SchemaField → String}

theorem toList_conversions (typeName : String) (possible : List String) :
    (String.join (possible.map (conversionText typeName))).toList =
      ended (possible.flatMap (conversionLines typeName)) := by
  apply toList_join
  intro name _
  unfold conversionText conversionLines
  simp

/-- The file of an interface is made of the lines of its layout. -/
theorem toList_interfaceFileText (formatter : Formatter) (package : String) (comments : Bool)
    (imports : List Json) (t : SchemaType) (goType : SchemaField → String) :
    (interfaceFileText formatter package comments imports t goType).toList =
      ended ((interfaceLayout package comments imports t goType).lines formatter.leaves) := by
  have hmembers : (String.join (t.fields.map fun f =>
      memberBlock formatter comments f (accessorName f.name ++ "() " ++ goType f))).toList =
      ended (t.fields.flatMap fun f =>
        memberLines formatter.leaves comments f (accessorName f.name ++ "() " ++ goType f)) :=
    toList_join fun f _ => toList_memberBlock formatter comments f _
  unfold interfaceFileText interfaceLayout Layout.lines wrapperLines
  simp only [String.toList_append]
  rw [hmembers, toList_conversions, toList_importText, toList_descriptionText]
  simp

/-- What the packaged templates write for an interface is made of the lines of its layout. -/
theorem toList_packagedCode_interface (h : IsPlain g package t goType)
    (hkind : t.kind = .interface) :
    (g.packagedCode package t goType).toList =
      ended ((interfaceLayout package g.settings.addComments.isGiven (g.fieldImports t) t
        goType).lines id) := by
  have hmembers := toList_members (g := g) h.fields h.isLineEnd
  unfold declaredText at hmembers
  simp only [if_pos hkind] at hmembers
  unfold packagedCode typeText
  rw [if_pos hkind]
  unfold interfaceText interfaceLayout Layout.lines wrapperLines
  simp only [String.toList_append]
  rw [hmembers, toList_conversions, toList_importText, toList_descriptionText]
  simp

/-! ## Tidying -/

theorem settled_wrapperLines {typeName : String} (h : IsSchemaName typeName) :
    Settled (wrapperLines typeName) := by
  have hcomment : IsSolid ("// " ++ resolverName typeName ++ " wraps a concrete " ++ typeName ++
      " implementation.").toList :=
    isSolid_toList_append _ (isSolid_of_getLast (c := '.') rfl (by decide))
  have hopening : IsSolid ("type " ++ resolverName typeName ++ " struct \x7b").toList :=
    isSolid_toList_append _ (isSolid_of_getLast (c := '\x7b') rfl (by decide))
  have hname : IsSolid ("\t" ++ typeName).toList := isSolid_toList_append _ h.isSolid
  have hbrace : IsSolid ['\x7d'] := isSolid_of_getLast rfl (by decide)
  exact .gap hcomment (.line hopening (.line hname (.line hbrace .nil)))

theorem settled_conversionLines (typeName possible : String) :
    Settled (conversionLines typeName possible) := by
  have hcomment : IsSolid ("// To" ++ possible ++ " returns the " ++ possible ++
      " behind the interface, if any.").toList :=
    isSolid_toList_append _ (isSolid_of_getLast (c := '.') rfl (by decide))
  have hsignature : IsSolid ("func (r *" ++ resolverName typeName ++ ") To" ++ possible ++
      "() (*" ++ resolverName possible ++ ", bool) \x7b").toList :=
    isSolid_toList_append _ (isSolid_of_getLast (c := '\x7b') rfl (by decide))
  have hassertion : IsSolid ("\tc, ok := r." ++ typeName ++ ".(*" ++ resolverName possible ++
      ")").toList :=
    isSolid_toList_append _ (isSolid_of_getLast (c := ')') rfl (by decide))
  have hreturn : IsSolid "\treturn c, ok".toList := isSolid_of_getLast (c := 'k') rfl (by decide)
  have hbrace : IsSolid ['\x7d'] := isSolid_of_getLast rfl (by decide)
  exact .gap hcomment (.line hsignature (.line hassertion (.line hreturn (.line hbrace .nil))))

theorem not_mem_wrapperLines {typeName : String} (h : '\n' ∉ typeName.toList) {l : List Char}
    (hl : l ∈ wrapperLines typeName) : '\n' ∉ l := by
  unfold wrapperLines resolverName resolverSuffix at hl
  simp only [List.mem_cons, List.not_mem_nil, or_false] at hl
  rcases hl with hl | hl | hl | hl | hl <;>
    · rw [hl]
      simp [h]

theorem not_mem_conversionLines {typeName possible : String} (h : '\n' ∉ typeName.toList)
    (hpossible : '\n' ∉ possible.toList) {l : List Char}
    (hl : l ∈ conversionLines typeName possible) : '\n' ∉ l := by
  unfold conversionLines resolverName resolverSuffix at hl
  simp only [List.mem_cons, List.not_mem_nil, or_false] at hl
  rcases hl with hl | hl | hl | hl | hl | hl <;>
    · rw [hl]
      simp [h, hpossible]

theorem isTidy_interfaceLayout (h : IsPlain g package t goType) (hkind : t.kind = .interface)
    (hname : IsSchemaName t.name) (hpossible : ∀ n ∈ t.possibleNames, '\n' ∉ n.toList)
    (comments : Bool) : (interfaceLayout package comments (g.fieldImports t) t goType).IsTidy where
  package := h.package
  imports := h.imports
  opening := by
    have hbrace : IsLine " interface \x7b".toList :=
      ⟨isSolid_of_getLast (c := '\x7b') rfl (by decide), by decide⟩
    unfold interfaceLayout IsLineEnd
    rw [String.toList_append]
    exact hbrace.prepend (by simp [h.name])
  members := by
    have hmembers := h.members t.kind
    unfold declaredText at hmembers
    rwa [hkind] at hmembers
  settled := (settled_wrapperLines hname).append
    (Settled.flatMap fun n _ => settled_conversionLines t.name n)
  after := by
    intro l hl
    rcases List.mem_append.mp hl with hl | hl
    · exact not_mem_wrapperLines h.name hl
    · obtain ⟨n, hn, hl⟩ := List.mem_flatMap.mp hl
      exact not_mem_conversionLines h.name (hpossible n hn) hl

/-- An interface comes to its file, whatever was rendered before. -/
theorem IsPlain.settles_interface (h : IsPlain g package t goType) (hkind : t.kind = .interface)
    (hname : IsSchemaName t.name) (hpossible : ∀ n ∈ t.possibleNames, '\n' ∉ n.toList)
    (files : Files) (programs : Programs) :
    Settles IsFaithful (g.renderType files programs t)
      (.ok (interfaceFileText g.formatter package g.settings.addComments.isGiven (g.fieldImports t)
        t goType)) :=
  h.settles (isTidy_interfaceLayout h hkind hname hpossible _)
    (toList_packagedCode_interface h hkind) (toList_interfaceFileText _ _ _ _ _ _) files programs

end ResolverGen.Go
