import ResolverGen.Proofs.Go.CommentLines
import ResolverGen.Proofs.Go.Rendering

/-!
# Members as blocks of lines

Whatever its Go type is, a field stands in its type as the lines of its comment and then lines that
open and end in ones that are not blank. So the file of a type with members is told apart into what
stands before them, a block for each, and what stands after them.
-/
namespace ResolverGen.Go

open Text Formatter Go.Generator Template

variable {g : Generator} {t : SchemaType} {f : SchemaField} {kind : TypeKind} {goType : String}

/-- The lines of a declaration behind its comment, moved in. -/
def declaredLines (kind : TypeKind) (f : SchemaField) (goType : String) : List (List Char) :=
  (lines (stripRight (declaredText kind f.name goType).toList)).map movedIn

theorem exists_head_declaredText (kind : TypeKind) (goType : String) (hn : IsSchemaName f.name) :
    ∃ c rest, (declaredText kind f.name goType).toList = c :: rest ∧ isBlank c = false := by
  obtain ⟨word, mark, hword, _, htext⟩ := toList_declaredText kind goType hn
  obtain ⟨c, rest, hc, _⟩ := hword.chars
  refine ⟨c, rest ++ mark ++ goType.toList, ?_, ?_⟩
  · rw [htext, hc]
    simp
  · exact hword.isBare.1 c (by rw [hc]; rfl)

theorem isKept_movedIn {l : List Char} (h : IsKept l) : IsKept (movedIn l) := by
  rw [movedIn_of_not_blank h]
  obtain ⟨c, hc, hblank⟩ := isKept_iff.mp h
  exact isKept_iff.mpr ⟨c, List.mem_cons_of_mem _ hc, hblank⟩

/-- A declaration opens and ends in lines that are not blank, whatever the Go type is. -/
theorem isBlock_declaredLines (kind : TypeKind) (goType : String) (hn : IsSchemaName f.name) :
    IsBlock (declaredLines kind f goType) := by
  obtain ⟨c, rest, htext, hc⟩ := exists_head_declaredText kind goType hn
  have hkept : IsKept (declaredText kind f.name goType).toList := by
    rw [htext]
    exact isKept_cons hc rest
  have hstrip : stripRight (declaredText kind f.name goType).toList = c :: stripRight rest := by
    rw [htext, stripRight_cons hc]
  obtain ⟨d, hd, hblank⟩ := hkept.isSolid_stripRight.getLast
  obtain ⟨ms, last, hends, hlast⟩ := exists_kept_last hd hblank
  obtain ⟨l, ls, hopens, hl⟩ := exists_kept_first hc (stripRight rest)
  rw [← hstrip] at hopens
  unfold declaredLines
  refine ⟨⟨movedIn l, ls.map movedIn, ?_, isKept_movedIn hl⟩,
    ⟨ms.map movedIn, movedIn last, ?_, isKept_movedIn hlast⟩⟩
  · rw [hopens, List.map_cons]
  · rw [hends, List.map_append, List.map_singleton]

/-- A field stands in its type as the lines of its comment and those of its declaration. -/
theorem toList_memberText_lines (comments : Bool) (kind : TypeKind) (goType : String)
    (hn : IsSchemaName f.name) :
    (memberText (declarationText comments kind f goType)).toList =
      ended ((commentLines comments f).map movedIn ++ declaredLines kind f goType) := by
  obtain ⟨c, rest, htext, hc⟩ := exists_head_declaredText kind goType hn
  have hkept : IsKept (declaredText kind f.name goType).toList := by
    rw [htext]
    exact isKept_cons hc rest
  have hnewline : ∀ d ∈ ['\n'], isBlank d = true := List.forall_mem_singleton.mpr rfl
  have hleft : trimLeft isBlank (declarationText comments kind f goType).toList =
      (declarationText comments kind f goType).toList := by
    apply trimLeft_of_head
    intro d hd
    rw [toList_declarationText, ended_append] at hd
    cases hcomment : ended (commentLines comments f) with
    | nil =>
      rw [hcomment, ended_cons, htext] at hd
      obtain rfl : c = d := by simpa using hd
      exact hc
    | cons e es =>
      rw [hcomment] at hd
      obtain rfl : e = d := by simpa using hd
      rw [head_commentLines (c := e) (by rw [hcomment]; rfl)]
      decide
  have htrim : (trimmedText (declarationText comments kind f goType)).toList =
      ended (commentLines comments f) ++ stripRight (declaredText kind f.name goType).toList := by
    unfold trimmedText
    rw [toList_onChars]
    change stripRight (trimLeft isBlank _) = _
    rw [hleft, toList_declarationText, ended_append, ended_cons, ended_nil, ← List.append_assoc,
      stripRight_append_of_blank hnewline, stripRight_append _ hkept]
  have hgiven : trimmedText (declarationText comments kind f goType) ≠ "" := by
    intro he
    rw [he] at htrim
    exact List.append_ne_nil_of_right_ne_nil _ hkept htrim.symm
  have hlines : lines (ended (commentLines comments f) ++
      stripRight (declaredText kind f.name goType).toList) =
        commentLines comments f ++ lines (stripRight (declaredText kind f.name goType).toList) :=
    lines_ended_append (fun l hl => not_mem_of_mem_commentLines hl) _
  unfold memberText indentedText declaredLines
  rw [if_pos hgiven, String.toList_append, toList_onChars, htrim]
  unfold indentChars
  rw [hlines, ← List.map_append]
  exact unlines_append_newline (by simp [splitAt_ne_nil, lines])

/-! ## Files around members -/

/-- The file of a type with members up to the line that opens it. -/
def headText (package : String) (comments : Bool) (t : SchemaType) (imports : List Json) : String :=
  "package " ++ package ++ "\n" ++ importText imports ++ "\n" ++
    descriptionText comments (t.description?.getD "") ++
    (if t.kind = .interface then "type " ++ t.name ++ " interface"
      else "type " ++ resolverName t.name ++ " struct") ++ " \x7b"

/-- What stands behind the members of a type. -/
def tailText (t : SchemaType) (methods : List String) : String :=
  if t.kind = .interface then
    "\x7d\n\n// " ++ resolverName t.name ++ " wraps a concrete " ++ t.name ++
      " implementation.\ntype " ++ resolverName t.name ++ " struct \x7b\n\t" ++ t.name ++
      "\n\x7d\n" ++ String.join (t.possibleNames.map (conversionText t.name))
  else "\x7d\n" ++ String.join (methods.map methodText)

theorem typeText_eq (hkind : t.kind ≠ .scalar) (package : String) (comments : Bool)
    (imports : List Json) (declarations methods : List String) :
    typeText package comments t imports declarations methods =
      headText package comments t imports ++ "\n" ++ String.join (declarations.map memberText) ++
        tailText t methods := by
  unfold typeText headText tailText interfaceText structText
  rw [if_neg hkind]
  split <;> simp only [String.append_assoc, String.reduceAppend]

theorem exists_last_headText (package : String) (comments : Bool) (t : SchemaType)
    (imports : List Json) :
    ∃ ms l, lines (headText package comments t imports).toList = ms ++ [l] ∧ IsKept l := by
  have hlast : (headText package comments t imports).toList.getLast? = some '\x7b' := by
    unfold headText
    rw [String.toList_append, List.getLast?_append]
    rfl
  exact exists_kept_last hlast (by decide)

theorem exists_first_tailText (t : SchemaType) (methods : List String) :
    ∃ l ms, lines (tailText t methods).toList = l :: ms ∧ IsKept l := by
  have hopens : ∃ rest, (tailText t methods).toList = '\x7d' :: rest := by
    unfold tailText
    split
    · simp
    · simp
  obtain ⟨rest, hrest⟩ := hopens
  rw [hrest]
  exact exists_kept_first (by decide) rest

/-- A field of a type as a block of lines. -/
def memberBlockOf (comments : Bool) (kind : TypeKind) (goType : SchemaField → String)
    (f : SchemaField) : Block where
  comment := (commentLines comments f).map movedIn
  code := declaredLines kind f (goType f)

theorem isApart_memberBlockOf (comments : Bool) (kind : TypeKind) (goType : SchemaField → String)
    (hn : IsSchemaName f.name) : (memberBlockOf comments kind goType f).IsApart where
  code := isBlock_declaredLines kind _ hn
  newline := by
    intro l hl
    rcases List.mem_append.mp hl with hl | hl
    · obtain ⟨m, hm, rfl⟩ := List.mem_map.mp hl
      exact not_mem_movedIn (not_mem_of_mem_commentLines hm)
    · obtain ⟨m, hm, rfl⟩ := List.mem_map.mp hl
      exact not_mem_movedIn (not_mem_of_mem_lines hm)

/-- The packaged templates write the members of a type as blocks of lines. -/
theorem toList_packagedCode_blocks (hkind : t.kind ≠ .scalar)
    (hfields : ∀ f ∈ t.fields, IsSchemaName f.name) (package : String)
    (goType : SchemaField → String) :
    (g.packagedCode package t goType).toList =
      (headText package g.settings.addComments.isGiven t (g.fieldImports t)).toList ++ '\n' ::
        (ended ((t.fields.map (memberBlockOf g.settings.addComments.isGiven t.kind
            goType)).flatMap Block.lines) ++
          (tailText t ((packagedFields g t goType).map (·.method))).toList) := by
  have hmembers : (String.join (((packagedFields g t goType).map (·.declaration)).map
      memberText)).toList =
      ended ((t.fields.map (memberBlockOf g.settings.addComments.isGiven t.kind
        goType)).flatMap Block.lines) := by
    unfold packagedFields
    rw [List.map_map, List.map_map, List.flatMap_map]
    refine toList_join fun f hf => ?_
    rw [Function.comp_apply, Function.comp_apply, packagedField_declaration,
      toList_memberText_lines _ _ _ (hfields f hf)]
    rfl
  unfold packagedCode
  rw [typeText_eq hkind, String.toList_append, String.toList_append, String.toList_append, hmembers]
  simp

end ResolverGen.Go
