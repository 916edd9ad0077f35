import ResolverGen.Proofs.Go.GoTypes

/-!
# Files of types with members

Object types and interfaces come to files of one layout: the package clause, the imports, the
comment of the type, the line that opens it, a member for each field behind the lines of its
comment, a closing brace, and what follows. A formatter that only tidies touches nothing but the
reasons of deprecations.
-/
namespace ResolverGen

/-- Lines as a formatter leaves them behind a line that is not blank. -/
def Formatter.leaves : Formatter → List (List Char) → List (List Char)
  | .basic max, ls => tidyLines max 0 true ls
  | _, ls => ls

namespace Go

open Text Formatter Go.Generator Template

/-! ## Lines -/

def importLines (imports : List Json) : List (List Char) :=
  if imports ≠ [] then
    [] :: "import (".toList :: (imports.map (fun j => '\t' :: j.plain.toList) ++ [[')']])
  else []

/-- The lines of a member, its comment as `keep` leaves it. -/
def memberLines (keep : List (List Char) → List (List Char)) (comments : Bool) (f : SchemaField)
    (line : String) : List (List Char) :=
  (keep (commentLines comments f)).map movedIn ++ ['\t' :: line.toList]

/-- What the file of a type with members is put together of. -/
structure Layout where
  package : String
  comments : Bool
  imports : List Json
  description : String
  /-- The line that opens the type. -/
  opening : String
  fields : List SchemaField
  /-- The line of a field. -/
  member : SchemaField → String
  /-- The lines behind the closing brace. -/
  after : List (List Char)

/-- The lines of a file, the comments of its fields as `keep` leaves them. -/
def Layout.lines (p : Layout) (keep : List (List Char) → List (List Char)) : List (List Char) :=
  ("package " ++ p.package).toList ::
    (importLines p.imports ++
      ([] :: (descriptionLines p.comments p.description ++ [p.opening.toList])) ++
      (p.fields.flatMap fun f => memberLines keep p.comments f (p.member f)) ++ ['\x7d'] :: p.after)

/-- The parts of a file are lines, and what follows the type is settled. -/
structure Layout.IsTidy (p : Layout) : Prop where
  package : IsSchemaName p.package
  imports : ∀ j ∈ p.imports, ∃ s, j = .str s ∧ IsLineEnd s
  opening : IsLineEnd p.opening
  members : ∀ f ∈ p.fields, IsLineEnd (p.member f)
  settled : Settled p.after
  after : ∀ l ∈ p.after, '\n' ∉ l

theorem ended_flatMap {α : Type} (f : α → List (List Char)) (xs : List α) :
    ended (xs.flatMap f) = xs.flatMap fun x => ended (f x) := by
  unfold ended
  rw [List.flatMap_assoc]

theorem toList_join {α : Type} {text : α → String} {ls : α → List (List Char)} {xs : List α}
    (h : ∀ x ∈ xs, (text x).toList = ended (ls x)) :
    (String.join (xs.map text)).toList = ended (xs.flatMap ls) := by
  rw [String.toList_join, ended_flatMap, List.flatMap_map]
  induction xs with
  | nil => rfl
  | cons x rest ih =>
    rw [List.flatMap_cons, List.flatMap_cons, h x List.mem_cons_self,
      ih fun y hy => h y (List.mem_cons_of_mem x hy)]

theorem toList_importText (imports : List Json) :
    (importText imports).toList = ended (importLines imports) := by
  have hlines : (String.join (imports.map importLine)).toList =
      ended (imports.map fun j => '\t' :: j.plain.toList) := by
    rw [List.map_eq_flatMap (f := fun j : Json => '\t' :: j.plain.toList)]
    apply toList_join
    intro j _
    unfold importLine
    simp
  unfold importText importLines
  split
  · simp [hlines]
  · rfl

/-! ## Members -/

/-- A member behind the lines of its comment, each moved in. -/
def memberBlock (formatter : Formatter) (comments : Bool) (f : SchemaField) (line : String) :
    String :=
  String.join ((formatter.leaves (commentLines comments f)).map fun l =>
    String.ofList (movedIn l) ++ "\n") ++ "\t" ++ line ++ "\n"

theorem toList_memberBlock (formatter : Formatter) (comments : Bool) (f : SchemaField)
    (line : String) :
    (memberBlock formatter comments f line).toList =
      ended (memberLines formatter.leaves comments f line) := by
  have hcomment : (String.join ((formatter.leaves (commentLines comments f)).map fun l =>
      String.ofList (movedIn l) ++ "\n")).toList =
      ended ((formatter.leaves (commentLines comments f)).map movedIn) := by
    rw [List.map_eq_flatMap (f := movedIn)]
    apply toList_join
    intro l _
    rw [String.toList_append, String.toList_ofList, ended_cons, ended_nil]
    rfl
  unfold memberBlock memberLines
  simp [hcomment]

/-- The members that the packaged templates write are made of their lines. -/
theorem toList_members {g : Generator} {t : SchemaType} {goType : SchemaField → String}
    (hfields : ∀ f ∈ t.fields, IsSchemaName f.name)
    (htypes : ∀ f ∈ t.fields, IsLineEnd (goType f)) :
    (String.join (((packagedFields g t goType).map (·.declaration)).map memberText)).toList =
      ended (t.fields.flatMap fun f =>
        memberLines id g.settings.addComments.isGiven f
          (declaredText t.kind f.name (goType f))) := by
  have hmembers : ((packagedFields g t goType).map (·.declaration)).map memberText =
      t.fields.map fun f =>
        memberText (declarationText g.settings.addComments.isGiven t.kind f (goType f)) := by
    unfold packagedFields
    rw [List.map_map, List.map_map]
    apply List.map_congr_left
    intro f _
    rw [Function.comp_apply, Function.comp_apply, packagedField_declaration]
  rw [hmembers]
  exact toList_join fun f hf => toList_memberText_declaration _ (hfields f hf) (htypes f hf)

/-! ## Tidying -/

variable {max : Int} {p : Layout}

theorem settled_importLines {imports : List Json}
    (h : ∀ j ∈ imports, ∃ s, j = .str s ∧ IsLineEnd s) : Settled (importLines imports) := by
  have hopen : IsSolid "import (".toList := isSolid_of_getLast (c := '(') rfl (by decide)
  have hclose : IsSolid [')'] := isSolid_of_getLast rfl (by decide)
  have hlines : ∀ l ∈ imports.map (fun j => '\t' :: j.plain.toList) ++ [[')']], IsSolid l := by
    intro l hl
    rcases List.mem_append.mp hl with hl | hl
    · obtain ⟨j, hj, rfl⟩ := List.mem_map.mp hl
      obtain ⟨s, rfl, hs⟩ := h j hj
      exact hs.1.prepend ['\t']
    · rw [List.mem_singleton.mp hl]
      exact hclose
  unfold importLines
  split
  · exact .gap hopen (settled_of_isSolid hlines)
  · exact .nil

theorem settled_head (comments : Bool) (description : String) {opening : List Char}
    (h : IsSolid opening) :
    Settled ([] :: (descriptionLines comments description ++ [opening])) := by
  cases hd : descriptionLines comments description with
  | nil => exact .gap h .nil
  | cons l rest =>
    have hsolid : ∀ m ∈ l :: rest, IsSolid m := by
      intro m hm
      rw [← hd] at hm
      obtain ⟨_, _, hm⟩ := mem_descriptionLines hm
      exact hm
    have hrest : Settled (rest ++ [opening]) :=
      (settled_of_isSolid fun m hm => hsolid m (List.mem_cons_of_mem l hm)).append (.line h .nil)
    exact .gap (hsolid l List.mem_cons_self) hrest

theorem movedIn_of_blank {l : List Char} (h : stripRight l = []) : movedIn l = l := by
  unfold movedIn
  rw [if_pos (by rw [strip_eq_nil_iff.mpr h]; rfl)]

theorem movedIn_of_not_blank {l : List Char} (h : stripRight l ≠ []) : movedIn l = '\t' :: l := by
  have hstrip : strip l ≠ [] := mt strip_eq_nil_iff.mp h
  unfold movedIn
  rw [if_neg (by simpa using hstrip)]

/-- Moving lines in and tidying them can change places. -/
theorem tidyLines_map_movedIn (ls : List (List Char)) :
    ∀ (blanks : Nat) (started : Bool),
      tidyLines max blanks started (ls.map movedIn) =
        (tidyLines max blanks started ls).map movedIn := by
  induction ls with
  | nil =>
    intro blanks started
    rfl
  | cons l rest ih =>
    intro blanks started
    rw [List.map_cons]
    by_cases h : stripRight l = []
    · rw [movedIn_of_blank h, tidyLines, tidyLines]
      simp only [h]
      split
      · rw [ih, List.map_cons]
        rfl
      · exact ih _ _
    · have hmoved : stripRight ('\t' :: l) = '\t' :: stripRight l :=
        stripRight_cons_of_ne_nil '\t' h
      have hkept : stripRight (stripRight l) = stripRight l := stripRight_stripRight l
      rw [movedIn_of_not_blank h, tidyLines_kept (by rw [hmoved]; exact List.cons_ne_nil _ _),
        hmoved, tidyLines_kept h, ih, List.map_cons, movedIn_of_not_blank (by rw [hkept]; exact h)]

/-- Members are tidied one by one: their comments are, and the lines of the fields stay. -/
theorem tidyLines_members (comments : Bool) {member : SchemaField → String}
    (rest : List (List Char)) :
    ∀ {fields : List SchemaField}, (∀ f ∈ fields, IsLineEnd (member f)) →
      tidyLines max 0 true
          ((fields.flatMap fun f => memberLines id comments f (member f)) ++ rest) =
        (fields.flatMap fun f => memberLines (tidyLines max 0 true) comments f (member f)) ++
          tidyLines max 0 true rest
  | [], _ => rfl
  | f :: fields, h => by
    have hsolid : IsSolid ('\t' :: (member f).toList) := (h f List.mem_cons_self).1.prepend ['\t']
    have hkept : stripRight ('\t' :: (member f).toList) ≠ [] := by
      rw [hsolid.1]
      exact hsolid.2
    have hrest := tidyLines_members comments rest fun f' hf' => h f' (List.mem_cons_of_mem f hf')
    rw [List.flatMap_cons, List.flatMap_cons]
    unfold memberLines at hrest ⊢
    rw [List.append_assoc, List.append_assoc, List.singleton_append, tidyLines_append_kept hkept,
      hsolid.1, hrest, id_eq, tidyLines_map_movedIn, List.append_assoc, List.append_assoc,
      List.singleton_append]

/-- Tidying a file changes the comments of its fields and nothing else. -/
theorem Layout.IsTidy.tidyLines (h : p.IsTidy) (hmax : 1 ≤ max) :
    Formatter.tidyLines max 0 false (p.lines id) =
      p.lines (Formatter.tidyLines max 0 true) := by
  have hbefore : Settled (importLines p.imports ++
      ([] :: (descriptionLines p.comments p.description ++ [p.opening.toList]))) :=
    (settled_importLines h.imports).append (settled_head p.comments p.description h.opening.1)
  have hclosing : IsSolid ['\x7d'] := isSolid_of_getLast rfl (by decide)
  have hafter := (Settled.line hclosing h.settled).tidyLines hmax []
  have hnil : Formatter.tidyLines max 0 true [] = [] := rfl
  rw [List.append_nil, hnil, List.append_nil] at hafter
  unfold Layout.lines
  rw [(isSolid_toList_append "package " h.package.isSolid).tidyLines, List.append_assoc,
    hbefore.tidyLines hmax, tidyLines_members p.comments _ h.members, hafter, ← List.append_assoc]

theorem not_mem_importLines {imports : List Json}
    (h : ∀ j ∈ imports, ∃ s, j = .str s ∧ IsLineEnd s) {l : List Char}
    (hl : l ∈ importLines imports) : '\n' ∉ l := by
  unfold importLines at hl
  split at hl
  · simp only [List.mem_cons, List.mem_append, List.mem_map, List.not_mem_nil, or_false] at hl
    rcases hl with hl | hl | ⟨j, hj, hl⟩ | hl
    · simp [hl]
    · simp [hl]
    · obtain ⟨s, rfl, hs⟩ := h j hj
      rw [← hl]
      simpa [Json.plain] using hs.2
    · simp [hl]
  · cases hl

theorem not_mem_memberLines {comments : Bool} {f : SchemaField} {line : String}
    (h : IsLineEnd line) {l : List Char} (hl : l ∈ memberLines id comments f line) : '\n' ∉ l := by
  unfold memberLines at hl
  rcases List.mem_append.mp hl with hl | hl
  · obtain ⟨m, hm, rfl⟩ := List.mem_map.mp hl
    exact not_mem_movedIn (not_mem_of_mem_commentLines hm)
  · rw [List.mem_singleton.mp hl]
    exact (IsLine.prepend h (s := ['\t']) (by decide)).2

theorem Layout.IsTidy.not_mem_lines (h : p.IsTidy) {l : List Char} (hl : l ∈ p.lines id) :
    '\n' ∉ l := by
  unfold Layout.lines at hl
  simp only [List.mem_cons, List.mem_append, List.mem_flatMap, List.not_mem_nil, or_false] at hl
  rcases hl with hl | ((hl | hl | hl | hl) | ⟨f, hf, hl⟩) | hl | hl
  · rw [hl, String.toList_append]
    intro hm
    rcases List.mem_append.mp hm with hm | hm
    · exact absurd hm (by decide)
    · exact h.package.not_mem_newline hm
  · exact not_mem_importLines h.imports hl
  · simp [hl]
  · exact not_mem_of_mem_descriptionLines hl
  · rw [hl]
    exact h.opening.2
  · exact not_mem_memberLines (h.members f hf) hl
  · simp [hl]
  · exact h.after l hl

/-- A file ends in a line that is not blank. -/
theorem Layout.IsTidy.exists_last (h : p.IsTidy) :
    ∃ ls l, p.lines id = ls ++ [l] ∧ IsSolid l := by
  have hclosing : IsSolid ['\x7d'] := isSolid_of_getLast rfl (by decide)
  obtain ⟨ls, l, hls, hl⟩ := (Settled.line hclosing h.settled).exists_last (List.cons_ne_nil _ _)
  unfold Layout.lines
  rw [hls, ← List.append_assoc, ← List.cons_append]
  exact ⟨_, l, rfl, hl⟩

/-- A formatter that tidies, or none, makes the file of what the templates write. -/
theorem Layout.IsTidy.format (h : p.IsTidy) (programs : Programs) {formatter : Formatter}
    (hformatter : formatter = .passthrough ∨ formatter = .basic Formatter.defaultMaxBlankLines)
    {code file : String} (hcode : code.toList = ended (p.lines id))
    (hfile : file.toList = ended (p.lines formatter.leaves)) :
    formatter.format programs code = .ok file := by
  rcases hformatter with rfl | rfl
  · refine congrArg Except.ok (String.toList_inj.mp ?_)
    rw [hcode, hfile]
    rfl
  · refine congrArg Except.ok (String.toList_inj.mp ?_)
    have hmax : (1 : Int) ≤ Formatter.defaultMaxBlankLines := by decide
    have htidy := h.tidyLines hmax
    have hnewline : ∀ l ∈ p.lines id, '\n' ∉ l := fun l => h.not_mem_lines
    obtain ⟨ls, l, hls, hl⟩ := h.exists_last
    rw [hls] at hnewline htidy hcode
    rw [toList_onChars, hcode, hfile, tidyChars_ended hnewline hl, htidy]
    rfl

/-! ## Types that are not configured -/

/-- A type without settings under a generator with the packaged templates: the scalar table and the
names hold what can stand in lines, and each field has its Go type. -/
structure IsPlain (g : Generator) (package : String) (t : SchemaType)
    (goType : SchemaField → String) : Prop where
  packaged : g.IsPackaged
  clean : g.scalars.IsClean
  formatter : g.formatter = .passthrough ∨ g.formatter = .basic Formatter.defaultMaxBlankLines
  packageName : g.settings.packageName = .str package
  package : IsSchemaName package
  unset : g.settings.types.get? t.name = none
  name : '\n' ∉ t.name.toList
  fields : ∀ f ∈ t.fields, IsSchemaName f.name
  references : ∀ f ∈ t.fields, ∀ n ∈ f.type.names, '\n' ∉ n.toList
  types : ∀ f ∈ t.fields, typeExpression g.scalars f.type = .ok (goType f)

namespace IsPlain

variable {g : Generator} {package : String} {t : SchemaType} {goType : SchemaField → String}

theorem isLineEnd (h : IsPlain g package t goType) :
    ∀ f ∈ t.fields, IsLineEnd (goType f) := fun f hf =>
  isLineEnd_typeExpression h.clean (h.references f hf) (h.types f hf)

theorem imports (h : IsPlain g package t goType) :
    ∀ j ∈ g.fieldImports t, ∃ s, j = .str s ∧ IsLineEnd s := by
  intro j hj
  obtain ⟨f, _, hj⟩ := List.mem_flatMap.mp (mem_of_mem_distinctImports hj)
  exact isLineEnd_import h.clean hj

theorem members (h : IsPlain g package t goType) (kind : TypeKind) :
    ∀ f ∈ t.fields, IsLineEnd (declaredText kind f.name (goType f)) := fun f hf =>
  isLine_declaredText (h.fields f hf) (h.isLineEnd f hf)

/-- A type comes to its file whatever was rendered before, if the packaged templates write the lines
of a layout. -/
theorem settles (h : IsPlain g package t goType) (hp : p.IsTidy) {file : String}
    (hcode : (g.packagedCode package t goType).toList = ended (p.lines id))
    (hfile : file.toList = ended (p.lines g.formatter.leaves)) (files : Files)
    (programs : Programs) : Settles IsFaithful (g.renderType files programs t) (.ok file) := by
  have hplain : ∀ f ∈ t.fields, ∀ j ∈ importsFor g.scalars f.type, IsPlainImport j :=
    fun f _ j hj => isPlainImport_of_isClean h.clean hj
  have hpackage : textOf (.ofJson g.settings.packageName) = .ok package := by
    rw [h.packageName]
    rfl
  exact h.packaged.settles_type files h.unset hpackage h.types hplain
    (hp.format programs h.formatter hcode hfile)

end IsPlain

/-- A generator without settings. -/
def plainGenerator : Generator := make {} (.basic Formatter.defaultMaxBlankLines)

theorem isClean_plainGenerator : plainGenerator.scalars.IsClean :=
  isClean_ofCustom (by decide)

/-- Without settings, a type is plain if its names are and its fields have Go types. -/
theorem isPlain_plainGenerator {t : SchemaType} {goType : SchemaField → String}
    (hname : '\n' ∉ t.name.toList) (hfields : ∀ f ∈ t.fields, IsSchemaName f.name)
    (hreferences : ∀ f ∈ t.fields, ∀ n ∈ f.type.names, '\n' ∉ n.toList)
    (htypes : ∀ f ∈ t.fields, typeExpression plainGenerator.scalars f.type = .ok (goType f)) :
    IsPlain plainGenerator "resolvers" t goType where
  packaged := isPackaged_make rfl _
  clean := isClean_plainGenerator
  formatter := Or.inr rfl
  packageName := rfl
  package := by decide
  unset := rfl
  name := hname
  fields := hfields
  references := hreferences
  types := htypes

end Go

end ResolverGen
