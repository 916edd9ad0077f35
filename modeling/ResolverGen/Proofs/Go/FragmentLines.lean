import ResolverGen.Proofs.Go.FieldNames
import ResolverGen.Proofs.Template.CommentedLines

/-!
# Lines of what the packaged templates write

Each text of the packaged templates, taken as the lines it is made of. Descriptions become comment
lines without blanks at their ends; only the reason of a deprecation, which is written as it is, can
bring other lines. Trimming and indentation of a member move its lines in one by one.
-/
namespace ResolverGen.Go

open Text Template Formatter

/-- The mark that opens a comment. -/
def commentMark : List Char := "//".toList

/-! ## Comments -/

/-- The lines of a description as a comment. -/
def descriptionLines (comments : Bool) (description : String) : List (List Char) :=
  if description ≠ "" && comments then lines (commentText description).toList else []

/-- The lines of the reason of a deprecation behind its mark. -/
def deprecationLines (comments : Bool) (reason : String) : List (List Char) :=
  if reason ≠ "" && comments then lines ("// Deprecated: " ++ reason).toList else []

/-- The lines of the comment of a field. -/
def commentLines (comments : Bool) (f : SchemaField) : List (List Char) :=
  descriptionLines comments (f.description?.getD "") ++
    deprecationLines comments (f.deprecation?.getD "")

theorem toList_descriptionText (comments : Bool) (d : String) :
    (descriptionText comments d).toList = ended (descriptionLines comments d) := by
  unfold descriptionText descriptionLines
  split
  · rw [ended_lines, String.toList_append]
    rfl
  · rfl

theorem toList_deprecationText (comments : Bool) (reason : String) :
    (deprecationText comments reason).toList = ended (deprecationLines comments reason) := by
  unfold deprecationText deprecationLines
  split
  · rw [ended_lines, String.toList_append]
    rfl
  · rfl

theorem not_mem_of_mem_descriptionLines {comments : Bool} {d : String} {l : List Char}
    (h : l ∈ descriptionLines comments d) : '\n' ∉ l := by
  unfold descriptionLines at h
  split at h
  · exact not_mem_of_mem_lines h
  · cases h

theorem not_mem_of_mem_commentLines {comments : Bool} {f : SchemaField} {l : List Char}
    (h : l ∈ commentLines comments f) : '\n' ∉ l := by
  rcases List.mem_append.mp h with h | h
  · exact not_mem_of_mem_descriptionLines h
  · unfold deprecationLines at h
    split at h
    · exact not_mem_of_mem_lines h
    · cases h

/-- Trimming at the end keeps an opening that is not blank. -/
theorem stripRight_cons {c : Char} (hc : isBlank c = false) (s : List Char) :
    stripRight (c :: s) = c :: stripRight s := by
  unfold stripRight trimRight
  rw [List.reverse_cons, List.dropWhile_append]
  split
  · rename_i h
    rw [List.isEmpty_iff] at h
    rw [h, List.dropWhile_cons_of_neg (by simp [hc])]
    rfl
  · rw [List.reverse_append]
    rfl

/-- A comment line opens with the mark and has no blanks at its end. -/
theorem mem_commentChars {s l : List Char} (h : l ∈ lines (commentChars commentMark s)) :
    ∃ rest, l = '/' :: '/' :: rest ∧ IsSolid l := by
  have hform : ∀ line : List Char,
      stripRight (commentMark ++ ' ' :: line) = '/' :: '/' :: stripRight (' ' :: line) := by
    intro line
    change stripRight ('/' :: '/' :: ' ' :: line) = _
    rw [stripRight_cons (by decide), stripRight_cons (by decide)]
  rw [lines_commentChars (by decide)] at h
  obtain ⟨line, -, rfl⟩ := List.mem_map.mp h
  refine ⟨_, hform line, stripRight_stripRight _, ?_⟩
  rw [hform]
  exact List.cons_ne_nil _ _

theorem mem_descriptionLines {comments : Bool} {d : String} {l : List Char}
    (h : l ∈ descriptionLines comments d) : ∃ rest, l = '/' :: '/' :: rest ∧ IsSolid l := by
  unfold descriptionLines at h
  split at h
  · unfold commentText at h
    rw [toList_onChars] at h
    exact mem_commentChars h
  · cases h

/-- A comment opens with its mark. -/
theorem head_commentLines {comments : Bool} {f : SchemaField} {c : Char}
    (h : (ended (commentLines comments f)).head? = some c) : c = '/' := by
  unfold commentLines at h
  cases hd : descriptionLines comments (f.description?.getD "") with
  | cons l ls =>
    have hl : l ∈ descriptionLines comments (f.description?.getD "") := by
      rw [hd]
      exact List.mem_cons_self
    obtain ⟨rest, rfl, _⟩ := mem_descriptionLines hl
    rw [hd] at h
    simpa [eq_comm] using h
  | nil =>
    rw [hd, List.nil_append] at h
    unfold deprecationLines at h
    split at h
    · rw [ended_lines] at h
      simpa [eq_comm] using h
    · cases h

/-! ## Members -/

/-- A line moved in by a tab, but a blank one left as it is. -/
def movedIn (line : List Char) : List Char :=
  if (strip line).isEmpty then line else '\t' :: line

theorem movedIn_of_isBare {l : List Char} (h : IsBare l) (hne : l ≠ []) :
    movedIn l = '\t' :: l := by
  unfold movedIn
  rw [h.strip, if_neg (by simpa using hne)]

theorem not_mem_movedIn {l : List Char} (h : '\n' ∉ l) : '\n' ∉ movedIn l := by
  unfold movedIn
  split
  · exact h
  · intro hm
    rcases List.mem_cons.mp hm with hm | hm
    · exact absurd hm (by decide)
    · exact h hm

variable {ls : List (List Char)} {l : List Char}

/-- A declaration stands in its type with its lines moved in. -/
theorem toList_memberText {d : String} (hd : d.toList = ended (ls ++ [l]))
    (hnewline : ∀ m ∈ ls ++ [l], '\n' ∉ m) (hbare : IsBare (ended ls ++ l))
    (hne : ended ls ++ l ≠ []) :
    (memberText d).toList = ended ((ls ++ [l]).map movedIn) := by
  have htrim : (trimmedText d).toList = ended ls ++ l := by
    unfold trimmedText
    rw [toList_onChars, hd, ended_append, ended_cons, ended_nil, ← List.append_assoc]
    exact strip_append_newline hbare hne
  have hgiven : trimmedText d ≠ "" := by
    intro he
    rw [he] at htrim
    exact hne htrim.symm
  have hlines : lines (ended ls ++ l) = ls ++ [l] := by
    rw [← unlines_append_singleton]
    exact lines_unlines (List.append_ne_nil_of_right_ne_nil ls (List.cons_ne_nil l [])) hnewline
  unfold memberText
  rw [if_pos hgiven, String.toList_append]
  unfold indentedText
  rw [toList_onChars, htrim]
  unfold indentChars
  rw [hlines]
  apply unlines_append_newline
  rw [List.map_append]
  exact List.append_ne_nil_of_right_ne_nil _ (List.cons_ne_nil _ [])

/-- A method that stands between empty lines already stays as it is. -/
theorem methodText_eq_self {m : String} (hm : m.toList = '\n' :: (ended ls ++ l ++ ['\n']))
    (hbare : IsBare (ended ls ++ l)) (hne : ended ls ++ l ≠ []) : methodText m = m := by
  have htrim : (trimmedText m).toList = ended ls ++ l := by
    unfold trimmedText
    rw [toList_onChars, hm, strip_newline_cons]
    exact strip_append_newline hbare hne
  have hgiven : trimmedText m ≠ "" := by
    intro he
    rw [he] at htrim
    exact hne htrim.symm
  unfold methodText
  rw [if_pos hgiven, ← String.toList_inj, String.toList_append, String.toList_append, htrim, hm]
  rfl

/-! ## Declarations and accessors -/

theorem IsSchemaName.isSolid {name : String} (h : IsSchemaName name) : IsSolid name.toList :=
  ⟨h.isBare.stripRight, h.toList_ne_nil⟩

/-- A line without a newline in it and without blanks at its end. -/
def IsLine (l : List Char) : Prop := IsSolid l ∧ '\n' ∉ l

theorem IsLine.prepend (h : IsLine l) {s : List Char} (hs : '\n' ∉ s) : IsLine (s ++ l) := by
  refine ⟨h.1.prepend s, ?_⟩
  intro hm
  rcases List.mem_append.mp hm with hm | hm
  · exact hs hm
  · exact h.2 hm

/-- A Go type that can end a line. -/
def IsLineEnd (goType : String) : Prop := IsLine goType.toList

/-- How a field is declared: a struct field, or the method of an interface. -/
def declaredText (kind : TypeKind) (fieldName goType : String) : String :=
  if kind = .interface then accessorName fieldName ++ "() " ++ goType
  else storageName fieldName ++ " " ++ goType

variable {f : SchemaField} {name goType : String} {kind : TypeKind}

/-- A field is declared by an identifier, then what does not open it, then its Go type. -/
theorem toList_declaredText (kind : TypeKind) (goType : String) (hn : IsSchemaName name) :
    ∃ word mark, IsSchemaName word ∧ '\n' ∉ mark ∧
      (declaredText kind name goType).toList = word.toList ++ mark ++ goType.toList := by
  unfold declaredText
  split
  · refine ⟨accessorName name, "() ".toList, hn.accessorName, by decide, ?_⟩
    rw [String.toList_append, String.toList_append]
  · refine ⟨storageName name, " ".toList, hn.storageName, by decide, ?_⟩
    rw [String.toList_append, String.toList_append]

theorem isLine_declaredText (hn : IsSchemaName name) (ht : IsLineEnd goType) :
    IsLine (declaredText kind name goType).toList := by
  obtain ⟨word, mark, hword, hmark, htext⟩ := toList_declaredText kind goType hn
  rw [htext]
  refine IsLine.prepend ht ?_
  intro hm
  rcases List.mem_append.mp hm with hm | hm
  · exact hword.not_mem_newline hm
  · exact hmark hm

theorem head_declaredText (hn : IsSchemaName name) {c : Char}
    (h : (declaredText kind name goType).toList.head? = some c) : isBlank c = false := by
  obtain ⟨word, mark, hword, _, htext⟩ := toList_declaredText kind goType hn
  obtain ⟨d, rest, hd, _⟩ := hword.chars
  rw [htext, hd] at h
  obtain rfl : d = c := by simpa using h
  exact hword.isBare.1 d (by rw [hd]; rfl)

theorem toList_declarationText (comments : Bool) (kind : TypeKind) (f : SchemaField)
    (goType : String) :
    (declarationText comments kind f goType).toList =
      ended (commentLines comments f ++ [(declaredText kind f.name goType).toList]) := by
  unfold declarationText commentLines declaredText
  rw [String.toList_append, String.toList_append, String.toList_append,
    toList_descriptionText, toList_deprecationText, ended_append, ended_append, ended_cons,
    ended_nil, show "\n".toList = ['\n'] from rfl, List.append_assoc _ _ ['\n']]

/-- The declaration of a field stands in its type behind the lines of its comment. -/
theorem toList_memberText_declaration (comments : Bool) (hn : IsSchemaName f.name)
    (ht : IsLineEnd goType) :
    (memberText (declarationText comments kind f goType)).toList =
      ended ((commentLines comments f).map movedIn ++
        ['\t' :: (declaredText kind f.name goType).toList]) := by
  have hline : IsLine (declaredText kind f.name goType).toList := isLine_declaredText hn ht
  have hhead : ∀ c, (declaredText kind f.name goType).toList.head? = some c → isBlank c = false :=
    fun c hc => head_declaredText hn hc
  have hcomment : ∀ c, (ended (commentLines comments f)).head? = some c → isBlank c = false := by
    intro c hc
    rw [head_commentLines hc]
    decide
  have hbare : IsBare (declaredText kind f.name goType).toList :=
    ⟨hhead, fun c hc => hline.1.isBlank_of_getLast hc⟩
  have hnewline : ∀ m ∈ commentLines comments f ++ [(declaredText kind f.name goType).toList],
      '\n' ∉ m := by
    intro m hm
    rcases List.mem_append.mp hm with hm | hm
    · exact not_mem_of_mem_commentLines hm
    · rw [List.mem_singleton.mp hm]
      exact hline.2
  rw [toList_memberText (toList_declarationText comments kind f goType) hnewline
    (hline.1.isBare_append hcomment hhead) (List.append_ne_nil_of_right_ne_nil _ hline.1.2),
    List.map_append, List.map_singleton, movedIn_of_isBare hbare hline.1.2]

/-- The comment line of an accessor. -/
def accessorComment (typeName fieldName : String) : String :=
  "// " ++ accessorName fieldName ++ " resolves " ++ typeName ++ "." ++ fieldName ++ "."

def accessorSignature (typeName fieldName goType : String) : String :=
  "func (r *" ++ resolverName typeName ++ ") " ++ accessorName fieldName ++ "() " ++ goType ++
    " \x7b"

def accessorReturn (fieldName : String) : String := "\treturn r." ++ storageName fieldName

/-- The lines of an accessor before its closing brace. -/
def accessorLines (typeName fieldName goType : String) : List (List Char) :=
  [(accessorComment typeName fieldName).toList,
    (accessorSignature typeName fieldName goType).toList, (accessorReturn fieldName).toList]

variable {typeName : String}

theorem toList_accessorText (typeName fieldName goType : String) :
    (accessorText typeName fieldName goType).toList =
      ended ([] :: (accessorLines typeName fieldName goType ++ [['\x7d']])) := by
  unfold accessorText accessorLines accessorComment accessorSignature accessorReturn
  simp

theorem isSolid_accessorComment : IsSolid (accessorComment typeName name).toList := by
  unfold accessorComment
  exact isSolid_toList_append _ (isSolid_of_getLast (c := '.') rfl (by decide))

theorem isSolid_accessorSignature : IsSolid (accessorSignature typeName name goType).toList := by
  unfold accessorSignature
  exact isSolid_toList_append _ (isSolid_of_getLast (c := '\x7b') rfl (by decide))

theorem isSolid_accessorReturn (hn : IsSchemaName name) : IsSolid (accessorReturn name).toList := by
  unfold accessorReturn
  exact isSolid_toList_append _ hn.storageName.isSolid

theorem not_mem_accessorLines (htype : '\n' ∉ typeName.toList) (hn : IsSchemaName name)
    (hgo : '\n' ∉ goType.toList) {l : List Char} (hl : l ∈ accessorLines typeName name goType) :
    '\n' ∉ l := by
  have haccessor := hn.accessorName.not_mem_newline
  have hstorage := hn.storageName.not_mem_newline
  have hfield := hn.not_mem_newline
  unfold accessorLines at hl
  rw [List.mem_cons, List.mem_cons, List.mem_singleton] at hl
  rcases hl with hl | hl | hl
  · rw [hl]
    unfold accessorComment
    simp [haccessor, htype, hfield]
  · rw [hl]
    unfold accessorSignature resolverName resolverSuffix
    simp [haccessor, htype, hgo]
  · rw [hl]
    unfold accessorReturn
    simp [hstorage]

/-- An accessor is settled: an empty line, and then lines without blanks at their ends. -/
theorem settled_accessorLines (hn : IsSchemaName name) :
    Settled ([] :: (accessorLines typeName name goType ++ [['\x7d']])) := by
  have hbrace : IsSolid ['\x7d'] := isSolid_of_getLast rfl (by decide)
  exact .gap isSolid_accessorComment (.line isSolid_accessorSignature
    (.line (isSolid_accessorReturn hn) (.line hbrace .nil)))

end ResolverGen.Go
