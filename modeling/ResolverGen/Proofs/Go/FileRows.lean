import Mathlib.Data.List.Basic
import ResolverGen.Proofs.Go.CodeRows
import ResolverGen.Proofs.Go.FieldStorage

/-!
# Rows of a file

Which fields the struct of a type declares, and which ones its methods use, is read off a text row
by row. A member is one row; a method is the row that opens it, its use of a struct field and a
brace. A file whose parts stay on their lines is read back so, and so is a constructor.
-/
namespace ResolverGen.Go

open Text Formatter Go.Generator

/-! ## What is read -/

/-- The first word of a row. -/
def firstWord (l : List Char) : List Char := (trimLeft isBlank l).takeWhile (!isBlank ·)

/-- The names of the fields that a text declares in the struct of a type. -/
def structFields (typeName text : String) : List (List Char) :=
  (blockRows (· == structLine typeName) (rowsOf text.toList)).map firstWord

/-- Whether a row opens a method of a resolver. -/
def isMethodLine (typeName : String) (l : List Char) : Bool :=
  ("func (r *" ++ resolverName typeName ++ ") ").toList.isPrefixOf l

/-- The struct field that a row returns or replaces. -/
def usedField? (l : List Char) : Option (List Char) :=
  match "return r.".toList.isPrefixOf? (strip l) with
  | some field => some field
  | none => ("r.".toList.isPrefixOf? (strip l)).bind (" = value".toList.isSuffixOf? ·)

/-- The names of the struct fields that the accessors and setters in a text use. -/
def usedFields (typeName text : String) : List (List Char) :=
  (blockRows (isMethodLine typeName) (rowsOf text.toList)).filterMap usedField?

/-! ## Comments -/

/-- A text of lines that open with the mark of a comment. -/
def IsComment (s : String) : Prop :=
  ∃ ls, (∀ l ∈ ls, '\n' ∉ l ∧ ∃ rest, l = '/' :: '/' :: rest) ∧ s.toList = ended ls

theorem isComment_empty : IsComment "" := ⟨[], by simp, rfl⟩

theorem IsComment.append {s s' : String} (h : IsComment s) (h' : IsComment s') :
    IsComment (s ++ s') := by
  obtain ⟨ls, hls, hs⟩ := h
  obtain ⟨ms, hms, hs'⟩ := h'
  refine ⟨ls ++ ms, ?_, by rw [String.toList_append, hs, hs', ended_append]⟩
  intro l hl
  exact (List.mem_append.mp hl).elim (hls l) (hms l)

theorem isComment_descriptionText (comments : Bool) (d : String) :
    IsComment (descriptionText comments d) := by
  refine ⟨descriptionLines comments d, fun l hl => ?_, toList_descriptionText comments d⟩
  obtain ⟨rest, hrest, -⟩ := mem_descriptionLines hl
  exact ⟨not_mem_of_mem_descriptionLines hl, rest, hrest⟩

/-- A reason that stays on its line is a comment. -/
theorem isComment_deprecationText {comments : Bool} {reason : String}
    (h : comments = true → '\n' ∉ reason.toList) : IsComment (deprecationText comments reason) := by
  unfold deprecationText
  split
  · rename_i hgiven
    have hreason : '\n' ∉ reason.toList := h (by simp_all)
    refine ⟨[("// Deprecated: " ++ reason).toList], ?_, by simp⟩
    intro l hl
    rw [List.mem_singleton.mp hl]
    exact ⟨by simp [hreason], (" Deprecated: " ++ reason).toList, by simp⟩
  · exact isComment_empty

theorem IsComment.endsLine {s : String} (h : IsComment s) : EndsLine s.toList := by
  obtain ⟨ls, hls, hs⟩ := h
  exact ⟨ls, fun l hl => (hls l hl).1, hs⟩

theorem IsComment.rowsOf_eq_nil {s : String} (h : IsComment s) : rowsOf s.toList = [] := by
  obtain ⟨ls, hls, hs⟩ := h
  rw [hs, rowsOf_ended fun l hl => (hls l hl).1]
  refine codeRows_eq_nil fun l hl => isCode_of_isCommentLine ?_
  obtain ⟨rest, rfl⟩ := (hls l hl).2
  exact isCommentLine_iff.mpr ⟨[], rest, by simp, rfl⟩

theorem IsComment.head {s : String} (h : IsComment s) {c : Char}
    (hc : s.toList.head? = some c) : c = '/' := by
  obtain ⟨ls, hls, hs⟩ := h
  rw [hs] at hc
  cases ls with
  | nil => cases hc
  | cons l rest =>
    obtain ⟨-, tail, rfl⟩ := hls l List.mem_cons_self
    simpa [eq_comm] using hc

/-! ## Members -/

/-- A member behind a comment, whose name is a word and whose Go type stays on its line. -/
structure Member.IsLinewise (m : Member) : Prop where
  comment : IsComment m.comment
  name : IsSchemaName m.name
  goType : '\n' ∉ m.goType.toList

/-- What a member says beside its comment. -/
def Member.row (m : Member) : List Char := stripRight (m.name ++ " " ++ m.goType).toList

theorem Member.toList_text (m : Member) :
    m.text.toList = m.comment.toList ++ ended [(m.name ++ " " ++ m.goType).toList] := by
  unfold Member.text
  rw [String.toList_append, String.toList_append, ended_cons, ended_nil, List.append_assoc]
  rfl

/-- Blanks at the end of a row belong to no word. -/
theorem takeWhile_stripRight (l : List Char) :
    (stripRight l).takeWhile (!isBlank ·) = l.takeWhile (!isBlank ·) := by
  obtain ⟨blanks, hblanks, hl⟩ := exists_eq_stripRight_append l
  have hnone : blanks.takeWhile (!isBlank ·) = [] := by
    cases blanks with
    | nil => rfl
    | cons b bs => rw [List.takeWhile_cons_of_neg (by simp [hblanks b List.mem_cons_self])]
  have happend : (stripRight l ++ blanks).takeWhile (!isBlank ·) = _ := List.takeWhile_append
  rw [← hl, hnone, List.append_nil] at happend
  rw [happend]
  split
  · rename_i hall
    exact (List.takeWhile_prefix _).eq_of_length hall
  · rfl

namespace Member.IsLinewise

variable {m : Member} (h : m.IsLinewise)

include h

theorem not_mem_line : '\n' ∉ (m.name ++ " " ++ m.goType).toList := by
  simp [h.name.not_mem_newline, h.goType]

theorem endsLine_text : EndsLine m.text.toList := by
  rw [m.toList_text]
  refine h.comment.endsLine.append (endsLine_ended fun l hl => ?_)
  rw [List.mem_singleton.mp hl]
  exact h.not_mem_line

/-- A member opens in the first character of its name. -/
theorem exists_line : ∃ c rest, isBlank c = false ∧ c ≠ '\x7d' ∧ c ≠ '/' ∧
    (m.name ++ " " ++ m.goType).toList = c :: rest := by
  obtain ⟨c, rest, hname, hc, -⟩ := h.name.chars
  refine ⟨c, rest ++ ' ' :: m.goType.toList, ?_, ?_, ?_, ?_⟩
  · exact h.name.isBare.1 c (by rw [hname]; rfl)
  · rintro rfl
    exact absurd hc (by decide)
  · rintro rfl
    exact absurd hc (by decide)
  · rw [String.toList_append, String.toList_append, hname]
    simp

theorem rowsOf_text : rowsOf m.text.toList = [m.row] := by
  have hline : ∀ l ∈ [(m.name ++ " " ++ m.goType).toList], '\n' ∉ l := by
    simpa using h.not_mem_line
  obtain ⟨c, rest, hblank, -, hmark, hrow⟩ := h.exists_line
  have hcode : isCode (m.name ++ " " ++ m.goType).toList = true := by
    rw [hrow]
    exact isCode_of_head hblank hmark rest
  rw [m.toList_text, h.comment.endsLine.rowsOf_append, h.comment.rowsOf_eq_nil, rowsOf_ended hline,
    codeRows_cons, hcode]
  rfl

theorem head_text {c : Char} (hc : m.text.toList.head? = some c) : isBlank c = false := by
  obtain ⟨d, rest, hblank, -, -, hrow⟩ := h.exists_line
  rw [m.toList_text] at hc
  cases hcomment : m.comment.toList with
  | nil =>
    rw [hcomment, ended_cons, hrow] at hc
    obtain rfl : d = c := by simpa using hc
    exact hblank
  | cons e es =>
    rw [hcomment] at hc
    obtain rfl : e = c := by simpa using hc
    rw [h.comment.head (c := e) (by rw [hcomment]; rfl)]
    decide

theorem exists_row : ∃ c rest, isBlank c = false ∧ c ≠ '\x7d' ∧ m.row = c :: rest := by
  obtain ⟨c, rest, hblank, hbrace, -, hrow⟩ := h.exists_line
  refine ⟨c, stripRight rest, hblank, hbrace, ?_⟩
  unfold Member.row
  rw [hrow, stripRight_cons hblank]

/-- Read again, the row of a member gives its name. -/
theorem firstWord_row : firstWord ('\t' :: m.row) = m.name.toList := by
  obtain ⟨c, rest, hblank, -, hrow⟩ := h.exists_row
  have hword : ∀ d ∈ m.name.toList, (!isBlank d) = true := by
    intro d hd
    rw [not_isBlank_of_isPlainChar (isPlainChar_of_mem h.name d hd)]
    rfl
  unfold firstWord trimLeft
  rw [List.dropWhile_cons_of_pos (by decide), hrow,
    List.dropWhile_cons_of_neg (by simp [hblank]), ← hrow]
  unfold Member.row
  rw [takeWhile_stripRight, String.toList_append, String.toList_append, List.append_assoc,
    List.takeWhile_append_of_pos hword]
  exact List.append_nil _

end Member.IsLinewise

/-! ## Functions -/

/-- A function behind its remark: the line that opens it, one for what it does, and a brace. -/
def functionLines (remark head body : List Char) : List (List Char) :=
  [[], "// ".toList ++ remark, head, '\t' :: body, closingBrace]

/-- The lines of a function that returns or replaces something. -/
structure IsFunction (head body : List Char) : Prop where
  opens : ∃ rest, head = 'f' :: rest
  does : ∃ rest, body = 'r' :: rest
  solidHead : IsSolid head
  solidBody : IsSolid body

theorem exists_structLine (typeName : String) : ∃ rest, structLine typeName = 't' :: rest := by
  unfold structLine
  rw [String.toList_append, String.toList_append, List.append_assoc]
  exact ⟨_, rfl⟩

theorem beq_structLine_eq_false {r : List Char} {typeName : String} (h : r.head? ≠ some 't') :
    (r == structLine typeName) = false := by
  obtain ⟨rest, hrest⟩ := exists_structLine typeName
  rw [beq_eq_false_iff_ne]
  rintro rfl
  exact h (by rw [hrest]; rfl)

theorem isMethodLine_eq_false {r : List Char} {typeName : String} (h : r.head? ≠ some 'f') :
    isMethodLine typeName r = false := by
  unfold isMethodLine
  rw [Bool.eq_false_iff, ne_eq, List.isPrefixOf_iff_prefix]
  rintro ⟨rest, rfl⟩
  refine h ?_
  rw [String.toList_append, String.toList_append, List.append_assoc, List.append_assoc]
  rfl

namespace IsFunction

variable {head body : List Char} (h : IsFunction head body)

include h

theorem strip_body : strip ('\t' :: body) = body := by
  obtain ⟨rest, hbody⟩ := h.does
  rw [hbody, strip_tab_cons (by decide), ← hbody]
  exact h.solidBody.1

theorem codeRows_functionLines (remark : List Char) :
    codeRows (functionLines remark head body) =
      head :: ([('\t' :: body)] ++ [closingBrace]) := by
  obtain ⟨rest, hbody⟩ := h.does
  obtain ⟨tail, hhead⟩ := h.opens
  have hremark : isCode ("// ".toList ++ remark) = false :=
    isCode_of_isCommentLine (isCommentLine_iff.mpr ⟨[], ' ' :: remark, by simp, rfl⟩)
  have hcode : isCode head = true := by
    rw [hhead]
    exact isCode_of_head (by decide) (by decide) tail
  have hmoved : isCode ('\t' :: body) = true := by
    rw [isCode_tab_cons, hbody]
    exact isCode_of_head (by decide) (by decide) rest
  have hstrip : stripRight ('\t' :: body) = '\t' :: body := (h.solidBody.prepend ['\t']).1
  unfold functionLines
  rw [codeRows_cons, codeRows_cons, hremark, codeRows_cons, hcode, codeRows_cons, hmoved,
    h.solidHead.1, hstrip]
  rfl

/-- A function holds no struct. -/
theorem encloses_struct (typeName : String) :
    Encloses (· == structLine typeName) (head :: ([('\t' :: body)] ++ [closingBrace])) [] := by
  obtain ⟨rest, hhead⟩ := h.opens
  refine encloses_skip fun r hr => beq_structLine_eq_false ?_
  simp only [List.mem_cons, List.mem_append, List.not_mem_nil, or_false, closingBrace] at hr
  rcases hr with rfl | rfl | rfl
  · simp [hhead]
  · simp
  · simp

/-- A function that is a method of a type is a block of that type. -/
theorem encloses_method (typeName : String) :
    Encloses (isMethodLine typeName) (head :: ([('\t' :: body)] ++ [closingBrace]))
      (if isMethodLine typeName head then ['\t' :: body] else []) := by
  have hbody : ∀ r ∈ [('\t' :: body)],
      isMethodLine typeName r = false ∧ strip r ≠ closingBrace := by
    intro r hr
    rw [List.mem_singleton.mp hr]
    refine ⟨isMethodLine_eq_false (by simp), ?_⟩
    obtain ⟨rest, hrest⟩ := h.does
    rw [hrest]
    exact strip_tab_cons_ne (by decide) (by decide) rest
  split
  · rename_i hopens
    exact encloses_block hopens (isMethodLine_eq_false (by decide)) hbody
  · rename_i hopens
    refine encloses_skip fun r hr => ?_
    rcases List.mem_cons.mp hr with rfl | hr
    · exact Bool.eq_false_iff.mpr hopens
    rcases List.mem_append.mp hr with hr | hr
    · exact (hbody r hr).1
    · rw [List.mem_singleton.mp hr]
      exact isMethodLine_eq_false (by decide)

end IsFunction

/-! ## Methods -/

/-- A method whose words are words and whose Go type stays on its line. -/
structure Method.IsLinewise (m : Method) : Prop where
  typeName : '\n' ∉ m.typeName.toList
  fieldName : IsSchemaName m.fieldName
  goType : '\n' ∉ m.goType.toList
  storage : IsSchemaName m.storage

namespace Method

/-- What the comment of a method says. -/
def remark (m : Method) : String :=
  match m.kind with
  | .accessor => accessorName m.fieldName ++ " resolves " ++ m.typeName ++ "." ++ m.fieldName ++ "."
  | .setter => "Set" ++ accessorName m.fieldName ++ " replaces the value returned by " ++
      accessorName m.fieldName ++ "."

/-- What follows the receiver in the line that opens a method. -/
def signature (m : Method) : String :=
  match m.kind with
  | .accessor => accessorName m.fieldName ++ "() " ++ m.goType
  | .setter => "Set" ++ accessorName m.fieldName ++ "(value " ++ m.goType ++ ")"

/-- The line that opens a method. -/
def head (m : Method) : List Char :=
  ("func (r *" ++ resolverName m.typeName ++ ") ").toList ++ (m.signature ++ " \x7b").toList

/-- What a method does with its struct field. -/
def use (m : Method) : List Char :=
  match m.kind with
  | .accessor => "return r.".toList ++ m.storage.toList
  | .setter => "r.".toList ++ (m.storage.toList ++ " = value".toList)

theorem toList_text (m : Method) :
    m.text.toList = ended (functionLines m.remark.toList m.head m.use) := by
  unfold text functionLines head remark signature use closingBrace
  cases m.kind <;> simp

theorem isMethodLine_head (m : Method) : isMethodLine m.typeName m.head = true := by
  unfold isMethodLine head
  rw [List.isPrefixOf_iff_prefix]
  exact List.prefix_append _ _

namespace IsLinewise

variable {m : Method} (h : m.IsLinewise)

include h

theorem isFunction : IsFunction m.head m.use where
  opens := by
    unfold head
    exact ⟨_, by rw [String.toList_append, String.toList_append, List.append_assoc,
      List.append_assoc]; rfl⟩
  does := by
    unfold use
    cases m.kind
    · exact ⟨"eturn r.".toList ++ m.storage.toList, rfl⟩
    · exact ⟨'.' :: (m.storage.toList ++ " = value".toList), rfl⟩
  solidHead := by
    unfold head
    exact (isSolid_toList_append _ (isSolid_of_getLast rfl (by decide))).prepend _
  solidBody := by
    have hstorage := h.storage.isSolid
    unfold use
    cases m.kind with
    | accessor => exact hstorage.prepend _
    | setter => exact (IsSolid.prepend (isSolid_of_getLast rfl (by decide)) _).prepend _

theorem not_mem_lines : ∀ l ∈ functionLines m.remark.toList m.head m.use, '\n' ∉ l := by
  have haccessor := h.fieldName.accessorName.not_mem_newline
  have hfield := h.fieldName.not_mem_newline
  have hstorage := h.storage.not_mem_newline
  unfold functionLines head remark signature use closingBrace resolverName resolverSuffix
  cases m.kind <;>
    simp [haccessor, hfield, hstorage, h.typeName, h.goType]

theorem endsLine_text : EndsLine m.text.toList := by
  rw [m.toList_text]
  exact endsLine_ended h.not_mem_lines

/-- A method is read as the line that opens it, its use of the struct field, and a brace. -/
theorem rowsOf_text : rowsOf m.text.toList = m.head :: ([('\t' :: m.use)] ++ [closingBrace]) := by
  rw [m.toList_text, rowsOf_ended h.not_mem_lines]
  exact h.isFunction.codeRows_functionLines _

theorem encloses_struct (typeName : String) :
    Encloses (· == structLine typeName) (rowsOf m.text.toList) [] := by
  rw [h.rowsOf_text]
  exact h.isFunction.encloses_struct typeName

theorem encloses_use : Encloses (isMethodLine m.typeName) (rowsOf m.text.toList)
    ['\t' :: m.use] := by
  have hmethod := h.isFunction.encloses_method m.typeName
  rw [m.isMethodLine_head] at hmethod
  rw [h.rowsOf_text]
  exact hmethod

/-- Read again, a method gives the struct field that it uses. -/
theorem usedField?_use : usedField? ('\t' :: m.use) = some m.storage.toList := by
  unfold usedField?
  rw [h.isFunction.strip_body]
  unfold use
  cases m.kind with
  | accessor =>
    rw [List.isPrefixOf?_eq_some_iff_append_eq.mpr rfl]
  | setter =>
    have hother : "return r.".toList.isPrefixOf?
        ("r.".toList ++ (m.storage.toList ++ " = value".toList)) = none := rfl
    dsimp only
    rw [hother]
    dsimp only
    rw [List.isPrefixOf?_eq_some_iff_append_eq.mpr rfl]
    exact List.isSuffixOf?_eq_some_iff_append_eq.mpr rfl

end IsLinewise

end Method

/-! ## Files -/

/-- A file with parts that stay on their lines. -/
structure ResolverFile.IsLinewise (file : ResolverFile) : Prop where
  package : '\n' ∉ file.package.toList
  imports : ∀ j ∈ file.imports, '\n' ∉ j.plain.toList
  comment : IsComment file.comment
  typeName : '\n' ∉ file.typeName.toList
  members : ∀ p ∈ file.fields, ∀ m ∈ p.members, m.IsLinewise
  methods : ∀ p ∈ file.fields, ∀ m ∈ p.methods, m.IsLinewise ∧ m.typeName = file.typeName

/-- The lines of a file before its struct and the comment of the struct. -/
def ResolverFile.openingLines (file : ResolverFile) : List (List Char) :=
  ("package " ++ file.package).toList :: importLines file.imports

/-- The rows of the members, moved in. -/
def ResolverFile.memberRows (file : ResolverFile) : List (List Char) :=
  file.fields.flatMap fun p => p.members.map fun m => '\t' :: m.row

/-- A row is the opening of the line that it comes from. -/
theorem exists_line_of_mem_codeRows {ls : List (List Char)} {r : List Char} (h : r ∈ codeRows ls) :
    ∃ l ∈ ls, r.head? = l.head? := by
  obtain ⟨hmem, hcode⟩ := List.mem_filter.mp h
  obtain ⟨l, hl, rfl⟩ := List.mem_map.mp hmem
  refine ⟨l, hl, ?_⟩
  obtain ⟨blanks, -, hsplit⟩ := exists_eq_stripRight_append l
  cases hstrip : stripRight l with
  | nil =>
    rw [hstrip] at hcode
    cases hcode
  | cons c rest =>
    rw [hsplit, hstrip]
    rfl

theorem Member.IsLinewise.strip_row_ne {m : Member} (h : m.IsLinewise) :
    strip ('\t' :: m.row) ≠ closingBrace := by
  obtain ⟨c, rest, hblank, hbrace, hrow⟩ := h.exists_row
  rw [hrow]
  exact strip_tab_cons_ne hblank hbrace rest

namespace ResolverFile.IsLinewise

variable {file : ResolverFile} (h : file.IsLinewise)

include h

/-- The members of a field of the schema, moved in. -/
theorem rowsOf_members {p : FieldParts} (hp : p ∈ file.fields) :
    rowsOf (memberText (String.join (p.members.map Member.text))).toList =
      p.members.map fun m => '\t' :: m.row := by
  have hmembers := h.members p hp
  have hhead : ∀ c, (String.join (p.members.map Member.text)).toList.head? = some c →
      isBlank c = false := by
    intro c hc
    cases hlist : p.members with
    | nil =>
      rw [hlist] at hc
      cases hc
    | cons m rest =>
      have hm := hmembers m (by rw [hlist]; exact List.mem_cons_self)
      obtain ⟨d, tail, -, -, -, hline⟩ := hm.exists_line
      have hne : m.text.toList ≠ [] := by
        rw [m.toList_text, ended_cons, hline]
        simp
      rw [hlist, List.map_cons, String.join_cons, String.toList_append,
        List.head?_append_of_ne_nil _ hne] at hc
      exact hm.head_text hc
  rw [rowsOf_memberText hhead, rowsOf_join fun m hm => (hmembers m hm).endsLine_text,
    List.map_flatMap]
  rw [List.map_eq_flatMap]
  exact List.flatMap_congr fun m hm => by rw [(hmembers m hm).rowsOf_text]; rfl

theorem rowsOf_methods {p : FieldParts} (hp : p ∈ file.fields) :
    rowsOf (methodText (String.join (p.methods.map Method.text))).toList =
      p.methods.flatMap fun m => rowsOf m.text.toList := by
  have hmethods := h.methods p hp
  have hends : ∀ m ∈ p.methods, EndsLine m.text.toList := fun m hm =>
    (hmethods m hm).1.endsLine_text
  rw [← rowsOf_join hends]
  cases hlist : p.methods with
  | nil => rfl
  | cons m rest =>
    have hopens : (String.join ((m :: rest).map Method.text)).toList =
        '\n' :: ("// ".toList ++ m.remark.toList ++ '\n' ::
          (ended [m.head, '\t' :: m.use, closingBrace] ++
            (String.join (rest.map Method.text)).toList)) := by
      rw [List.map_cons, String.join_cons, String.toList_append, m.toList_text]
      simp [functionLines]
    refine rowsOf_methodText hopens fun c hc => ?_
    obtain rfl : '/' = c := by simpa using hc
    decide

omit h in
/-- A file is what stands before its struct, the struct with its members, and the methods. -/
theorem toList_text : file.text.toList =
    ended file.openingLines ++
      ('\n' :: file.comment.toList ++ (ended [structLine file.typeName] ++
        ((String.join (file.fields.map fun p =>
          memberText (String.join (p.members.map Member.text)))).toList ++
          (ended [closingBrace] ++ (String.join (file.fields.map fun p =>
            methodText (String.join (p.methods.map Method.text)))).toList)))) := by
  have hends : "\n".toList = ['\n'] := rfl
  have hstruct : " struct \x7b\n" = " struct \x7b" ++ "\n" := rfl
  have hbrace : "\x7d\n".toList = ['\x7d', '\n'] := rfl
  unfold text openingLines structLine closingBrace
  rw [ended_cons, ← toList_importText, hstruct]
  simp only [String.toList_append, List.append_assoc, hends, hbrace, ended_cons, ended_nil,
    List.cons_append, List.nil_append]

theorem not_mem_openingLines : ∀ l ∈ file.openingLines, '\n' ∉ l := by
  unfold openingLines
  refine List.forall_mem_cons.mpr ⟨by simp [h.package], fun l hl => ?_⟩
  unfold importLines at hl
  split at hl
  · simp only [List.mem_cons, List.mem_append, List.mem_map, List.not_mem_nil, or_false] at hl
    rcases hl with rfl | rfl | ⟨j, hj, rfl⟩ | rfl
    · decide
    · decide
    · simpa using h.imports j hj
    · decide
  · cases hl

theorem not_mem_structLine : ∀ l ∈ [structLine file.typeName], '\n' ∉ l := by
  have hname := h.typeName
  simp [structLine, resolverName, resolverSuffix, hname]

omit h in
theorem endsLine_members (file : ResolverFile) : EndsLine (String.join (file.fields.map fun p =>
    memberText (String.join (p.members.map Member.text)))).toList :=
  endsLine_join fun _ _ => endsLine_memberText _

theorem endsLine_text : EndsLine file.text.toList := by
  have hmethods : EndsLine (String.join (file.fields.map fun p =>
      methodText (String.join (p.methods.map Method.text)))).toList :=
    endsLine_join fun _ _ => endsLine_methodText _
  have hbrace : EndsLine (ended [closingBrace]) := endsLine_ended (by decide)
  have hstruct := (endsLine_ended h.not_mem_structLine).append
    ((endsLine_members file).append (hbrace.append hmethods))
  have hnewline : EndsLine ['\n'] := endsLine_append_newline []
  rw [toList_text]
  exact (endsLine_ended h.not_mem_openingLines).append
    (hnewline.append h.comment.endsLine |>.append hstruct)

theorem rowsOf_text : rowsOf file.text.toList =
    codeRows file.openingLines ++
      (structLine file.typeName :: (file.memberRows ++ [closingBrace]) ++
        file.methods.flatMap fun m => rowsOf m.text.toList) := by
  have hstruct : codeRows [structLine file.typeName] = [structLine file.typeName] := by
    have hsolid : IsSolid (structLine file.typeName) :=
      isSolid_toList_append _ (isSolid_of_getLast rfl (by decide))
    have hcode : isCode (structLine file.typeName) = true := by
      obtain ⟨rest, hrest⟩ := exists_structLine file.typeName
      rw [hrest]
      exact isCode_of_head (by decide) (by decide) rest
    rw [codeRows_cons, hcode, hsolid.1]
    rfl
  have hbrace : codeRows [closingBrace] = [closingBrace] := by decide
  rw [toList_text, rowsOf_ended_append h.not_mem_openingLines, List.cons_append, rowsOf_newline_cons,
    h.comment.endsLine.rowsOf_append, h.comment.rowsOf_eq_nil,
    rowsOf_ended_append h.not_mem_structLine, hstruct, (endsLine_members file).rowsOf_append,
    rowsOf_ended_append (by decide), hbrace, rowsOf_join fun p _ => endsLine_memberText _,
    rowsOf_join fun p _ => endsLine_methodText _,
    List.flatMap_congr fun p hp => h.rowsOf_members hp,
    List.flatMap_congr fun p hp => h.rowsOf_methods hp]
  unfold ResolverFile.methods memberRows
  rw [List.flatMap_assoc]
  simp

omit h in
/-- What stands before the struct opens neither a struct nor a method. -/
theorem head_of_opening {r : List Char} (hr : r ∈ codeRows file.openingLines) :
    r.head? ≠ some 't' ∧ r.head? ≠ some 'f' := by
  obtain ⟨l, hl, hhead⟩ := exists_line_of_mem_codeRows hr
  rw [hhead]
  unfold openingLines at hl
  rcases List.mem_cons.mp hl with rfl | hl
  · simp
  · unfold importLines at hl
    split at hl
    · simp only [List.mem_cons, List.mem_append, List.mem_map, List.not_mem_nil, or_false] at hl
      rcases hl with rfl | rfl | ⟨j, hj, rfl⟩ | rfl <;> simp
    · cases hl

theorem encloses_struct : Encloses (· == structLine file.typeName) (rowsOf file.text.toList)
    file.memberRows := by
  have hopening : Encloses (· == structLine file.typeName) (codeRows file.openingLines) [] :=
    encloses_skip fun r hr => beq_structLine_eq_false (head_of_opening hr).1
  have hmethods : Encloses (· == structLine file.typeName)
      (file.methods.flatMap fun m => rowsOf m.text.toList) [] := by
    have hnone : Encloses (· == structLine file.typeName)
        (file.methods.flatMap fun m => rowsOf m.text.toList) (file.methods.flatMap fun _ => []) :=
      encloses_flatMap fun m hm => by
        obtain ⟨p, hp, hm⟩ := List.mem_flatMap.mp hm
        exact (h.methods p hp m hm).1.encloses_struct _
    rwa [List.flatMap_eq_nil_iff.mpr fun m _ => rfl] at hnone
  have hstruct : Encloses (· == structLine file.typeName)
      (structLine file.typeName :: (file.memberRows ++ [closingBrace])) file.memberRows := by
    refine encloses_block (beq_self_eq_true _) (beq_structLine_eq_false (by decide)) ?_
    intro r hr
    obtain ⟨p, hp, hr⟩ := List.mem_flatMap.mp hr
    obtain ⟨m, hm, rfl⟩ := List.mem_map.mp hr
    exact ⟨beq_structLine_eq_false (by simp), (h.members p hp m hm).strip_row_ne⟩
  have hall := hopening.append (hstruct.append hmethods)
  rw [h.rowsOf_text]
  simpa using hall

theorem encloses_uses : Encloses (isMethodLine file.typeName) (rowsOf file.text.toList)
    (file.methods.map fun m => '\t' :: m.use) := by
  have hopening : Encloses (isMethodLine file.typeName) (codeRows file.openingLines) [] :=
    encloses_skip fun r hr => isMethodLine_eq_false (head_of_opening hr).2
  have hstruct : Encloses (isMethodLine file.typeName)
      (structLine file.typeName :: (file.memberRows ++ [closingBrace])) [] := by
    refine encloses_skip fun r hr => isMethodLine_eq_false ?_
    rcases List.mem_cons.mp hr with rfl | hr
    · obtain ⟨rest, hrest⟩ := exists_structLine file.typeName
      simp [hrest]
    rcases List.mem_append.mp hr with hr | hr
    · obtain ⟨p, hp, hr⟩ := List.mem_flatMap.mp hr
      obtain ⟨m, hm, rfl⟩ := List.mem_map.mp hr
      simp
    · rw [List.mem_singleton.mp hr]
      decide
  have hmethods : Encloses (isMethodLine file.typeName)
      (file.methods.flatMap fun m => rowsOf m.text.toList)
      (file.methods.flatMap fun m => ['\t' :: m.use]) :=
    encloses_flatMap fun m hm => by
      obtain ⟨p, hp, hm⟩ := List.mem_flatMap.mp hm
      obtain ⟨hline, htype⟩ := h.methods p hp m hm
      rw [← htype]
      exact hline.encloses_use
  have hall := hopening.append (hstruct.append hmethods)
  rw [h.rowsOf_text, List.map_eq_flatMap]
  simpa using hall

end ResolverFile.IsLinewise

/-! ## Constructors -/

/-- The line that opens a constructor. -/
def constructorHead (typeName name : String) : List Char :=
  "func ".toList ++ (name ++ "() *" ++ resolverName typeName ++ " \x7b").toList

/-- What a constructor returns. -/
def constructorReturn (typeName : String) : List Char :=
  "return &".toList ++ (resolverName typeName ++ "\x7b\x7d").toList

theorem toList_constructorText (typeName name : String) :
    (constructorText typeName name).toList =
      ended (functionLines (name ++ " returns an empty " ++ resolverName typeName ++ ".").toList
        (constructorHead typeName name) (constructorReturn typeName)) := by
  unfold constructorText functionLines constructorHead constructorReturn closingBrace
  simp

theorem isFunction_constructor (typeName name : String) :
    IsFunction (constructorHead typeName name) (constructorReturn typeName) where
  opens := ⟨"unc ".toList ++ (name ++ "() *" ++ resolverName typeName ++ " \x7b").toList, rfl⟩
  does := ⟨"eturn &".toList ++ (resolverName typeName ++ "\x7b\x7d").toList, rfl⟩
  solidHead := by
    unfold constructorHead
    exact (isSolid_toList_append _ (isSolid_of_getLast rfl (by decide))).prepend _
  solidBody := by
    unfold constructorReturn
    exact (isSolid_toList_append _ (isSolid_of_getLast rfl (by decide))).prepend _

theorem usedField?_constructorReturn (typeName : String) :
    usedField? ('\t' :: constructorReturn typeName) = none := by
  have hread : "return r.".toList.isPrefixOf? (constructorReturn typeName) = none := rfl
  have hwritten : "r.".toList.isPrefixOf? (constructorReturn typeName) = none := rfl
  unfold usedField?
  rw [(isFunction_constructor typeName "").strip_body, hread, hwritten]
  rfl

section Constructors

variable {typeName name : String} (htype : '\n' ∉ typeName.toList) (hname : '\n' ∉ name.toList)

include htype hname

theorem not_mem_constructorLines : ∀ l ∈ functionLines
    (name ++ " returns an empty " ++ resolverName typeName ++ ".").toList
    (constructorHead typeName name) (constructorReturn typeName), '\n' ∉ l := by
  unfold functionLines constructorHead constructorReturn closingBrace resolverName resolverSuffix
  simp [htype, hname]

theorem endsLine_constructorText : EndsLine (constructorText typeName name).toList := by
  rw [toList_constructorText]
  exact endsLine_ended (not_mem_constructorLines htype hname)

theorem rowsOf_constructorText : rowsOf (constructorText typeName name).toList =
    constructorHead typeName name ::
      ([('\t' :: constructorReturn typeName)] ++ [closingBrace]) := by
  rw [toList_constructorText, rowsOf_ended (not_mem_constructorLines htype hname)]
  exact (isFunction_constructor typeName name).codeRows_functionLines _

end Constructors

end ResolverGen.Go
