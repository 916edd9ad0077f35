import ResolverGen.Proofs.Go.TypeFile
import ResolverGen.Proofs.TidiedLines

/-!
# Comment lines and the others

A line is a comment if its first characters that are not blank are the mark of a comment. Trimming
and indentation do not change that. Comment lines leave no other line behind when they are tidied,
but a blank line does.
-/
namespace ResolverGen.Go

open Text Formatter

/-- Whether the first characters of a line that are not blank are the mark of a comment. -/
def isCommentLine (l : List Char) : Bool := commentMark.isPrefixOf (trimLeft isBlank l)

/-- The lines that are not comments. -/
def codeOf (ls : List (List Char)) : List (List Char) := ls.filter (!isCommentLine ·)

/-- The lines of a text that are not comments. -/
def codeLines (text : String) : List (List Char) := codeOf (lines text.toList)

variable {l : List Char} {ls : List (List Char)}

theorem isCommentLine_iff :
    isCommentLine l = true ↔
      ∃ s rest, (∀ c ∈ s, isBlank c = true) ∧ l = s ++ '/' :: '/' :: rest := by
  unfold isCommentLine trimLeft
  rw [List.isPrefixOf_iff_prefix]
  constructor
  · rintro ⟨rest, hrest⟩
    refine ⟨l.takeWhile isBlank, rest, fun c hc => List.mem_takeWhile_imp hc, ?_⟩
    have hsplit := List.takeWhile_append_dropWhile (p := isBlank) (l := l)
    rw [← hrest] at hsplit
    exact hsplit.symm
  · rintro ⟨s, rest, hs, rfl⟩
    refine ⟨rest, ?_⟩
    rw [List.dropWhile_append_of_pos hs, List.dropWhile_cons_of_neg (by decide)]
    rfl

theorem isCommentLine_nil : isCommentLine [] = false := by decide

/-- A line that is a comment is not blank. -/
theorem isCommentLine_stripRight (l : List Char) :
    isCommentLine (stripRight l) = isCommentLine l := by
  obtain ⟨blanks, hblanks, hl⟩ := exists_eq_stripRight_append l
  rw [Bool.eq_iff_iff, isCommentLine_iff, isCommentLine_iff]
  constructor
  · rintro ⟨s, rest, hs, hstrip⟩
    refine ⟨s, rest ++ blanks, hs, ?_⟩
    rw [hl, hstrip]
    simp
  · rintro ⟨s, rest, hs, rfl⟩
    refine ⟨s, stripRight rest, hs, ?_⟩
    rw [stripRight_append s (isKept_cons (by decide) _), stripRight_cons (by decide),
      stripRight_cons (by decide)]

theorem isCommentLine_movedIn (l : List Char) : isCommentLine (movedIn l) = isCommentLine l := by
  unfold movedIn
  split
  · rfl
  · unfold isCommentLine trimLeft
    rw [List.dropWhile_cons_of_pos (by decide)]

theorem isCommentLine_of_mem_descriptionLines {comments : Bool} {d : String} {l : List Char}
    (h : l ∈ descriptionLines comments d) : isCommentLine l = true := by
  obtain ⟨rest, rfl, _⟩ := mem_descriptionLines h
  exact isCommentLine_iff.mpr ⟨[], rest, by simp, rfl⟩

theorem codeOf_append (ls ms : List (List Char)) : codeOf (ls ++ ms) = codeOf ls ++ codeOf ms :=
  List.filter_append ls ms

theorem codeOf_flatMap {α : Type} (f : α → List (List Char)) (xs : List α) :
    codeOf (xs.flatMap f) = xs.flatMap fun x => codeOf (f x) :=
  List.filter_flatMap

theorem codeOf_eq_nil_iff : codeOf ls = [] ↔ ∀ l ∈ ls, isCommentLine l = true := by
  unfold codeOf
  simp [List.filter_eq_nil_iff]

/-- Of lines that are tidied no other line than comments stays if and only if all are comments. -/
theorem codeOf_tidyLines_eq_nil_iff {max : Int} (hmax : 1 ≤ max) (ls : List (List Char)) :
    codeOf (tidyLines max 0 true ls) = [] ↔ ∀ l ∈ ls, isCommentLine l = true := by
  induction ls with
  | nil => simp [codeOf, tidyLines]
  | cons l rest ih =>
    by_cases hblank : stripRight l = []
    · -- the first blank line is kept, and it is no comment
      have hnot : isCommentLine l = false := by
        rw [← isCommentLine_stripRight, hblank]
        exact isCommentLine_nil
      have hone : (true && decide (((0 + 1 : Nat) : Int) ≤ max)) = true := by simpa using hmax
      rw [tidyLines]
      simp only [hblank, hone, if_true]
      simp [codeOf, isCommentLine_nil, hnot]
    · rw [tidyLines_kept hblank, List.forall_mem_cons, ← ih]
      simp [codeOf, isCommentLine_stripRight, List.filter_cons]
      cases isCommentLine l <;> simp

/-- A formatter that only tidies. -/
def TidiesOnly (formatter : Formatter) : Prop :=
  formatter = .passthrough ∨ formatter = .basic defaultMaxBlankLines

theorem codeOf_leaves_eq_nil_iff {formatter : Formatter} (h : TidiesOnly formatter)
    (ls : List (List Char)) :
    codeOf (formatter.leaves ls) = [] ↔ ∀ l ∈ ls, isCommentLine l = true := by
  rcases h with rfl | rfl
  · exact codeOf_eq_nil_iff
  · exact codeOf_tidyLines_eq_nil_iff (by decide) ls

/-! ## Blocks of lines in a file -/

/-- Lines of comments before lines that open and end in ones that are not blank. -/
structure Block where
  comment : List (List Char)
  code : List (List Char)

def Block.lines (b : Block) : List (List Char) := b.comment ++ b.code

/-- The code of a block parts it from others, and no line holds a newline. -/
structure Block.IsApart (b : Block) : Prop where
  code : IsBlock b.code
  newline : ∀ l ∈ b.lines, '\n' ∉ l

theorem tidyLines_blocks {max : Int} (after : List (List Char)) :
    ∀ {blocks : List Block}, (∀ b ∈ blocks, b.IsApart) →
      tidyLines max 0 true (blocks.flatMap Block.lines ++ after) =
        (blocks.flatMap fun b => tidyLines max 0 true b.comment ++ tidyLines max 0 true b.code) ++
          tidyLines max 0 true after
  | [], _ => rfl
  | b :: blocks, h => by
    have hrest : tidyLines max 0 true (blocks.flatMap Block.lines ++ after) = _ :=
      tidyLines_blocks after fun b' hb => h b' (List.mem_cons_of_mem b hb)
    rw [List.flatMap_cons, List.flatMap_cons, List.append_assoc, Block.lines,
      (h b List.mem_cons_self).code.tidyLines_append, hrest]
    simp only [List.append_assoc]

/-- A text with blocks in it is made of the lines before them, theirs, and those after them. -/
theorem lines_of_blocks {head tail : List Char} {blocks : List Block} {code : String}
    (hblocks : ∀ b ∈ blocks, b.IsApart)
    (hcode : code.toList = head ++ '\n' :: (ended (blocks.flatMap Block.lines) ++ tail)) :
    lines code.toList = lines head ++ (blocks.flatMap Block.lines ++ lines tail) := by
  have hnewline : ∀ l ∈ blocks.flatMap Block.lines, '\n' ∉ l := by
    intro l hl
    obtain ⟨b, hb, hl⟩ := List.mem_flatMap.mp hl
    exact (hblocks b hb).newline l hl
  rw [hcode, lines_append, lines_ended_append hnewline]

/-- What a formatter that only tidies leaves of a file beside its comments: what it leaves of what
stands before and after the blocks, and of each block by itself. -/
theorem exists_codeLines {formatter : Formatter} (hformatter : TidiesOnly formatter)
    {head tail : List Char} (hhead : ∃ ms l, lines head = ms ++ [l] ∧ IsKept l)
    (htail : ∃ l ms, lines tail = l :: ms ∧ IsKept l) (programs : Programs) :
    ∃ before after, ∀ {blocks : List Block} {code : String}, (∀ b ∈ blocks, b.IsApart) →
      code.toList = head ++ '\n' :: (ended (blocks.flatMap Block.lines) ++ tail) →
      ∃ out, formatter.format programs code = .ok out ∧ codeLines out =
        before ++ (blocks.flatMap fun b =>
          codeOf (formatter.leaves b.comment) ++ codeOf (formatter.leaves b.code)) ++ after := by
  obtain ⟨ms, last, hhead, hlast⟩ := hhead
  obtain ⟨first, rest, htail, hfirst⟩ := htail
  rcases hformatter with rfl | rfl
  · refine ⟨codeOf (lines head), codeOf (lines tail), ?_⟩
    intro blocks code hblocks hcode
    refine ⟨code, rfl, ?_⟩
    unfold codeLines
    rw [lines_of_blocks hblocks hcode, codeOf_append, codeOf_append, codeOf_flatMap,
      ← List.append_assoc]
    simp only [Block.lines, codeOf_append, Formatter.leaves]
  · refine ⟨codeOf (tidyLines defaultMaxBlankLines 0 false (lines head)),
      codeOf (dropLastEmpty (tidyLines defaultMaxBlankLines 0 true (lines tail)) ++ [[]]), ?_⟩
    intro blocks code hblocks hcode
    refine ⟨_, rfl, ?_⟩
    have htidy : dropLastEmpty (tidyLines defaultMaxBlankLines 0 false (lines code.toList)) =
        tidyLines defaultMaxBlankLines 0 false (lines head) ++
          (blocks.flatMap fun b => tidyLines defaultMaxBlankLines 0 true b.comment ++
            tidyLines defaultMaxBlankLines 0 true b.code) ++
          dropLastEmpty (tidyLines defaultMaxBlankLines 0 true (lines tail)) := by
      rw [lines_of_blocks hblocks hcode, hhead, tidyLines_append_of_ends hlast,
        tidyLines_blocks _ hblocks, htail, tidyLines_kept hfirst, ← List.append_assoc,
        dropLastEmpty_append _ hfirst]
    have hne : dropLastEmpty (tidyLines defaultMaxBlankLines 0 false (lines code.toList)) ≠ [] := by
      rw [htidy, hhead, tidyLines_append_kept hlast]
      simp
    unfold codeLines
    rw [toList_onChars, lines_tidyChars hne, htidy, codeOf_append, codeOf_append, codeOf_append,
      codeOf_append, codeOf_flatMap, List.append_assoc]
    simp only [codeOf_append, Formatter.leaves]

end ResolverGen.Go
