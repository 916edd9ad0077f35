import ResolverGen.Proofs.BlankLines
import ResolverGen.Proofs.Go.TypeLines

/-!
# Rows of code

A source text is read by its rows: the lines that are neither blank nor comments, without the blanks
at their ends. Tidying leaves them, and so does trimming, and indentation moves each of them in. A
row may open a block, whose rows reach to the next closing brace, wherever that stands in its line.
-/
namespace ResolverGen.Go

open Text Formatter

/-- Whether a line is neither blank nor a comment. -/
def isCode (l : List Char) : Bool := hasText l && !isCommentLine l

/-- The lines of code among lines, without the blanks at their ends. -/
def codeRows (ls : List (List Char)) : List (List Char) := (ls.map stripRight).filter isCode

/-- The rows of a text. -/
def rowsOf (s : List Char) : List (List Char) := codeRows (lines s)

variable {l : List Char} {ls : List (List Char)} {s t : List Char}

theorem hasText_stripRight (l : List Char) : hasText (stripRight l) = hasText l := by
  rw [Bool.eq_iff_iff, hasText_iff, hasText_iff]
  unfold IsKept
  rw [stripRight_stripRight]

theorem isCode_stripRight (l : List Char) : isCode (stripRight l) = isCode l := by
  unfold isCode
  rw [hasText_stripRight, isCommentLine_stripRight]

theorem isCode_of_head {c : Char} (hblank : isBlank c = false) (hmark : c ≠ '/') (l : List Char) :
    isCode (c :: l) = true := by
  have hcomment : isCommentLine (c :: l) = false := by
    unfold isCommentLine trimLeft
    rw [List.dropWhile_cons_of_neg (by simp [hblank])]
    simp [commentMark, List.isPrefixOf, hmark.symm]
  unfold isCode
  rw [hcomment, hasText_iff.mpr (isKept_cons hblank l)]
  rfl

theorem isCode_tab_cons (l : List Char) : isCode ('\t' :: l) = isCode l := by
  have htext : hasText ('\t' :: l) = hasText l := rfl
  have hcomment : isCommentLine ('\t' :: l) = isCommentLine l := by
    unfold isCommentLine trimLeft
    rw [List.dropWhile_cons_of_pos (by decide)]
  unfold isCode
  rw [htext, hcomment]

@[simp] theorem codeRows_nil : codeRows [] = [] := rfl

theorem codeRows_append (ls ms : List (List Char)) :
    codeRows (ls ++ ms) = codeRows ls ++ codeRows ms := by
  unfold codeRows
  rw [List.map_append, List.filter_append]

theorem codeRows_cons (l : List Char) (ls : List (List Char)) :
    codeRows (l :: ls) = (if isCode l then [stripRight l] else []) ++ codeRows ls := by
  unfold codeRows
  rw [List.map_cons, List.filter_cons, isCode_stripRight]
  split
  · rfl
  · rfl

/-- Lines that are blank or comments are no rows. -/
theorem codeRows_eq_nil (h : ∀ l ∈ ls, isCode l = false) : codeRows ls = [] := by
  induction ls with
  | nil => rfl
  | cons l rest ih =>
    obtain ⟨hl, hrest⟩ := List.forall_mem_cons.mp h
    rw [codeRows_cons, hl, ih hrest]
    rfl

theorem isCode_of_isCommentLine (h : isCommentLine l = true) : isCode l = false := by
  unfold isCode
  rw [h]
  exact Bool.and_false _

theorem isCode_of_blank (h : ∀ c ∈ l, isBlank c = true) : isCode l = false := by
  have hblank : hasText l = false := by
    unfold hasText
    simpa using h
  unfold isCode
  rw [hblank]
  rfl

/-! ## Texts put together -/

theorem rowsOf_ended_append (h : ∀ l ∈ ls, '\n' ∉ l) (s : List Char) :
    rowsOf (ended ls ++ s) = codeRows ls ++ rowsOf s := by
  unfold rowsOf
  rw [lines_ended_append h, codeRows_append]

theorem rowsOf_ended (h : ∀ l ∈ ls, '\n' ∉ l) : rowsOf (ended ls) = codeRows ls := by
  have hrows := rowsOf_ended_append h []
  rw [List.append_nil] at hrows
  rw [hrows]
  exact List.append_nil _

theorem rowsOf_newline_cons (s : List Char) : rowsOf ('\n' :: s) = rowsOf s := by
  have hnone : ∀ l ∈ [([] : List Char)], '\n' ∉ l := by decide
  exact rowsOf_ended_append hnone s

/-- The lines of a blank text are blank. -/
theorem isBlank_of_mem_lines (h : ∀ c ∈ s, isBlank c = true) :
    ∀ l ∈ lines s, ∀ c ∈ l, isBlank c = true := by
  induction s with
  | nil => simp [lines, splitAt]
  | cons d rest ih =>
    obtain ⟨hd, hrest⟩ := List.forall_mem_cons.mp h
    have hlines := ih hrest
    unfold lines at hlines ⊢
    rw [splitAt]
    split
    · intro l hl
      rcases List.mem_cons.mp hl with rfl | hl
      · simp
      · exact hlines l hl
    · cases hsplit : splitAt '\n' rest with
      | nil => exact absurd hsplit (splitAt_ne_nil '\n' rest)
      | cons part parts =>
        rw [hsplit] at hlines
        obtain ⟨hpart, hparts⟩ := List.forall_mem_cons.mp hlines
        dsimp only
        intro l hl
        rcases List.mem_cons.mp hl with rfl | hl
        · exact List.forall_mem_cons.mpr ⟨hd, hpart⟩
        · exact hparts l hl

/-- Blanks at the end of a text are in no row. -/
theorem rowsOf_append_of_blank (ht : ∀ c ∈ t, isBlank c = true) (s : List Char) :
    rowsOf (s ++ t) = rowsOf s := by
  obtain ⟨before, a, hs⟩ : ∃ before a, lines s = before ++ [a] :=
    ⟨_, _, (List.dropLast_concat_getLast (splitAt_ne_nil '\n' s)).symm⟩
  obtain ⟨b, after, hsplit⟩ := List.exists_cons_of_ne_nil (splitAt_ne_nil '\n' t)
  have hblank := isBlank_of_mem_lines ht
  unfold lines at hblank hs
  rw [hsplit] at hblank
  obtain ⟨hb, hafter⟩ := List.forall_mem_cons.mp hblank
  have hlast : stripRight (a ++ b) = stripRight a := stripRight_append_of_blank hb a
  have hcode : isCode (a ++ b) = isCode a := by
    rw [← isCode_stripRight, hlast, isCode_stripRight]
  unfold rowsOf lines
  rw [splitAt_append_parts hs hsplit, hs, codeRows_append, codeRows_append, codeRows_cons,
    codeRows_cons a, hcode, hlast, codeRows_eq_nil fun l hl => isCode_of_blank (hafter l hl)]
  rfl

theorem rowsOf_append_newline (s : List Char) : rowsOf (s ++ ['\n']) = rowsOf s := by
  refine rowsOf_append_of_blank (fun c hc => ?_) s
  rw [List.mem_singleton.mp hc]
  rfl

theorem rowsOf_stripRight (s : List Char) : rowsOf (stripRight s) = rowsOf s := by
  obtain ⟨blanks, hblanks, hs⟩ := exists_eq_stripRight_append s
  have happend := rowsOf_append_of_blank hblanks (stripRight s)
  rw [← hs] at happend
  exact happend.symm

/-- Trimming leaves the rows of a text that does not open with a blank. -/
theorem rowsOf_strip (h : ∀ c, s.head? = some c → isBlank c = false) :
    rowsOf (strip s) = rowsOf s := by
  change rowsOf (stripRight (trimLeft isBlank s)) = _
  rw [rowsOf_stripRight, trimLeft_of_head h]

/-- A text that is empty or ends in a newline. -/
def EndsLine (s : List Char) : Prop := ∃ ls, (∀ l ∈ ls, '\n' ∉ l) ∧ s = ended ls

theorem endsLine_ended (h : ∀ l ∈ ls, '\n' ∉ l) : EndsLine (ended ls) := ⟨ls, h, rfl⟩

theorem endsLine_nil : EndsLine [] := ⟨[], by simp, rfl⟩

theorem endsLine_append_newline (s : List Char) : EndsLine (s ++ ['\n']) :=
  ⟨lines s, fun _ hl => not_mem_of_mem_lines hl, (ended_lines s).symm⟩

theorem EndsLine.rowsOf_append (h : EndsLine s) (t : List Char) :
    rowsOf (s ++ t) = rowsOf s ++ rowsOf t := by
  obtain ⟨ls, hls, rfl⟩ := h
  rw [rowsOf_ended_append hls, rowsOf_ended hls]

theorem EndsLine.append (hs : EndsLine s) (ht : EndsLine t) : EndsLine (s ++ t) := by
  obtain ⟨ls, hls, rfl⟩ := hs
  obtain ⟨ms, hms, rfl⟩ := ht
  rw [← ended_append]
  exact endsLine_ended fun l hl => (List.mem_append.mp hl).elim (hls l) (hms l)

theorem endsLine_join {α : Type} {text : α → String} :
    ∀ {xs : List α}, (∀ x ∈ xs, EndsLine (text x).toList) →
      EndsLine (String.join (xs.map text)).toList
  | [], _ => endsLine_nil
  | x :: xs, h => by
    rw [List.map_cons, String.join_cons, String.toList_append]
    obtain ⟨hx, hxs⟩ := List.forall_mem_cons.mp h
    exact hx.append (endsLine_join hxs)

theorem rowsOf_join {α : Type} {text : α → String} :
    ∀ {xs : List α}, (∀ x ∈ xs, EndsLine (text x).toList) →
      rowsOf (String.join (xs.map text)).toList = xs.flatMap fun x => rowsOf (text x).toList
  | [], _ => rfl
  | x :: xs, h => by
    obtain ⟨hx, hxs⟩ := List.forall_mem_cons.mp h
    rw [List.map_cons, String.join_cons, String.toList_append, hx.rowsOf_append, rowsOf_join hxs,
      List.flatMap_cons]

/-! ## Members, methods and formatters -/

theorem codeRows_map_movedIn (ls : List (List Char)) :
    codeRows (ls.map movedIn) = (codeRows ls).map ('\t' :: ·) := by
  induction ls with
  | nil => rfl
  | cons l rest ih =>
    rw [List.map_cons, codeRows_cons, codeRows_cons, ih, List.map_append]
    by_cases hl : hasText l = true
    · have hkept : IsKept l := hasText_iff.mp hl
      rw [movedIn_of_not_blank hkept, isCode_tab_cons, stripRight_cons_of_ne_nil '\t' hkept]
      split
      · rfl
      · rfl
    · have hblank : stripRight l = [] := stripRight_of_blank (Bool.eq_false_iff.mpr hl)
      have hcode : isCode l = false := by
        unfold isCode
        rw [Bool.eq_false_iff.mpr hl]
        rfl
      have hmoved : movedIn l = l := by
        unfold movedIn
        rw [strip_eq_nil_iff.mpr hblank]
        rfl
      rw [hmoved, hcode]
      rfl

/-- A declaration stands in its type with its rows moved in. -/
theorem rowsOf_memberText {d : String} (h : ∀ c, d.toList.head? = some c → isBlank c = false) :
    rowsOf (memberText d).toList = (rowsOf d.toList).map ('\t' :: ·) := by
  have htrim : (trimmedText d).toList = strip d.toList := toList_onChars _ _
  have hrows : rowsOf (trimmedText d).toList = rowsOf d.toList := by
    rw [htrim, rowsOf_strip h]
  unfold memberText
  split
  · unfold indentedText
    rw [String.toList_append, toList_onChars]
    change rowsOf (Template.indentChars ['\t'] (trimmedText d).toList ++ ['\n']) = _
    rw [rowsOf_append_newline, ← hrows]
    unfold Template.indentChars rowsOf
    rw [lines_unlines (by simp [lines, splitAt_ne_nil])]
    · exact codeRows_map_movedIn _
    · intro l hl
      obtain ⟨m, hm, rfl⟩ := List.mem_map.mp hl
      exact not_mem_movedIn (not_mem_of_mem_lines hm)
  · rename_i hempty
    rw [ne_eq, not_not] at hempty
    rw [← hrows, hempty]
    rfl

theorem endsLine_memberText (d : String) : EndsLine (memberText d).toList := by
  unfold memberText
  split
  · rw [String.toList_append]
    exact endsLine_append_newline _
  · exact endsLine_nil

/-- A method that opens with an empty line and then with no blank keeps its rows. -/
theorem rowsOf_methodText {m : String} {s : List Char} (hm : m.toList = '\n' :: s)
    (h : ∀ c, s.head? = some c → isBlank c = false) :
    rowsOf (methodText m).toList = rowsOf m.toList := by
  have htrim : (trimmedText m).toList = strip s := by
    unfold trimmedText
    rw [toList_onChars, hm, strip_newline_cons]
  have hrows : rowsOf (trimmedText m).toList = rowsOf m.toList := by
    rw [htrim, rowsOf_strip h, hm, rowsOf_newline_cons]
  unfold methodText
  split
  · rw [String.toList_append, String.toList_append]
    change rowsOf ('\n' :: (trimmedText m).toList ++ ['\n']) = _
    rw [rowsOf_append_newline, rowsOf_newline_cons, hrows]
  · rename_i hempty
    rw [ne_eq, not_not] at hempty
    rw [← hrows, hempty]

theorem endsLine_methodText (m : String) : EndsLine (methodText m).toList := by
  unfold methodText
  split
  · rw [String.toList_append]
    exact endsLine_append_newline _
  · exact endsLine_nil

theorem rowsOf_tidyChars (max : Int) (s : List Char) : rowsOf (tidyChars max s) = rowsOf s := by
  have hcomp : (isCode ∘ stripRight) = isCode := funext isCode_stripRight
  have hrows : ∀ ls, codeRows ls = (ls.filter isCode).map stripRight := by
    intro ls
    unfold codeRows
    rw [List.filter_map, hcomp]
  unfold rowsOf
  rw [hrows, filter_lines_tidyChars rfl]
  change (codeRows (lines s)).map stripRight = _
  rw [hrows, List.map_map]
  exact List.map_congr_left fun l _ => stripRight_stripRight l

/-! ## Blocks -/

def closingBrace : List Char := ['\x7d']

/-- A line that is moved in is trimmed on the left again. -/
theorem strip_tab_cons {c : Char} (h : isBlank c = false) (l : List Char) :
    strip ('\t' :: c :: l) = stripRight (c :: l) := by
  change stripRight (trimLeft isBlank (c :: l)) = _
  rw [trimLeft_of_head (by simpa using h)]

theorem strip_tab_cons_ne {c : Char} (h : isBlank c = false) (hbrace : c ≠ '\x7d')
    (l : List Char) : strip ('\t' :: c :: l) ≠ closingBrace := by
  rw [strip_tab_cons h, stripRight_cons h]
  unfold closingBrace
  rw [ne_eq, List.cons.injEq, not_and]
  exact fun hc => absurd hc hbrace

/-- The rows of all blocks that rows of a kind open. -/
def blockRows (opens : List Char → Bool) : List (List Char) → List (List Char)
  | [] => []
  | l :: rest =>
    if opens l then rest.takeWhile (fun r => strip r ≠ closingBrace) ++ blockRows opens rest
    else blockRows opens rest

/-- Of the blocks that rows open all end among these rows; `inner` is what stands in them. -/
def Encloses (opens : List Char → Bool) (rows inner : List (List Char)) : Prop :=
  ∀ rest, blockRows opens (rows ++ rest) = inner ++ blockRows opens rest

variable {opens : List Char → Bool} {rows rows' inner inner' : List (List Char)}

theorem Encloses.blockRows_eq (h : Encloses opens rows inner) : blockRows opens rows = inner := by
  have hrows := h []
  rwa [List.append_nil, blockRows, List.append_nil] at hrows

theorem Encloses.append (h : Encloses opens rows inner) (h' : Encloses opens rows' inner') :
    Encloses opens (rows ++ rows') (inner ++ inner') := by
  intro rest
  rw [List.append_assoc, h, h', List.append_assoc]

theorem encloses_skip (h : ∀ r ∈ rows, opens r = false) : Encloses opens rows [] := by
  intro rest
  induction rows with
  | nil => rfl
  | cons r rows ih =>
    obtain ⟨hr, hrows⟩ := List.forall_mem_cons.mp h
    rw [List.cons_append, blockRows, hr, if_neg Bool.false_ne_true]
    exact ih hrows

/-- A row and a brace with rows between them that open and close nothing. -/
theorem encloses_block (hopens : opens l = true) (hbrace : opens closingBrace = false)
    (hinner : ∀ r ∈ inner, opens r = false ∧ strip r ≠ closingBrace) :
    Encloses opens (l :: (inner ++ [closingBrace])) inner := by
  intro rest
  have htake : (inner ++ [closingBrace] ++ rest).takeWhile (fun r => strip r ≠ closingBrace) =
      inner := by
    rw [List.append_assoc, List.takeWhile_append_of_pos fun r hr => by simpa using (hinner r hr).2]
    exact List.append_nil _
  have hskip : Encloses opens (inner ++ [closingBrace]) [] := by
    refine encloses_skip fun r hr => ?_
    rcases List.mem_append.mp hr with hr | hr
    · exact (hinner r hr).1
    · rwa [List.mem_singleton.mp hr]
  rw [List.cons_append, blockRows, if_pos hopens, htake, hskip]
  rfl

theorem encloses_flatMap {α : Type} {f g : α → List (List Char)} :
    ∀ {xs : List α}, (∀ x ∈ xs, Encloses opens (f x) (g x)) →
      Encloses opens (xs.flatMap f) (xs.flatMap g)
  | [], _ => encloses_skip (by simp)
  | x :: xs, h => by
    obtain ⟨hx, hxs⟩ := List.forall_mem_cons.mp h
    rw [List.flatMap_cons, List.flatMap_cons]
    exact hx.append (encloses_flatMap hxs)

end ResolverGen.Go
