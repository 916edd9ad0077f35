import ResolverGen.Proofs.TidiedLines

/-!
# Blank lines in tidied texts

The lines of a text that are not blank stand in it with runs of blank lines between them. A tidied
text has the same lines, without blanks at their ends, and each run as far as it is allowed, while the
runs before the first and behind the last are gone. So tidying once is enough.
-/
namespace ResolverGen.Formatter

open Text

/-- Whether a line is more than blanks. -/
def hasText (l : List Char) : Bool := l.any fun c => !isBlank c

/-- The lengths of the runs of blank lines before, between and behind the lines that are not blank. -/
def blankRuns (ls : List (List Char)) : List Nat := (ls.splitOnP hasText).map List.length

/-- The lines that are not blank, without blanks at their ends. -/
def textLines (ls : List (List Char)) : List (List Char) := (ls.filter hasText).map stripRight

/-- These lines with the number of blank lines right before each. -/
def spacedLines (ls : List (List Char)) : List (Nat × List Char) := (blankRuns ls).zip (textLines ls)

/-- Lines behind as many empty ones as stood before each, but no more than `most`. -/
def following (most : Nat) (rows : List (Nat × List Char)) : List (List Char) :=
  rows.flatMap fun row => List.replicate (min row.1 most) [] ++ [row.2]

/-- Lines with empty ones between them, but none before the first. -/
def closeUp (most : Nat) : List (Nat × List Char) → List (List Char)
  | [] => []
  | first :: rest => first.2 :: following most rest

variable {max : Int} {l : List Char} {ls : List (List Char)}

theorem hasText_iff : hasText l = true ↔ IsKept l := by
  rw [isKept_iff]
  simp [hasText]

theorem hasText_nil : hasText [] = false := rfl

theorem IsSolid.hasText (h : IsSolid l) : Formatter.hasText l = true := by
  rw [hasText_iff, IsKept, h.1]
  exact h.2

theorem stripRight_of_blank (h : hasText l = false) : stripRight l = [] := by
  by_contra hkept
  rw [hasText_iff.mpr hkept] at h
  contradiction

/-! ## Lines one by one -/

@[simp] theorem spacedLines_nil : spacedLines [] = [] := rfl

theorem spacedLines_text (h : hasText l = true) (ls : List (List Char)) :
    spacedLines (l :: ls) = (0, stripRight l) :: spacedLines ls := by
  simp [spacedLines, blankRuns, textLines, List.splitOnP_cons_eq_if_modifyHead, h]

theorem zip_modifyHead {α : Type} (f : Nat → Nat) (ns : List Nat) (xs : List α) :
    (ns.modifyHead f).zip xs = (ns.zip xs).modifyHead fun p => (f p.1, p.2) := by
  cases ns with
  | nil => rfl
  | cons n rest => cases xs <;> rfl

/-- A blank line counts towards the line that follows. -/
theorem spacedLines_blank (h : hasText l = false) (ls : List (List Char)) :
    spacedLines (l :: ls) = (spacedLines ls).modifyHead fun row => (row.1 + 1, row.2) := by
  have hruns : blankRuns (l :: ls) = (blankRuns ls).modifyHead (· + 1) := by
    unfold blankRuns
    rw [List.splitOnP_cons_eq_if_modifyHead, h, if_neg (by decide)]
    cases ls.splitOnP hasText <;> rfl
  have htexts : textLines (l :: ls) = textLines ls := by
    unfold textLines
    rw [List.filter_cons_of_neg (by simp [h])]
  unfold spacedLines
  rw [hruns, htexts, zip_modifyHead]

/-! ## What tidying leaves -/

@[simp] theorem following_nil (most : Nat) : following most [] = [] := rfl

theorem following_cons (most gap : Nat) (text : List Char) (rest : List (Nat × List Char)) :
    following most ((gap, text) :: rest) =
      List.replicate (min gap most) [] ++ text :: following most rest := by
  simp [following]

/-- One more blank line in a run is kept while there is room. -/
theorem tidyLines_blank (h : hasText l = false) (blanks : Nat) (ls : List (List Char)) :
    List.replicate (min blanks max.toNat) [] ++ tidyLines max blanks true (l :: ls) =
      List.replicate (min (blanks + 1) max.toNat) [] ++ tidyLines max (blanks + 1) true ls := by
  rw [tidyLines, stripRight_of_blank h]
  dsimp only
  by_cases hroom : ((blanks + 1 : Nat) : Int) ≤ max
  · have hmin : min blanks max.toNat = blanks ∧ min (blanks + 1) max.toNat = blanks + 1 := by omega
    rw [if_pos (by simpa using hroom), hmin.1, hmin.2, List.replicate_succ', List.append_assoc]
    rfl
  · have hmin : min blanks max.toNat = min (blanks + 1) max.toNat := by omega
    rw [if_neg (by simpa using hroom), hmin]

theorem modifyHead_same (rows : List (Nat × List Char)) :
    rows.modifyHead (fun row => (row.1, row.2)) = rows := by
  cases rows <;> rfl

/-- Behind a line that was kept and some blank ones, the run of these goes on with the blank lines
that come next. -/
theorem dropLastEmpty_run (ls : List (List Char)) :
    ∀ blanks : Nat, dropLastEmpty
        (List.replicate (min blanks max.toNat) [] ++ tidyLines max blanks true ls) =
      following max.toNat ((spacedLines ls).modifyHead fun row => (row.1 + blanks, row.2)) := by
  induction ls with
  | nil =>
    intro blanks
    simp [tidyLines, dropLastEmpty]
  | cons l ls ih =>
    intro blanks
    cases h : hasText l with
    | false =>
      rw [tidyLines_blank h, ih, spacedLines_blank h, List.modifyHead_modifyHead]
      congr 2
      funext row
      simp only [Function.comp_apply, Nat.add_assoc, Nat.add_comm 1]
    | true =>
      have hkept : stripRight l ≠ [] := hasText_iff.mp h
      have hrest : dropLastEmpty (tidyLines max 0 true ls) =
          following max.toNat (spacedLines ls) := by
        simpa [modifyHead_same] using ih 0
      rw [tidyLines_kept hkept, dropLastEmpty_append _ hkept, dropLastEmpty_cons,
        if_neg fun hboth => hkept hboth.1, hrest, spacedLines_text h, List.modifyHead_cons,
        following_cons, Nat.zero_add]

theorem dropLastEmpty_kept (ls : List (List Char)) :
    dropLastEmpty (tidyLines max 0 true ls) = following max.toNat (spacedLines ls) := by
  simpa [modifyHead_same] using dropLastEmpty_run ls 0

/-- Before the first line that is not blank nothing is kept. -/
theorem dropLastEmpty_tidyLines (ls : List (List Char)) :
    ∀ blanks : Nat, dropLastEmpty (tidyLines max blanks false ls) =
      closeUp max.toNat (spacedLines ls) := by
  induction ls with
  | nil =>
    intro blanks
    rfl
  | cons l ls ih =>
    intro blanks
    cases h : hasText l with
    | false =>
      rw [tidyLines, stripRight_of_blank h, spacedLines_blank h]
      refine (ih (blanks + 1)).trans ?_
      cases spacedLines ls <;> rfl
    | true =>
      have hkept : stripRight l ≠ [] := hasText_iff.mp h
      rw [tidyLines_kept hkept, dropLastEmpty_cons, if_neg fun hboth => hkept hboth.1,
        dropLastEmpty_kept, spacedLines_text h]
      rfl

theorem tidyChars_eq (s : List Char) :
    tidyChars max s = unlines (closeUp max.toNat (spacedLines (lines s))) ++ ['\n'] := by
  rw [tidyChars, dropLastEmpty_tidyLines]

/-! ## Tidying again -/

theorem isSolid_of_mem_spacedLines {row : Nat × List Char} (h : row ∈ spacedLines ls) :
    IsSolid row.2 := by
  obtain ⟨l, hl, hrow⟩ := List.mem_map.mp (List.of_mem_zip h).2
  rw [← hrow]
  exact (hasText_iff.mp (List.mem_filter.mp hl).2).isSolid_stripRight

theorem spacedLines_replicate (n : Nat) (ls : List (List Char)) :
    spacedLines (List.replicate n [] ++ ls) =
      (spacedLines ls).modifyHead fun row => (row.1 + n, row.2) := by
  induction n with
  | zero => exact (modifyHead_same _).symm
  | succ n ih =>
    rw [List.replicate_succ, List.cons_append, spacedLines_blank hasText_nil, ih,
      List.modifyHead_modifyHead]
    congr 1

/-- Runs that were cut short are read back as they were cut. -/
theorem spacedLines_following (most : Nat) {rows : List (Nat × List Char)}
    (h : ∀ row ∈ rows, IsSolid row.2) :
    spacedLines (following most rows ++ [[]]) = rows.map fun row => (min row.1 most, row.2) := by
  induction rows with
  | nil => rfl
  | cons row rest ih =>
    obtain ⟨hrow, hrest⟩ := List.forall_mem_cons.mp h
    rw [following_cons, List.append_assoc, spacedLines_replicate, List.cons_append,
      spacedLines_text hrow.hasText, ih hrest, hrow.1, List.modifyHead_cons, Nat.zero_add,
      List.map_cons]

/-- A tidied text has the lines that it had, with nothing before the first and no more blank lines
before each other one than may stay. -/
theorem spacedLines_tidyChars (max : Int) (s : List Char) :
    spacedLines (lines (tidyChars max s)) =
      ((spacedLines (lines s)).map fun row => (min row.1 max.toNat, row.2)).modifyHead
        fun row => (0, row.2) := by
  have hsolid : ∀ row ∈ spacedLines (lines s), IsSolid row.2 :=
    fun row hrow => isSolid_of_mem_spacedLines hrow
  have hkept : dropLastEmpty (tidyLines max 0 false (lines s)) =
      closeUp max.toNat (spacedLines (lines s)) := dropLastEmpty_tidyLines (lines s) 0
  cases hrows : spacedLines (lines s) with
  | nil =>
    rw [tidyChars_eq, hrows]
    rfl
  | cons first rest =>
    rw [hrows] at hsolid hkept
    obtain ⟨hfirst, hrest⟩ := List.forall_mem_cons.mp hsolid
    rw [lines_tidyChars (by rw [hkept]; exact List.cons_ne_nil _ _), hkept, closeUp,
      List.cons_append, spacedLines_text hfirst.hasText, spacedLines_following _ hrest, hfirst.1]
    rfl

theorem following_map_min (most : Nat) (rows : List (Nat × List Char)) :
    following most (rows.map fun row => (min row.1 most, row.2)) = following most rows := by
  simp [following, List.flatMap_map]

theorem tidyChars_tidyChars (max : Int) (s : List Char) :
    tidyChars max (tidyChars max s) = tidyChars max s := by
  rw [tidyChars_eq (tidyChars max s), spacedLines_tidyChars, tidyChars_eq s]
  cases spacedLines (lines s) with
  | nil => rfl
  | cons first rest =>
    rw [List.map_cons, List.modifyHead_cons, closeUp, closeUp, following_map_min]

/-- The formatter that tidies keeps the lines that are not blank, without blanks at their ends, and
between two of them as many empty lines as there were blank ones, but no more than may stay (none if
the number is negative). Nothing stands before the first line, and a newline behind the last. What it
gives, it leaves as it is. -/
theorem format_basic (programs : Programs) (max : Int) (code : String) :
    ∃ tidied, (basic max).format programs code = .ok tidied ∧
      tidied.toList =
        unlines (closeUp max.toNat (spacedLines (lines code.toList))) ++ ['\n'] ∧
      (basic max).format programs tidied = .ok tidied := by
  have htidied : (Text.onChars (tidyChars max) code).toList = tidyChars max code.toList :=
    toList_onChars _ _
  refine ⟨Text.onChars (tidyChars max) code, rfl, ?_, ?_⟩
  · rw [htidied, tidyChars_eq]
  · refine congrArg Except.ok (String.toList_inj.mp ?_)
    rw [toList_onChars, htidied, tidyChars_tidyChars]

/-- Of two blank lines in a run one stays, and those around the text go. -/
example : tidyChars 1 "\n a \n\t\n\nb\n\n".toList = " a\n\nb\n".toList := by decide

end ResolverGen.Formatter
