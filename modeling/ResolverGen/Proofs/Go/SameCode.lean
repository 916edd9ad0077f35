import ResolverGen.Proofs.Go.CommentLines

/-!
# Lines with the same code

Two lists of lines hold the same code if they differ in comments only and these stand before lines
that are not blank. A formatter that tidies cannot tell the two apart: it counts the blank lines
just passed, and these are as many in front of a comment as in front of the line behind it.
-/
namespace ResolverGen.Go

open Text Formatter

/-- Lines that differ in comments before lines that are not blank. -/
inductive SameCode : List (List Char) → List (List Char) → Prop
  | nil : SameCode [] []
  | line {ls ms : List (List Char)} (l : List Char) (h : SameCode ls ms) :
    SameCode (l :: ls) (l :: ms)
  | comments {cs ds ls ms : List (List Char)} {l : List Char}
    (hcs : ∀ c ∈ cs, isCommentLine c = true) (hds : ∀ d ∈ ds, isCommentLine d = true)
    (hl : IsKept l) (h : SameCode ls ms) : SameCode (cs ++ l :: ls) (ds ++ l :: ms)

variable {max : Int} {l : List Char} {cs ls ms ls' ms' : List (List Char)}

theorem isKept_of_isCommentLine (h : isCommentLine l = true) : IsKept l := by
  intro hblank
  rw [← isCommentLine_stripRight, hblank] at h
  contradiction

/-- Comments and the line behind them are kept when they are tidied, each without the blanks at its
end. -/
theorem tidyLines_comments (hcs : ∀ c ∈ cs, isCommentLine c = true) (hl : IsKept l)
    (ls : List (List Char)) (blanks : Nat) (started : Bool) :
    tidyLines max blanks started (cs ++ l :: ls) =
      cs.map stripRight ++ stripRight l :: tidyLines max 0 true ls := by
  induction cs generalizing blanks started with
  | nil => exact tidyLines_kept hl blanks started ls
  | cons c rest ih =>
    rw [List.forall_mem_cons] at hcs
    rw [List.cons_append, tidyLines_kept (isKept_of_isCommentLine hcs.1), ih hcs.2]
    rfl

theorem codeOf_cons (l : List Char) (ls : List (List Char)) :
    codeOf (l :: ls) = codeOf [l] ++ codeOf ls := codeOf_append [l] ls

namespace SameCode

theorem refl (ls : List (List Char)) : SameCode ls ls := by
  induction ls with
  | nil => exact .nil
  | cons l rest ih => exact .line l ih

theorem append (h : SameCode ls ms) (h' : SameCode ls' ms') : SameCode (ls ++ ls') (ms ++ ms') := by
  induction h with
  | nil => exact h'
  | line l _ ih => exact .line l ih
  | comments hcs hds hl _ ih =>
    simp only [List.append_assoc, List.cons_append]
    exact .comments hcs hds hl ih

theorem flatMap {α : Type} {f g : α → List (List Char)} {xs : List α}
    (h : ∀ x ∈ xs, SameCode (f x) (g x)) : SameCode (xs.flatMap f) (xs.flatMap g) := by
  induction xs with
  | nil => exact .nil
  | cons x rest ih =>
    rw [List.forall_mem_cons] at h
    exact h.1.append (ih h.2)

theorem codeOf_eq (h : SameCode ls ms) : codeOf ls = codeOf ms := by
  induction h with
  | nil => rfl
  | @line ls ms l _ ih => rw [codeOf_cons l ls, codeOf_cons l ms, ih]
  | @comments cs ds ls ms l hcs hds _ _ ih =>
    rw [codeOf_append, codeOf_append, codeOf_eq_nil_iff.mpr hcs, codeOf_eq_nil_iff.mpr hds,
      codeOf_cons l ls, codeOf_cons l ms, ih]

theorem eq_nil_iff (h : SameCode ls ms) : ls = [] ↔ ms = [] := by
  cases h <;> simp

theorem tidyLines (h : SameCode ls ms) (blanks : Nat) (started : Bool) :
    SameCode (Formatter.tidyLines max blanks started ls)
      (Formatter.tidyLines max blanks started ms) := by
  induction h generalizing blanks started with
  | nil => exact .nil
  | line l _ ih =>
    rw [Formatter.tidyLines, Formatter.tidyLines]
    split
    · split
      · exact .line [] (ih _ _)
      · exact ih _ _
    · exact .line _ (ih _ _)
  | comments hcs hds hl _ ih =>
    -- both sides keep their comments and go on in one state behind the line after them
    rw [tidyLines_comments hcs hl, tidyLines_comments hds hl]
    refine .comments ?_ ?_ ?_ (ih _ _)
    · simpa [isCommentLine_stripRight] using hcs
    · simpa [isCommentLine_stripRight] using hds
    · have hsolid := IsKept.isSolid_stripRight hl
      unfold IsKept
      rw [hsolid.1]
      exact hsolid.2

theorem dropLastEmpty (h : SameCode ls ms) :
    SameCode (Formatter.dropLastEmpty ls) (Formatter.dropLastEmpty ms) := by
  induction h with
  | nil => exact .nil
  | line l _ ih =>
    simp only [dropLastEmpty_cons, ih.eq_nil_iff]
    split
    · exact .nil
    · exact .line l ih
  | @comments cs ds ls ms l hcs hds hl _ ih =>
    have hne : l ≠ [] := by
      rintro rfl
      exact hl rfl
    rw [dropLastEmpty_append cs hne, dropLastEmpty_append ds hne, dropLastEmpty_cons,
      dropLastEmpty_cons, if_neg (fun h => hne h.1), if_neg (fun h => hne h.1)]
    exact .comments hcs hds hl ih

/-- Tidied texts hold the same code if their lines did. -/
theorem codeOf_tidyChars_eq {s s' : List Char} (h : SameCode (lines s) (lines s')) :
    codeOf (lines (tidyChars max s)) = codeOf (lines (tidyChars max s')) := by
  have hkept : SameCode (Formatter.dropLastEmpty (Formatter.tidyLines max 0 false (lines s)))
      (Formatter.dropLastEmpty (Formatter.tidyLines max 0 false (lines s'))) :=
    (h.tidyLines 0 false).dropLastEmpty
  by_cases hnil : Formatter.dropLastEmpty (Formatter.tidyLines max 0 false (lines s)) = []
  · have hnil' := hkept.eq_nil_iff.mp hnil
    unfold tidyChars
    rw [hnil, hnil']
  · have hnil' := mt hkept.eq_nil_iff.mpr hnil
    rw [lines_tidyChars hnil, lines_tidyChars hnil', codeOf_append, codeOf_append, hkept.codeOf_eq]

/-- A formatter that only tidies leaves texts with the same code, apart from comments. -/
theorem codeLines_format {formatter : Formatter} (hformatter : TidiesOnly formatter)
    {code code' : String} (h : SameCode (lines code.toList) (lines code'.toList))
    (programs : Programs) :
    ∃ out out', formatter.format programs code = .ok out ∧
      formatter.format programs code' = .ok out' ∧ codeLines out = codeLines out' := by
  rcases hformatter with rfl | rfl
  · exact ⟨code, code', rfl, rfl, h.codeOf_eq⟩
  · refine ⟨_, _, rfl, rfl, ?_⟩
    unfold codeLines
    rw [toList_onChars, toList_onChars]
    exact h.codeOf_tidyChars_eq

end SameCode

end ResolverGen.Go
