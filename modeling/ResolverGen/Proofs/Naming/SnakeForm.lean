import Mathlib.Data.List.Chain
import ResolverGen.Proofs.Naming.StyleContent
import ResolverGen.Proofs.Text.EndedLines

/-!
# The form of snake case

The snake case of a text has neither capitals nor blanks nor hyphens, and its underscores stand
alone between other characters. A text of this form is left alone by snake case, and its hyphens
in kebab case are read back as the underscores that they were.
-/
namespace ResolverGen

open Text

namespace Naming

variable {c d : Char} {s t : List Char}

/-! ## Underscores that stand alone -/

/-- Whether two characters are not both underscores. -/
def NotTwoMarks (c d : Char) : Prop := ¬(c = '_' ∧ d = '_')

/-- The underscores of a text stand alone, and between other characters. -/
structure HasInnerMarks (s : List Char) : Prop where
  single : s.IsChain NotTwoMarks
  first : s.head? ≠ some '_'
  last : s.getLast? ≠ some '_'

theorem joinUnderscores_of_isChain (h : s.IsChain NotTwoMarks) : joinUnderscores s = s := by
  fun_induction joinUnderscores s with
  | case1 => rfl
  | case2 c => rfl
  | case3 c d rest hjoin ih => exact absurd (by simpa using hjoin) (h.rel_head? rfl)
  | case4 c d rest hjoin ih => rw [ih h.tail]

/-- Such a text loses no underscore. -/
theorem HasInnerMarks.trim_joinUnderscores (h : HasInnerMarks s) :
    trim (· = '_') (joinUnderscores s) = s := by
  have hleft : trimLeft (· = '_') s = s := by
    apply trimLeft_of_head
    intro c hc
    rw [decide_eq_false_iff_not]
    rintro rfl
    exact h.first hc
  rw [joinUnderscores_of_isChain h.single, trim, hleft]
  apply trimRight_of_getLast
  intro c hc
  rw [decide_eq_false_iff_not]
  rintro rfl
  exact h.last hc

theorem HasInnerMarks.map_toLower (h : HasInnerMarks s) : HasInnerMarks (s.map Char.toLower) where
  single := by
    rw [List.isChain_map]
    refine h.single.imp fun c d hapart hboth => hapart ?_
    exact hboth.imp toLower_eq_underscore_iff.mp toLower_eq_underscore_iff.mp
  first := by
    rw [List.head?_map]
    intro hfirst
    obtain ⟨c, hc, hmark⟩ := Option.map_eq_some_iff.mp hfirst
    exact h.first (toLower_eq_underscore_iff.mp hmark ▸ hc)
  last := by
    rw [List.getLast?_map]
    intro hlast
    obtain ⟨c, hc, hmark⟩ := Option.map_eq_some_iff.mp hlast
    exact h.last (toLower_eq_underscore_iff.mp hmark ▸ hc)

theorem head?_joinUnderscores (s : List Char) : (joinUnderscores s).head? = s.head? := by
  fun_induction joinUnderscores s with
  | case1 => rfl
  | case2 c => rfl
  | case3 c d rest hjoin ih =>
    obtain ⟨hc, hd⟩ := Bool.and_eq_true_iff.mp hjoin
    rw [ih, List.head?_cons, List.head?_cons, of_decide_eq_true hc, of_decide_eq_true hd]
  | case4 c d rest hjoin ih => rfl

/-- Of underscores side by side one is left. -/
theorem isChain_joinUnderscores (s : List Char) : (joinUnderscores s).IsChain NotTwoMarks := by
  fun_induction joinUnderscores s with
  | case1 => exact List.isChain_nil
  | case2 c => exact List.isChain_singleton c
  | case3 c d rest hjoin ih => exact ih
  | case4 c d rest hjoin ih =>
    refine List.isChain_cons.mpr ⟨fun e he => ?_, ih⟩
    rw [head?_joinUnderscores, List.head?_cons, Option.mem_some] at he
    subst he
    simpa [NotTwoMarks] using hjoin

theorem hasInnerMarks_snakeChars (s : List Char) : HasInnerMarks (snakeChars s) where
  single := List.IsChain.infix (isChain_joinUnderscores _) (trim_isInfix _ _)
  first := by
    rw [snakeChars, head?_trim]
    intro hfirst
    simpa using List.find?_some hfirst
  last := by
    rw [snakeChars, trim]
    intro hlast
    simpa using getLast_trimRight hlast

/-! ## The form, and texts that have it -/

/-- A text without capitals, hyphens and blanks whose underscores stand alone, and between other
characters. -/
structure IsSnake (s : List Char) : Prop extends HasInnerMarks s where
  noUpper : ∀ c ∈ s, isUpperChar c = false
  noHyphen : '-' ∉ s
  noBlank : ∀ c ∈ s, isBlank c = false

theorem IsSnake.noSeparator (h : IsSnake s) : ∀ c ∈ s, c ≠ '-' ∧ isBlank c = false := by
  refine fun c hc => ⟨?_, h.noBlank c hc⟩
  rintro rfl
  exact h.noHyphen hc

theorem isSnake_snakeChars (h : IsAscii s) : IsSnake (snakeChars s) where
  toHasInnerMarks := hasInnerMarks_snakeChars s
  noUpper := fun d hd => by
    rw [isUpperChar_ascii (isAscii_snakeChars h d hd), isUpper_of_mem_snakeChars h hd]
  noHyphen := fun hd => absurd (eq_underscore_of_mem_snakeChars h hd rfl) (by decide)
  noBlank := fun d hd => by
    rw [Bool.eq_false_iff]
    intro hblank
    have hsep : isSeparator d = true := by
      rw [isSeparator, hblank, Bool.or_true]
    rw [eq_underscore_of_mem_snakeChars h hd hsep] at hblank
    exact absurd hblank (by decide)

theorem markBoundaries_of_not_isUpper (h : ∀ c ∈ s, c.isUpper = false) :
    markBoundaries s = s := by
  fun_induction markBoundaries s with
  | case1 => rfl
  | case2 c => rfl
  | case3 c d rest hmark ih =>
    have hd : d.isUpper = false := h d (by simp)
    simp [hd] at hmark
  | case4 c d rest hmark ih => rw [ih (List.forall_mem_cons.mp h).2]

/-- A text that has the form once its separators are underscores comes to this in snake case. -/
theorem snakeChars_of_joinSeparators (hs : joinSeparators false s = t) (hascii : IsAscii t)
    (h : IsSnake t) : snakeChars s = t := by
  have hupper : ∀ c ∈ t, c.isUpper = false :=
    fun c hc => isUpperChar_ascii (hascii c hc) ▸ h.noUpper c hc
  rw [snakeChars, hs, markBoundaries_of_not_isUpper hupper, lower_ascii hascii,
    map_toLower_of_not_isUpper hupper, h.trim_joinUnderscores]

/-- A text in snake case stays as it is. -/
theorem snakeChars_of_isSnake (hascii : IsAscii s) (h : IsSnake s) : snakeChars s = s :=
  snakeChars_of_joinSeparators (joinSeparators_of_not h.noSeparator false) hascii h

/-- Hyphens that stand alone are read as the underscores that they were. -/
theorem joinSeparators_map_hyphen (h : ∀ c ∈ s, c ≠ '-' ∧ isBlank c = false)
    (hsingle : s.IsChain NotTwoMarks) (inRun : Bool)
    (hfirst : inRun = true → s.head? ≠ some '_') :
    joinSeparators inRun (s.map fun c => if c = '_' then '-' else c) = s := by
  induction s generalizing inRun with
  | nil => rfl
  | cons c rest ih =>
    obtain ⟨hc, hrest⟩ := List.forall_mem_cons.mp h
    obtain ⟨hnext, htail⟩ := List.isChain_cons.mp hsingle
    rw [List.map_cons]
    by_cases hmark : c = '_'
    · subst hmark
      obtain rfl : inRun = false := Bool.eq_false_iff.mpr fun hrun => hfirst hrun rfl
      have hhead : rest.head? ≠ some '_' := fun hd => hnext '_' hd ⟨rfl, rfl⟩
      rw [if_pos rfl, joinSeparators, if_pos (by simp), if_neg (by simp),
        ih hrest htail true fun _ => hhead]
    · rw [if_neg hmark, joinSeparators, if_neg (by simp [hc]),
        ih hrest htail false fun hrun => absurd hrun (by simp)]

theorem snakeChars_snakeChars (h : IsAscii s) : snakeChars (snakeChars s) = snakeChars s :=
  snakeChars_of_isSnake (isAscii_snakeChars h) (isSnake_snakeChars h)

theorem snakeChars_kebabChars (h : IsAscii s) : snakeChars (kebabChars s) = snakeChars s := by
  have hsnake := isSnake_snakeChars h
  refine snakeChars_of_joinSeparators ?_ (isAscii_snakeChars h) hsnake
  exact joinSeparators_map_hyphen hsnake.noSeparator hsnake.single false (by simp)

theorem toList_snakeCase (name : String) : (snakeCase name).toList = snakeChars name.toList :=
  toList_onChars snakeChars name

theorem toList_kebabCase (name : String) : (kebabCase name).toList = kebabChars name.toList :=
  toList_onChars kebabChars name

/-- The snake case of a text has the form of snake case, and is the snake case of itself and of the
kebab case of the text. In no style does a text lose, gain or move anything beside separators and
case. -/
theorem snakeCase_form {name : String} (h : IsAscii name.toList) :
    IsSnake (snakeCase name).toList ∧
      snakeCase (snakeCase name) = snakeCase name ∧
      snakeCase (kebabCase name) = snakeCase name ∧
      ∀ style : NameCase, content (style.convert name).toList = content name.toList := by
  refine ⟨?_, ?_, ?_, fun style => ?_⟩
  · rw [toList_snakeCase]
    exact isSnake_snakeChars h
  · rw [← String.toList_inj, toList_snakeCase, toList_snakeCase, snakeChars_snakeChars h]
  · rw [← String.toList_inj, toList_snakeCase, toList_snakeCase, toList_kebabCase,
      snakeChars_kebabChars h]
  · rw [NameCase.convert, toList_onChars]
    exact NameCase.content_convertChars h style

/-- A name with separators of all kinds, side by side and at its ends. -/
theorem snakeCase_form_articleName :
    IsAscii "_-HTTPServer  2ndTry__".toList ∧
      snakeCase "_-HTTPServer  2ndTry__" = "httpserver_2nd_try" ∧
      IsSnake (snakeCase "_-HTTPServer  2ndTry__").toList ∧
      content (NameCase.camel.convert "_-HTTPServer  2ndTry__").toList =
        "httpserver2ndtry".toList := by
  have hascii : IsAscii "_-HTTPServer  2ndTry__".toList := by decide
  obtain ⟨hform, -, -, hcontent⟩ := snakeCase_form hascii
  refine ⟨hascii, by decide, hform, (hcontent .camel).trans (by decide)⟩

end Naming

end ResolverGen
