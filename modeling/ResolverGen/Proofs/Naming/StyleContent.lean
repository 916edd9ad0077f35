import ResolverGen.Proofs.Naming.SnakeCase

/-!
# What a text holds in every style

A text of ASCII characters holds the same in every style but for case and separators: underscores,
hyphens and blanks come and go, and a conversion moves, loses and adds nothing else. Each of its
passes is seen by what the text holds beside separators.
-/
namespace ResolverGen

open Text
open Sanitizer (isPlainChar)

namespace Text

variable {c : Char} {s t : List Char}

/-! ## Texts without separators -/

/-- An underscore, a hyphen or a blank. -/
def isSeparator (c : Char) : Bool := c = '_' || c = '-' || isBlank c

/-- What a text holds beside separators. -/
def unseparated (s : List Char) : List Char := s.filter (!isSeparator ·)

/-- What a text holds beside separators, in lower case. -/
def content (s : List Char) : List Char := lower (unseparated s)

theorem isSeparator_of_isAlpha (h : c.isAlpha = true) : isSeparator c = false := by
  have hplain : isPlainChar c = true := isPlainChar_of_isAlpha (Or.inl h)
  have hmark : c ≠ '_' ∧ c ≠ '-' := by
    constructor <;> rintro rfl <;> exact absurd h (by decide)
  simp [isSeparator, hmark, not_isBlank_of_isPlainChar hplain]

/-- Case changes letters only, and these are no separators. -/
theorem isSeparator_toLower (c : Char) : isSeparator c.toLower = isSeparator c := by
  cases h : c.isAlpha with
  | true => rw [isSeparator_of_isAlpha h, isSeparator_of_isAlpha (by rw [isAlpha_toLower, h])]
  | false => rw [toLower_of_not_isUpper (Bool.or_eq_false_iff.mp h).1]

@[simp] theorem unseparated_nil : unseparated [] = [] := rfl

@[simp] theorem unseparated_append (s t : List Char) :
    unseparated (s ++ t) = unseparated s ++ unseparated t :=
  List.filter_append s t

theorem unseparated_cons (c : Char) (s : List Char) :
    unseparated (c :: s) = if isSeparator c then unseparated s else c :: unseparated s := by
  unfold unseparated
  cases h : isSeparator c <;> simp [h]

@[simp] theorem unseparated_underscore (s : List Char) : unseparated ('_' :: s) = unseparated s :=
  rfl

theorem unseparated_map_toLower (s : List Char) :
    unseparated (s.map Char.toLower) = (unseparated s).map Char.toLower := by
  unfold unseparated
  rw [List.filter_map]
  exact congrArg (List.map _) (congrArg (List.filter · s) (funext fun c =>
    congrArg _ (isSeparator_toLower c)))

theorem content_ascii (h : IsAscii s) : content s = unseparated (s.map Char.toLower) := by
  rw [unseparated_map_toLower]
  exact lower_ascii fun c hc => h c ((List.mem_filter.mp hc).1)

theorem filter_dropWhile_of_imp {p q : Char → Bool} (h : ∀ c, p c = true → q c = false) :
    (s.dropWhile p).filter q = s.filter q := by
  induction s with
  | nil => rfl
  | cons c rest ih =>
    cases hc : p c with
    | true => rw [List.dropWhile_cons_of_pos hc, ih, List.filter_cons_of_neg (by simp [h c hc])]
    | false => rw [List.dropWhile_cons_of_neg (by simp [hc])]

theorem unseparated_trim {p : Char → Bool} (h : ∀ c, p c = true → isSeparator c = true) :
    unseparated (trim p s) = unseparated s := by
  have hdrop : ∀ t : List Char, unseparated (t.dropWhile p) = unseparated t :=
    fun t => filter_dropWhile_of_imp fun c hc => by rw [h c hc, Bool.not_true]
  have hreverse : ∀ t : List Char, unseparated t.reverse = (unseparated t).reverse :=
    fun t => List.filter_reverse
  rw [trim, trimRight, hreverse, hdrop, hreverse, List.reverse_reverse, trimLeft, hdrop]

theorem unseparated_joinWith (parts : List (List Char)) :
    unseparated (joinWith ['_'] parts) = unseparated parts.flatten := by
  induction parts with
  | nil => rfl
  | cons part rest ih =>
    cases rest with
    | nil => simp [joinWith]
    | cons next others =>
      rw [joinWith_cons _ _ (List.cons_ne_nil next others), List.flatten_cons, unseparated_append,
        unseparated_append, unseparated_append, ih]
      simp

end Text

namespace Naming

variable {c : Char} {s t : List Char}

/-! ## What the passes keep -/

theorem unseparated_joinSeparators (inRun : Bool) (s : List Char) :
    unseparated (joinSeparators inRun s) = unseparated s := by
  induction s generalizing inRun with
  | nil => rfl
  | cons c rest ih =>
    rw [joinSeparators]
    split
    · rename_i hc
      have hsep : isSeparator c = true := by
        simp only [isSeparator, Bool.or_eq_true] at hc ⊢
        exact hc.imp_left Or.inr
      rw [unseparated_cons c, if_pos hsep]
      split
      · exact ih true
      · rw [unseparated_underscore, ih]
    · rw [unseparated_cons, unseparated_cons, ih]

theorem unseparated_markBoundaries (s : List Char) :
    unseparated (markBoundaries s) = unseparated s := by
  fun_induction markBoundaries s with
  | case1 => rfl
  | case2 c => rfl
  | case3 c d rest hmark ih => rw [unseparated_cons, unseparated_cons c, unseparated_underscore, ih]
  | case4 c d rest hmark ih => rw [unseparated_cons, unseparated_cons c, ih]

theorem unseparated_joinUnderscores (s : List Char) :
    unseparated (joinUnderscores s) = unseparated s := by
  fun_induction joinUnderscores s with
  | case1 => rfl
  | case2 c => rfl
  | case3 c d rest hjoin ih =>
    obtain rfl : c = '_' := of_decide_eq_true (Bool.and_eq_true_iff.mp hjoin).1
    rw [ih, unseparated_underscore]
  | case4 c d rest hjoin ih => rw [unseparated_cons, unseparated_cons c, ih]

theorem unseparated_kebabChars (s : List Char) :
    unseparated (kebabChars s) = unseparated (snakeChars s) := by
  unfold kebabChars
  induction snakeChars s with
  | nil => rfl
  | cons c rest ih =>
    rw [List.map_cons, unseparated_cons, unseparated_cons c, ih]
    split
    · subst_vars
      rfl
    · rfl

/-! ## The passes on ASCII texts -/

section

variable (h : IsAscii s)

include h

/-- Of the separators snake case has underscores only. -/
theorem eq_underscore_of_mem_snakeChars {d : Char} (hd : d ∈ snakeChars s)
    (hsep : isSeparator d = true) : d = '_' := by
  rcases exists_of_mem_snakeChars h hd with ⟨c, -, hhyphen, hblank, rfl⟩ | rfl
  · rw [isSeparator_toLower] at hsep
    obtain rfl : c = '_' := by simpa [isSeparator, hhyphen, hblank] using hsep
    rfl
  · rfl

theorem isAscii_snakeChars : IsAscii (snakeChars s) := by
  intro d hd
  rcases exists_of_mem_snakeChars h hd with ⟨c, hc, -, -, rfl⟩ | rfl
  · exact isAscii_map_toLower_iff.mpr h _ (List.mem_map_of_mem hc)
  · decide

theorem isUpper_of_mem_snakeChars {d : Char} (hd : d ∈ snakeChars s) : d.isUpper = false := by
  rcases exists_of_mem_snakeChars h hd with ⟨c, -, -, -, rfl⟩ | rfl
  · exact isUpper_toLower c
  · decide

theorem map_toLower_snakeChars : (snakeChars s).map Char.toLower = snakeChars s :=
  map_toLower_of_not_isUpper fun _ => isUpper_of_mem_snakeChars h

theorem unseparated_snakeChars : unseparated (snakeChars s) = unseparated (s.map Char.toLower) := by
  have hmark : ∀ c : Char, decide (c = '_') = true → isSeparator c = true := by
    intro c hc
    rw [of_decide_eq_true hc]
    rfl
  rw [snakeChars_ascii h, unseparated_trim hmark, unseparated_joinUnderscores,
    unseparated_map_toLower, unseparated_markBoundaries, unseparated_joinSeparators,
    ← unseparated_map_toLower]

end

/-! ## The content in every style -/

theorem joinWith_nameParts (s : List Char) : joinWith ['_'] (nameParts s) = snakeChars s :=
  joinWith_splitAt '_' _

/-- A word put into title case differs from it in case only. -/
theorem map_toLower_titleWord (h : IsAscii s) :
    (titleWord s).map Char.toLower = s.map Char.toLower := by
  cases s with
  | nil => rfl
  | cons c rest =>
    rw [titleWord_ascii h, List.map_cons, List.map_cons, toLower_toUpper, List.map_map,
      toLower_comp_toLower]

theorem map_toLower_flatMap_titleWord {parts : List (List Char)}
    (h : ∀ part ∈ parts, IsAscii part) :
    (parts.flatMap titleWord).map Char.toLower = parts.flatten.map Char.toLower := by
  induction parts with
  | nil => rfl
  | cons part rest ih =>
    obtain ⟨hpart, hrest⟩ := List.forall_mem_cons.mp h
    rw [List.flatMap_cons, List.flatten_cons, List.map_append, List.map_append, ih hrest,
      map_toLower_titleWord hpart]

section

variable (h : IsAscii s)

include h

theorem isAscii_of_mem_nameParts {part : List Char} (hpart : part ∈ nameParts s) : IsAscii part :=
  fun d hd => isAscii_snakeChars h d (mem_of_mem_splitAt hpart hd)

theorem map_toLower_pascalChars :
    (pascalChars s).map Char.toLower = (nameParts s).flatten.map Char.toLower :=
  map_toLower_flatMap_titleWord fun _ => isAscii_of_mem_nameParts h

theorem map_toLower_camelChars :
    (camelChars s).map Char.toLower = (nameParts s).flatten.map Char.toLower := by
  have hascii : ∀ part ∈ nameParts s, IsAscii part := fun _ => isAscii_of_mem_nameParts h
  unfold camelChars
  cases hparts : nameParts s with
  | nil => exact absurd hparts (splitAt_ne_nil _ _)
  | cons first others =>
    rw [hparts] at hascii
    obtain ⟨hfirst, hothers⟩ := List.forall_mem_cons.mp hascii
    dsimp only
    rw [lower_ascii hfirst, List.map_append, List.flatten_cons, List.map_append,
      map_toLower_flatMap_titleWord hothers, List.map_map, toLower_comp_toLower]

/-- The parts of a name hold what its snake case does beside underscores. -/
theorem unseparated_parts :
    unseparated ((nameParts s).flatten.map Char.toLower) = unseparated (snakeChars s) := by
  rw [unseparated_map_toLower, ← unseparated_joinWith, joinWith_nameParts,
    ← unseparated_map_toLower, map_toLower_snakeChars h]

end

end Naming

namespace NameCase

open Naming

variable {s : List Char}

/-- In lower case all styles of a text are the same but for separators. -/
theorem unseparated_convertChars (h : IsAscii s) (style : NameCase) :
    unseparated ((style.convertChars s).map Char.toLower) = unseparated (s.map Char.toLower) := by
  cases style with
  | snake =>
    rw [convertChars, map_toLower_snakeChars h, unseparated_snakeChars h]
  | camel =>
    rw [convertChars, map_toLower_camelChars h, unseparated_parts h, unseparated_snakeChars h]
  | pascal =>
    rw [convertChars, map_toLower_pascalChars h, unseparated_parts h, unseparated_snakeChars h]
  | kebab =>
    rw [convertChars, unseparated_map_toLower, unseparated_kebabChars, ← unseparated_map_toLower,
      map_toLower_snakeChars h, unseparated_snakeChars h]
  | screamingSnake =>
    rw [convertChars, upper_ascii (isAscii_snakeChars h), List.map_map, toLower_comp_toUpper,
      map_toLower_snakeChars h, unseparated_snakeChars h]
  | original => rfl

theorem isAscii_convertChars (h : IsAscii s) (style : NameCase) :
    IsAscii (style.convertChars s) := by
  have hparts : IsAscii ((nameParts s).flatten.map Char.toLower) := by
    rw [isAscii_map_toLower_iff]
    intro d hd
    obtain ⟨part, hpart, hd⟩ := List.mem_flatten.mp hd
    exact isAscii_of_mem_nameParts h hpart d hd
  cases style with
  | snake => exact isAscii_snakeChars h
  | camel =>
    rw [← isAscii_map_toLower_iff, convertChars, map_toLower_camelChars h]
    exact hparts
  | pascal =>
    rw [← isAscii_map_toLower_iff, convertChars, map_toLower_pascalChars h]
    exact hparts
  | kebab =>
    intro d hd
    obtain ⟨c, hc, rfl⟩ := List.mem_map.mp hd
    split
    · decide
    · exact isAscii_snakeChars h c hc
  | screamingSnake =>
    rw [← isAscii_map_toLower_iff, convertChars, upper_ascii (isAscii_snakeChars h), List.map_map,
      toLower_comp_toUpper, map_toLower_snakeChars h]
    exact isAscii_snakeChars h
  | original => exact h

theorem content_convertChars (h : IsAscii s) (style : NameCase) :
    content (style.convertChars s) = content s := by
  rw [content_ascii (isAscii_convertChars h style), content_ascii h, unseparated_convertChars h]

end NameCase

end ResolverGen
