import ResolverGen.Proofs.Text.AsciiChars

/-!
# Names put into a style

What styles make of names that hold letters, digits and underscores alone. A conversion keeps to
these characters, but it drops the underscores in front, so that the name opens with its first
letter or digit.
-/
namespace ResolverGen

open Text
open Sanitizer (isPlainChar)

namespace Text

variable {c d : Char} {s part : List Char} {sep : Char} {p : Char → Bool}

theorem toLower_eq_underscore_iff : c.toLower = '_' ↔ c = '_' := by
  have h : '_'.toNat = 95 := rfl
  rw [← Char.toNat_inj, ← Char.toNat_inj, toNat_toLower]
  split <;> omega

theorem toUpper_eq_underscore_iff : c.toUpper = '_' ↔ c = '_' := by
  have h : '_'.toNat = 95 := rfl
  rw [← Char.toNat_inj, ← Char.toNat_inj, toNat_toUpper]
  split <;> omega

theorem isPlainChar_toLower (c : Char) : isPlainChar c.toLower = isPlainChar c := by
  rw [Bool.eq_iff_iff, isPlainChar_iff, isPlainChar_iff, isAlphanum_toLower,
    toLower_eq_underscore_iff]

theorem isPlainChar_toUpper (c : Char) : isPlainChar c.toUpper = isPlainChar c := by
  rw [Bool.eq_iff_iff, isPlainChar_iff, isPlainChar_iff, isAlphanum_toUpper,
    toUpper_eq_underscore_iff]

/-- A word of ASCII characters with its first one in upper case and the others in lower case. -/
theorem titleWord_ascii (h : ∀ d ∈ c :: s, d.toNat < 0x80) :
    titleWord (c :: s) = c.toUpper :: s.map Char.toLower := by
  obtain ⟨hc, hs⟩ := List.forall_mem_cons.mp h
  rw [titleWord, titleChar_ascii hc, lowerAfter_ascii [c] hs]
  rfl

/-! ## Parts and ends of texts -/

/-- The first part of a text is what stands before the first separator. -/
theorem exists_splitAt_eq_cons (sep : Char) (s : List Char) :
    ∃ parts, splitAt sep s = s.takeWhile (· ≠ sep) :: parts := by
  induction s with
  | nil => exact ⟨[], rfl⟩
  | cons c rest ih =>
    obtain ⟨parts, hparts⟩ := ih
    by_cases hc : c = sep
    · exact ⟨splitAt sep rest, by simp [splitAt, hc]⟩
    · exact ⟨parts, by simp [splitAt, hc, hparts]⟩

theorem mem_of_mem_splitAt (h : part ∈ splitAt sep s) (hd : d ∈ part) : d ∈ s := by
  induction s generalizing part with
  | nil => simp_all [splitAt]
  | cons c rest ih =>
    obtain ⟨parts, hparts⟩ := exists_splitAt_eq_cons sep rest
    by_cases hc : c = sep
    · rw [splitAt, if_pos hc] at h
      rcases List.mem_cons.mp h with rfl | h
      · cases hd
      · exact List.mem_cons_of_mem c (ih h hd)
    · rw [splitAt, if_neg hc, hparts] at h
      rw [hparts] at ih
      rcases List.mem_cons.mp h with rfl | h
      · rcases List.mem_cons.mp hd with rfl | hd
        · exact List.mem_cons_self
        · exact List.mem_cons_of_mem c (ih List.mem_cons_self hd)
      · exact List.mem_cons_of_mem c (ih (List.mem_cons_of_mem _ h) hd)

theorem trim_isInfix (p : Char → Bool) (s : List Char) : trim p s <:+: s := by
  have hright : trim p s <+: trimLeft p s := by
    rw [← List.reverse_suffix, trim, trimRight, List.reverse_reverse]
    exact List.dropWhile_suffix p
  exact hright.isInfix.trans (List.dropWhile_suffix p).isInfix

theorem mem_of_mem_trim (h : d ∈ trim p s) : d ∈ s :=
  (trim_isInfix p s).subset h

theorem head?_trimRight (hc : p c = false) (s : List Char) :
    (trimRight p (c :: s)).head? = some c := by
  rw [trimRight, List.reverse_cons, List.dropWhile_append]
  split <;> simp [hc]

/-- A trimmed text opens with the first character that is not of the class. -/
theorem head?_trim (p : Char → Bool) (s : List Char) : (trim p s).head? = s.find? (!p ·) := by
  induction s with
  | nil => rfl
  | cons c rest ih =>
    cases hc : p c with
    | true =>
      have hleft : trimLeft p (c :: rest) = trimLeft p rest := List.dropWhile_cons_of_pos hc
      rw [trim, hleft, List.find?_cons_of_neg (by simp [hc])]
      exact ih
    | false =>
      have hleft : trimLeft p (c :: rest) = c :: rest :=
        List.dropWhile_cons_of_neg (by simp [hc])
      rw [trim, hleft, head?_trimRight hc, List.find?_cons_of_pos (by simp [hc])]

end Text

namespace Naming

variable {d : Char} {s : List Char}

/-! ## Snake case -/

/-- A text without separators other than underscores stays as it is. -/
theorem joinSeparators_of_not (h : ∀ c ∈ s, c ≠ '-' ∧ isBlank c = false) (inRun : Bool) :
    joinSeparators inRun s = s := by
  induction s generalizing inRun with
  | nil => rfl
  | cons c rest ih =>
    obtain ⟨⟨hhyphen, hblank⟩, hrest⟩ := List.forall_mem_cons.mp h
    rw [joinSeparators, if_neg (by simp [hhyphen, hblank]), ih hrest]

theorem joinSeparators_of_plain (h : ∀ c ∈ s, isPlainChar c = true) (inRun : Bool) :
    joinSeparators inRun s = s := by
  refine joinSeparators_of_not (fun c hc => ⟨?_, not_isBlank_of_isPlainChar (h c hc)⟩) inRun
  rintro rfl
  exact absurd (h _ hc) (by decide)

theorem mem_joinSeparators {inRun : Bool} {d : Char} (h : d ∈ joinSeparators inRun s) :
    (d ∈ s ∧ d ≠ '-' ∧ isBlank d = false) ∨ d = '_' := by
  induction s generalizing inRun with
  | nil => cases h
  | cons c rest ih =>
    have hrest : ∀ b, d ∈ joinSeparators b rest →
        (d ∈ c :: rest ∧ d ≠ '-' ∧ isBlank d = false) ∨ d = '_' :=
      fun b hd => (ih hd).imp_left fun hd => ⟨List.mem_cons_of_mem c hd.1, hd.2⟩
    rw [joinSeparators] at h
    split at h
    · split at h
      · exact hrest true h
      · exact (List.mem_cons.mp h).elim Or.inr (hrest true)
    · rename_i hc
      rcases List.mem_cons.mp h with rfl | hd
      · exact Or.inl ⟨List.mem_cons_self, by simpa using hc⟩
      · exact hrest false hd

theorem mem_of_mem_markBoundaries (h : d ∈ markBoundaries s) : d ∈ s ∨ d = '_' := by
  fun_induction markBoundaries s with
  | case1 => exact Or.inl h
  | case2 c => exact Or.inl h
  | case3 c e rest hmark ih => grind
  | case4 c e rest hmark ih => grind

theorem ne_underscore_of_closesPart {c : Char} (h : closesPart c = true) : c ≠ '_' := by
  rintro rfl
  exact absurd h (by decide)

/-- An underscore is put behind another character only. -/
theorem find?_markBoundaries (s : List Char) :
    (markBoundaries s).find? (· ≠ '_') = s.find? (· ≠ '_') := by
  fun_induction markBoundaries s with
  | case1 => rfl
  | case2 c => rfl
  | case3 c e rest hmark ih =>
    have hc := ne_underscore_of_closesPart (Bool.and_eq_true_iff.mp hmark).1
    simp [hc]
  | case4 c e rest hmark ih => rw [List.find?_cons, List.find?_cons, ih]

theorem mem_of_mem_joinUnderscores (h : d ∈ joinUnderscores s) : d ∈ s := by
  fun_induction joinUnderscores s with
  | case1 => exact h
  | case2 c => exact h
  | case3 c e rest hjoin ih => exact List.mem_cons_of_mem c (ih h)
  | case4 c e rest hjoin ih =>
    rcases List.mem_cons.mp h with rfl | h
    · exact List.mem_cons_self
    · exact List.mem_cons_of_mem c (ih h)

theorem find?_joinUnderscores (s : List Char) :
    (joinUnderscores s).find? (· ≠ '_') = s.find? (· ≠ '_') := by
  fun_induction joinUnderscores s with
  | case1 => rfl
  | case2 c => rfl
  | case3 c e rest hjoin ih =>
    have hc : c = '_' := of_decide_eq_true (Bool.and_eq_true_iff.mp hjoin).1
    exact ih.trans (List.find?_cons_of_neg (by simp [hc])).symm
  | case4 c e rest hjoin ih => rw [List.find?_cons, List.find?_cons, ih]

section

variable (h : IsAscii s)

include h

theorem isAscii_markBoundaries : IsAscii (markBoundaries (joinSeparators false s)) := by
  intro d hd
  rcases mem_of_mem_markBoundaries hd with hd | rfl
  · rcases mem_joinSeparators hd with ⟨hd, -⟩ | rfl
    · exact h d hd
    · decide
  · decide

theorem snakeChars_ascii :
    snakeChars s = trim (· = '_')
      (joinUnderscores ((markBoundaries (joinSeparators false s)).map Char.toLower)) := by
  rw [snakeChars, lower_ascii (isAscii_markBoundaries h)]

/-- Snake case holds the characters of a text in lower case, and underscores. -/
theorem exists_of_mem_snakeChars {d : Char} (hd : d ∈ snakeChars s) :
    (∃ c ∈ s, c ≠ '-' ∧ isBlank c = false ∧ d = c.toLower) ∨ d = '_' := by
  rw [snakeChars_ascii h] at hd
  obtain ⟨c, hc, rfl⟩ := List.mem_map.mp (mem_of_mem_joinUnderscores (mem_of_mem_trim hd))
  rcases mem_of_mem_markBoundaries hc with hc | rfl
  · rcases mem_joinSeparators hc with ⟨hc, hhyphen, hblank⟩ | rfl
    · exact Or.inl ⟨c, hc, hhyphen, hblank, rfl⟩
    · exact Or.inr rfl
  · exact Or.inr rfl

end

section

variable (h : ∀ c ∈ s, isPlainChar c = true)

include h

theorem isPlainChar_of_mem_snakeChars (hd : d ∈ snakeChars s) : isPlainChar d = true := by
  rcases exists_of_mem_snakeChars (isAscii_of_isPlainChar h) hd with ⟨c, hc, -, -, rfl⟩ | rfl
  · rw [isPlainChar_toLower, h c hc]
  · decide

/-- Snake case opens with the first letter or digit, in lower case. -/
theorem head?_snakeChars :
    (snakeChars s).head? = (s.find? (· ≠ '_')).map Char.toLower := by
  have hstart : ((markBoundaries s).map Char.toLower).find? (· ≠ '_') =
      ((markBoundaries s).find? (· ≠ '_')).map Char.toLower := by
    rw [List.find?_map]
    refine congrArg _ (congrArg (List.find? · _) (funext fun c => ?_))
    exact decide_eq_decide.mpr (not_congr toLower_eq_underscore_iff)
  calc (snakeChars s).head?
      = (joinUnderscores ((markBoundaries s).map Char.toLower)).find? (· ≠ '_') := by
        rw [snakeChars_ascii (isAscii_of_isPlainChar h), joinSeparators_of_plain h, head?_trim]
        simp
    _ = ((markBoundaries s).map Char.toLower).find? (· ≠ '_') := find?_joinUnderscores _
    _ = ((markBoundaries s).find? (· ≠ '_')).map Char.toLower := hstart
    _ = (s.find? (· ≠ '_')).map Char.toLower := by rw [find?_markBoundaries]

/-- A name without letters and digits has one part, which is empty. Of any other name the first part
opens as the name does. -/
theorem nameParts_cases :
    (s.find? (· ≠ '_') = none ∧ nameParts s = [[]]) ∨
      ∃ c word parts, s.find? (· ≠ '_') = some c ∧ nameParts s = (c.toLower :: word) :: parts := by
  have hhead := head?_snakeChars h
  cases hsnake : snakeChars s with
  | nil =>
    rw [hsnake, eq_comm, List.head?_nil, Option.map_eq_none_iff] at hhead
    exact Or.inl ⟨hhead, by rw [nameParts, hsnake, splitAt]⟩
  | cons d rest =>
    rw [hsnake, eq_comm, List.head?_cons, Option.map_eq_some_iff] at hhead
    obtain ⟨c, hc, rfl⟩ := hhead
    have hne : c.toLower ≠ '_' := by
      rw [ne_eq, toLower_eq_underscore_iff]
      simpa using List.find?_some hc
    obtain ⟨parts, hparts⟩ := exists_splitAt_eq_cons '_' (c.toLower :: rest)
    rw [List.takeWhile_cons_of_pos (by simp [hne])] at hparts
    exact Or.inr ⟨c, _, parts, hc, by rw [nameParts, hsnake, hparts]⟩

theorem isPlainChar_of_mem_nameParts {part : List Char} (hpart : part ∈ nameParts s)
    (hd : d ∈ part) : isPlainChar d = true :=
  isPlainChar_of_mem_snakeChars h (mem_of_mem_splitAt hpart hd)

theorem lower_part {part : List Char} (hpart : part ∈ nameParts s) :
    lower part = part.map Char.toLower :=
  lower_ascii (isAscii_of_isPlainChar fun _ => isPlainChar_of_mem_nameParts h hpart)

theorem titleWord_part {c : Char} {word : List Char} (hpart : c :: word ∈ nameParts s) :
    titleWord (c :: word) = c.toUpper :: word.map Char.toLower :=
  titleWord_ascii (isAscii_of_isPlainChar fun _ => isPlainChar_of_mem_nameParts h hpart)

theorem isPlainChar_of_mem_titleWord {part : List Char} (hpart : part ∈ nameParts s)
    (hd : d ∈ titleWord part) : isPlainChar d = true := by
  have hplain : ∀ e ∈ part, isPlainChar e = true := fun e => isPlainChar_of_mem_nameParts h hpart
  cases part with
  | nil => cases hd
  | cons c word =>
    obtain ⟨hc, hword⟩ := List.forall_mem_cons.mp hplain
    rw [titleWord_part h hpart] at hd
    rcases List.mem_cons.mp hd with rfl | hd
    · rw [isPlainChar_toUpper, hc]
    · obtain ⟨e, he, rfl⟩ := List.mem_map.mp hd
      rw [isPlainChar_toLower, hword e he]

/-! ## Camel and Pascal case -/

theorem head?_camelChars : (camelChars s).head? = (s.find? (· ≠ '_')).map Char.toLower := by
  rcases nameParts_cases h with ⟨hnone, hparts⟩ | ⟨c, word, parts, hsome, hparts⟩
  · rw [camelChars, hparts, hnone]
    rfl
  · have hlower := lower_part h (hparts ▸ List.mem_cons_self)
    rw [camelChars, hparts, hsome]
    dsimp only
    rw [hlower]
    exact congrArg some (toLower_toLower c)

theorem head?_pascalChars : (pascalChars s).head? = (s.find? (· ≠ '_')).map Char.toUpper := by
  rcases nameParts_cases h with ⟨hnone, hparts⟩ | ⟨c, word, parts, hsome, hparts⟩
  · rw [pascalChars, hparts, hnone]
    rfl
  · have htitle := titleWord_part h (hparts ▸ List.mem_cons_self)
    have hupper : c.toLower.toUpper = c.toUpper :=
      toUpper_eq_iff_toLower_eq.mpr (toLower_toLower c)
    rw [pascalChars, hparts, hsome]
    simp [htitle, hupper]

theorem isPlainChar_of_mem_camelChars (hd : d ∈ camelChars s) : isPlainChar d = true := by
  obtain ⟨parts, hparts⟩ := exists_splitAt_eq_cons '_' (snakeChars s)
  have hparts : nameParts s = _ :: parts := hparts
  rw [camelChars, hparts] at hd
  rcases List.mem_append.mp hd with hd | hd
  · rw [lower_part h (hparts ▸ List.mem_cons_self)] at hd
    obtain ⟨c, hc, rfl⟩ := List.mem_map.mp hd
    rw [isPlainChar_toLower]
    exact isPlainChar_of_mem_nameParts h (hparts ▸ List.mem_cons_self) hc
  · obtain ⟨part, hpart, hd⟩ := List.mem_flatMap.mp hd
    exact isPlainChar_of_mem_titleWord h (hparts ▸ List.mem_cons_of_mem _ hpart) hd

theorem isPlainChar_of_mem_pascalChars (hd : d ∈ pascalChars s) : isPlainChar d = true := by
  obtain ⟨part, hpart, hd⟩ := List.mem_flatMap.mp hd
  exact isPlainChar_of_mem_titleWord h hpart hd

end

end Naming

namespace NameCase

open Naming

variable {style : NameCase} {d : Char} {s : List Char}

/-- What a style makes of the character that a name opens with. -/
def opening : NameCase → Char → Char
  | pascal, c | screamingSnake, c => c.toUpper
  | _, c => c.toLower

theorem isAlpha_opening (style : NameCase) (c : Char) : (style.opening c).isAlpha = c.isAlpha := by
  cases style with
  | pascal | screamingSnake => exact isAlpha_toUpper c
  | _ => exact isAlpha_toLower c

theorem opening_eq_underscore_iff {c : Char} : style.opening c = '_' ↔ c = '_' := by
  cases style with
  | pascal | screamingSnake => exact toUpper_eq_underscore_iff
  | _ => exact toLower_eq_underscore_iff

section

variable (hstyle : style ≠ .kebab) (h : ∀ c ∈ s, isPlainChar c = true)

include hstyle h

theorem isPlainChar_of_mem_convertChars (hd : d ∈ style.convertChars s) : isPlainChar d = true := by
  cases style with
  | snake => exact isPlainChar_of_mem_snakeChars h hd
  | camel => exact isPlainChar_of_mem_camelChars h hd
  | pascal => exact isPlainChar_of_mem_pascalChars h hd
  | kebab => exact absurd rfl hstyle
  | screamingSnake =>
    have hascii := isAscii_of_isPlainChar fun c => isPlainChar_of_mem_snakeChars (d := c) h
    rw [convertChars, upper_ascii hascii] at hd
    obtain ⟨c, hc, rfl⟩ := List.mem_map.mp hd
    rw [isPlainChar_toUpper, isPlainChar_of_mem_snakeChars h hc]
  | original => exact h d hd

/-- In a style a name opens with its first letter or digit. -/
theorem head?_convertChars (horiginal : style ≠ .original) :
    (style.convertChars s).head? = (s.find? (· ≠ '_')).map style.opening := by
  cases style with
  | snake => exact head?_snakeChars h
  | camel => exact head?_camelChars h
  | pascal => exact head?_pascalChars h
  | kebab => exact absurd rfl hstyle
  | screamingSnake =>
    have hascii := isAscii_of_isPlainChar fun c => isPlainChar_of_mem_snakeChars (d := c) h
    rw [convertChars, upper_ascii hascii, List.head?_map, head?_snakeChars h, Option.map_map]
    refine congrArg (Option.map · _) (funext fun c => ?_)
    exact toUpper_eq_iff_toLower_eq.mpr (toLower_toLower c)
  | original => exact absurd rfl horiginal

end

end NameCase

end ResolverGen
