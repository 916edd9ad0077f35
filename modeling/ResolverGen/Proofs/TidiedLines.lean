import ResolverGen.Proofs.Tidying

/-!
# Lines of tidied texts

A tidied text is taken apart into the lines that tidying kept. What a class of lines that leaves out
the empty one selects of it is selected of the text, but for the blanks at line ends. A block that
opens and ends in lines that are not blank is tidied by itself.
-/
namespace ResolverGen.Formatter

open Text

variable {max : Int} {l : List Char} {ls ms : List (List Char)}

/-- A line that is not blank. -/
def IsKept (l : List Char) : Prop := stripRight l ≠ []

theorem isKept_iff : IsKept l ↔ ∃ c ∈ l, isBlank c = false := by
  unfold IsKept
  rw [ne_eq, stripRight_eq_nil_iff]
  simp

theorem IsKept.isSolid_stripRight (h : IsKept l) : IsSolid (stripRight l) :=
  ⟨stripRight_stripRight l, h⟩

theorem isKept_cons {c : Char} (hc : isBlank c = false) (l : List Char) : IsKept (c :: l) :=
  isKept_iff.mpr ⟨c, List.mem_cons_self, hc⟩

/-- A text that opens with a character that is not blank opens with a line that is not. -/
theorem exists_kept_first {c : Char} (hc : isBlank c = false) (s : List Char) :
    ∃ l ms, lines (c :: s) = l :: ms ∧ IsKept l := by
  have hnewline : '\n' ∉ [c] := by
    rw [List.mem_singleton]
    rintro rfl
    contradiction
  obtain ⟨l, ms, _, hlines⟩ := exists_lines_append hnewline s
  exact ⟨[c] ++ l, ms, hlines, isKept_cons hc l⟩

/-- A text that ends in a character that is not blank ends in a line that is not. -/
theorem exists_kept_last {s : List Char} {c : Char} (hs : s.getLast? = some c)
    (hc : isBlank c = false) : ∃ ms l, lines s = ms ++ [l] ∧ IsKept l := by
  obtain ⟨ms, l, hlines, hl⟩ := exists_lines_of_getLast hs hc
  exact ⟨ms, l, hlines, isKept_iff.mpr ⟨c, List.mem_of_getLast? hl, hc⟩⟩

/-- Trimming at the end leaves what stands before something that is not blank. -/
theorem stripRight_append (s : List Char) (h : IsKept l) :
    stripRight (s ++ l) = s ++ stripRight l := by
  induction s with
  | nil => rfl
  | cons c s ih =>
    have hrest : stripRight (s ++ l) ≠ [] := by
      rw [ih]
      exact List.append_ne_nil_of_right_ne_nil s h
    rw [List.cons_append, stripRight_cons_of_ne_nil c hrest, ih, List.cons_append]

theorem stripRight_append_of_blank {s : List Char} (h : ∀ c ∈ s, isBlank c = true)
    (l : List Char) : stripRight (l ++ s) = stripRight l :=
  trimRight_append_of_all isBlank l h

/-- What is trimmed at the end is blank. -/
theorem exists_eq_stripRight_append (l : List Char) :
    ∃ s, (∀ c ∈ s, isBlank c = true) ∧ l = stripRight l ++ s := by
  refine ⟨(l.reverse.takeWhile isBlank).reverse, ?_, ?_⟩
  · intro c hc
    exact List.mem_takeWhile_imp (List.mem_reverse.mp hc)
  · unfold stripRight trimRight
    rw [← List.reverse_append, List.takeWhile_append_dropWhile, List.reverse_reverse]

/-! ## Lines that tidying keeps -/

theorem mem_tidyLines :
    ∀ {ls : List (List Char)} {blanks : Nat} {started : Bool},
      l ∈ tidyLines max blanks started ls → ∃ m ∈ ls, l = stripRight m
  | m :: rest, blanks, started, h => by
    have hrest : ∀ {blanks : Nat} {started : Bool}, l ∈ tidyLines max blanks started rest →
        ∃ n ∈ m :: rest, l = stripRight n := by
      intro blanks started h
      obtain ⟨n, hn, he⟩ := mem_tidyLines h
      exact ⟨n, List.mem_cons_of_mem m hn, he⟩
    rw [tidyLines] at h
    split at h
    · rename_i hblank
      split at h
      · rcases List.mem_cons.mp h with rfl | h
        · exact ⟨m, List.mem_cons_self, hblank.symm⟩
        · exact hrest h
      · exact hrest h
    · rcases List.mem_cons.mp h with rfl | h
      · exact ⟨m, List.mem_cons_self, rfl⟩
      · exact hrest h

/-- A class of lines that leaves out the empty one selects what it selects of the lines trimmed. -/
theorem filter_tidyLines {p : List Char → Bool} (hp : p [] = false) :
    ∀ (ls : List (List Char)) (blanks : Nat) (started : Bool),
      (tidyLines max blanks started ls).filter p = (ls.map stripRight).filter p
  | [], _, _ => rfl
  | l :: rest, blanks, started => by
    rw [tidyLines, List.map_cons]
    split
    · rename_i hblank
      rw [hblank, List.filter_cons_of_neg (by simp [hp])]
      split
      · rw [List.filter_cons_of_neg (by simp [hp]), filter_tidyLines hp rest]
      · exact filter_tidyLines hp rest _ _
    · rw [List.filter_cons, List.filter_cons, filter_tidyLines hp rest]

theorem filter_dropLastEmpty {p : List Char → Bool} (hp : p [] = false) (ls : List (List Char)) :
    (dropLastEmpty ls).filter p = ls.filter p := by
  have key : ∀ ms : List (List Char), (ms.dropWhile List.isEmpty).filter p = ms.filter p := by
    intro ms
    induction ms with
    | nil => rfl
    | cons m ms ih =>
      cases m with
      | nil => simp [hp, ih]
      | cons c m => simp
  unfold dropLastEmpty
  rw [List.filter_reverse, key, List.filter_reverse, List.reverse_reverse]

/-- Lines without a newline stay so when they are tidied. -/
theorem not_mem_dropLastEmpty_tidyLines {blanks : Nat} {started : Bool}
    (h : ∀ m ∈ ls, '\n' ∉ m) :
    ∀ m ∈ dropLastEmpty (tidyLines max blanks started ls), '\n' ∉ m := by
  intro m hm
  have hmem : m ∈ tidyLines max blanks started ls := by
    unfold dropLastEmpty at hm
    exact List.mem_reverse.mp (List.dropWhile_subset _ (List.mem_reverse.mp hm))
  obtain ⟨n, hn, rfl⟩ := mem_tidyLines hmem
  exact fun hnewline => h n hn (mem_of_mem_stripRight hnewline)

theorem lines_append_newline (s : List Char) : lines (s ++ ['\n']) = lines s ++ [[]] :=
  lines_append s []

/-- A tidied text is taken apart into its lines as they were tidied. -/
theorem lines_tidyChars {s : List Char}
    (h : dropLastEmpty (tidyLines max 0 false (lines s)) ≠ []) :
    lines (tidyChars max s) = dropLastEmpty (tidyLines max 0 false (lines s)) ++ [[]] := by
  unfold tidyChars
  rw [lines_append_newline, lines_unlines h]
  exact not_mem_dropLastEmpty_tidyLines fun m hm => not_mem_of_mem_lines hm

theorem filter_lines_tidyChars {p : List Char → Bool} (hp : p [] = false) (s : List Char) :
    (lines (tidyChars max s)).filter p = ((lines s).map stripRight).filter p := by
  have hkept : (tidyLines max 0 false (lines s)).filter p = _ :=
    filter_tidyLines hp (lines s) 0 false
  rw [← filter_dropLastEmpty hp] at hkept
  rw [← hkept]
  by_cases h : dropLastEmpty (tidyLines max 0 false (lines s)) = []
  · have hlines : lines (tidyChars max s) = [[], []] := by
      unfold tidyChars
      rw [h]
      rfl
    simp [h, hlines, hp]
  · rw [lines_tidyChars h, List.filter_append]
    simp [hp]

/-! ## Blocks -/

/-- Lines that open and end in ones that are not blank. -/
structure IsBlock (ls : List (List Char)) : Prop where
  opens : ∃ l rest, ls = l :: rest ∧ IsKept l
  ends : ∃ rest l, ls = rest ++ [l] ∧ IsKept l

theorem tidyLines_append_of_ends {rest : List (List Char)} {l : List Char} (hl : IsKept l)
    (blanks : Nat) (started : Bool) (ms : List (List Char)) :
    tidyLines max blanks started (rest ++ [l] ++ ms) =
      tidyLines max blanks started (rest ++ [l]) ++ tidyLines max 0 true ms := by
  rw [List.append_assoc, List.singleton_append, tidyLines_append_kept hl,
    tidyLines_append_kept hl, List.append_assoc]
  rfl

/-- A block parts what is tidied before it from what is tidied after it. -/
theorem IsBlock.tidyLines_append (h : IsBlock ms) (before after : List (List Char)) (blanks : Nat)
    (started : Bool) :
    tidyLines max blanks started (before ++ ms ++ after) =
      tidyLines max blanks started before ++ tidyLines max 0 true ms ++
        tidyLines max 0 true after := by
  obtain ⟨first, rest, hopens, hfirst⟩ := h.opens
  obtain ⟨init, last, hends, hlast⟩ := h.ends
  have hbefore : tidyLines max blanks started (before ++ ms) =
      tidyLines max blanks started before ++ tidyLines max 0 true ms := by
    rw [hopens, tidyLines_append_kept hfirst, tidyLines_kept hfirst]
  rw [← hbefore, hends, ← List.append_assoc]
  exact tidyLines_append_of_ends hlast blanks started after

theorem dropLastEmpty_cons (l : List Char) (ls : List (List Char)) :
    dropLastEmpty (l :: ls) =
      if l = [] ∧ dropLastEmpty ls = [] then [] else l :: dropLastEmpty ls := by
  unfold dropLastEmpty
  rw [List.reverse_cons, List.dropWhile_append]
  cases hdropped : ls.reverse.dropWhile List.isEmpty with
  | nil =>
    cases l with
    | nil => simp
    | cons c l => simp
  | cons m ms => simp

/-- Empty lines are dropped at the end of the last part that has another line. -/
theorem dropLastEmpty_append (ls : List (List Char)) (hl : l ≠ []) (ms : List (List Char)) :
    dropLastEmpty (ls ++ l :: ms) = ls ++ dropLastEmpty (l :: ms) := by
  have hne : ((l :: ms).reverse.dropWhile List.isEmpty).isEmpty = false := by
    rw [List.isEmpty_eq_false_iff, ne_eq, List.dropWhile_eq_nil_iff]
    intro hall
    exact hl (List.isEmpty_iff.mp (hall l (List.mem_reverse.mpr List.mem_cons_self)))
  unfold dropLastEmpty
  rw [List.reverse_append, List.dropWhile_append, hne]
  simp

end ResolverGen.Formatter
