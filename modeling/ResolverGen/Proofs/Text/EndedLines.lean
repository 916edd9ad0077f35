import Mathlib.Data.List.TakeWhile
import ResolverGen.Text.Lines

/-!
# Texts made of lines

A text written line by line is taken apart into the same lines, followed by the empty one after the
last newline. Trimming leaves a text alone whose outer characters are not blank.
-/
namespace ResolverGen.Text

/-! ## Lines -/

theorem splitAt_of_not_mem {sep : Char} {s : List Char} (h : sep ∉ s) : splitAt sep s = [s] := by
  induction s with
  | nil => rfl
  | cons c rest ih =>
    have hc : c ≠ sep := fun he => h (he ▸ List.mem_cons_self)
    rw [splitAt, if_neg hc, ih fun hm => h (List.mem_cons_of_mem c hm)]

theorem splitAt_append (sep : Char) (s t : List Char) :
    splitAt sep (s ++ sep :: t) = splitAt sep s ++ splitAt sep t := by
  induction s with
  | nil =>
    change splitAt sep (sep :: t) = [] :: splitAt sep t
    rw [splitAt, if_pos rfl]
  | cons c rest ih =>
    rw [List.cons_append, splitAt, splitAt, ih]
    by_cases hc : c = sep
    · rw [if_pos hc, if_pos hc]
      rfl
    · rw [if_neg hc, if_neg hc]
      cases hr : splitAt sep rest with
      | nil => exact absurd hr (splitAt_ne_nil sep rest)
      | cons part parts => rfl

/-- Where two texts meet, the last part of the one and the first of the other become one. -/
theorem splitAt_append_parts {sep : Char} {s t a b : List Char} {before after : List (List Char)}
    (hs : splitAt sep s = before ++ [a]) (ht : splitAt sep t = b :: after) :
    splitAt sep (s ++ t) = before ++ (a ++ b) :: after := by
  induction s generalizing before a with
  | nil =>
    obtain ⟨rfl, ha⟩ | ⟨-, ha⟩ := List.append_eq_singleton_iff.mp hs.symm
    · obtain rfl : a = [] := by simpa using ha
      simpa using ht
    · cases ha
  | cons c rest ih =>
    rw [splitAt] at hs
    rw [List.cons_append, splitAt]
    split at hs
    · rename_i hc
      rw [if_pos hc]
      cases before with
      | nil => exact absurd (List.cons.inj hs).2 (splitAt_ne_nil sep rest)
      | cons part before =>
        obtain ⟨rfl, hrest⟩ := List.cons.inj hs
        rw [ih hrest, List.cons_append]
    · rename_i hc
      rw [if_neg hc]
      cases hr : splitAt sep rest with
      | nil => exact absurd hr (splitAt_ne_nil sep rest)
      | cons part parts =>
        rw [hr] at hs
        dsimp only at hs
        -- the part that `c` opens is the last one or stands before it
        cases before with
        | nil =>
          obtain ⟨rfl, rfl⟩ := List.cons.inj hs
          have hrest : splitAt sep rest = [] ++ [part] := hr
          rw [ih hrest]
          rfl
        | cons first before =>
          obtain ⟨rfl, rfl⟩ := List.cons.inj hs
          have hrest : splitAt sep rest = (part :: before) ++ [a] := hr
          rw [ih hrest]
          rfl

/-- What holds no separator only makes one of the parts longer that it is put into. -/
theorem exists_splitAt_insert {sep : Char} {mark : List Char} (hmark : sep ∉ mark)
    (s t : List Char) :
    ∃ before a b after, splitAt sep (s ++ t) = before ++ (a ++ b) :: after ∧
      splitAt sep (s ++ (mark ++ t)) = before ++ (a ++ (mark ++ b)) :: after := by
  obtain ⟨before, a, hs⟩ : ∃ before a, splitAt sep s = before ++ [a] :=
    ⟨_, _, (List.dropLast_concat_getLast (splitAt_ne_nil sep s)).symm⟩
  obtain ⟨b, after, ht⟩ := List.exists_cons_of_ne_nil (splitAt_ne_nil sep t)
  have hpart : splitAt sep mark = [] ++ [mark] := splitAt_of_not_mem hmark
  have hinserted : splitAt sep (mark ++ t) = (mark ++ b) :: after := splitAt_append_parts hpart ht
  exact ⟨before, a, b, after, splitAt_append_parts hs ht, splitAt_append_parts hs hinserted⟩

/-- Parts that do not hold the separator are found again. -/
theorem splitAt_joinWith {sep : Char} {parts : List (List Char)} (hne : parts ≠ [])
    (h : ∀ part ∈ parts, sep ∉ part) : splitAt sep (joinWith [sep] parts) = parts := by
  induction parts with
  | nil => exact absurd rfl hne
  | cons part rest ih =>
    obtain ⟨hpart, hrest⟩ := List.forall_mem_cons.mp h
    cases rest with
    | nil => exact splitAt_of_not_mem hpart
    | cons next others =>
      have hothers := List.cons_ne_nil next others
      rw [joinWith_cons _ _ hothers, List.append_assoc, List.singleton_append, splitAt_append,
        splitAt_of_not_mem hpart, ih hothers hrest, List.singleton_append]

/-- A text before a newline and one behind it are taken apart by themselves. -/
theorem lines_append (s t : List Char) : lines (s ++ '\n' :: t) = lines s ++ lines t :=
  splitAt_append '\n' s t

/-- Lines written one after another, a newline behind each. -/
def ended (ls : List (List Char)) : List Char := ls.flatMap (· ++ ['\n'])

@[simp] theorem ended_nil : ended [] = [] := rfl

@[simp] theorem ended_cons (l : List Char) (ls : List (List Char)) :
    ended (l :: ls) = l ++ '\n' :: ended ls := by
  unfold ended
  rw [List.flatMap_cons, List.append_assoc]
  rfl

@[simp] theorem ended_append (ls ms : List (List Char)) :
    ended (ls ++ ms) = ended ls ++ ended ms := by
  unfold ended
  exact List.flatMap_append

/-- A text that was written line by line is taken apart into these lines. -/
theorem lines_ended_append {ls : List (List Char)} (h : ∀ l ∈ ls, '\n' ∉ l) (s : List Char) :
    lines (ended ls ++ s) = ls ++ lines s := by
  induction ls with
  | nil => rfl
  | cons l rest ih =>
    have hl : lines l = [l] := splitAt_of_not_mem (h l List.mem_cons_self)
    have hrest := ih fun m hm => h m (List.mem_cons_of_mem l hm)
    rw [ended_cons, List.append_assoc, List.cons_append]
    unfold lines at hl hrest ⊢
    rw [splitAt_append, hl, hrest, List.singleton_append, List.cons_append]

theorem lines_ended {ls : List (List Char)} (h : ∀ l ∈ ls, '\n' ∉ l) :
    lines (ended ls) = ls ++ [[]] := by
  have hlines := lines_ended_append h []
  rw [List.append_nil] at hlines
  exact hlines

theorem unlines_append_newline {ls : List (List Char)} (h : ls ≠ []) :
    unlines ls ++ ['\n'] = ended ls := by
  induction ls with
  | nil => exact absurd rfl h
  | cons l rest ih =>
    cases rest with
    | nil => simp [unlines, joinWith]
    | cons m ms =>
      have hrest := ih (List.cons_ne_nil m ms)
      unfold unlines at hrest ⊢
      rw [joinWith_cons _ _ (List.cons_ne_nil m ms), List.append_assoc, hrest, ended_cons l]
      simp

theorem ended_lines (s : List Char) : ended (lines s) = s ++ ['\n'] := by
  have hne : lines s ≠ [] := splitAt_ne_nil '\n' s
  rw [← unlines_append_newline hne, unlines_lines]

theorem unlines_append_singleton (ls : List (List Char)) (l : List Char) :
    unlines (ls ++ [l]) = ended ls ++ l := by
  have h := unlines_append_newline (List.append_ne_nil_of_right_ne_nil ls (List.cons_ne_nil l []))
  rw [ended_append, ended_cons, ended_nil, ← List.append_assoc] at h
  exact List.append_cancel_right h

theorem lines_unlines {ls : List (List Char)} (hne : ls ≠ []) (h : ∀ l ∈ ls, '\n' ∉ l) :
    lines (unlines ls) = ls :=
  splitAt_joinWith hne h

/-- No line of a text holds a newline. -/
theorem not_mem_of_mem_lines {s l : List Char} (h : l ∈ lines s) : '\n' ∉ l :=
  not_mem_of_mem_splitAt h

/-! ## Trimming -/

theorem trimRight_of_getLast {p : Char → Bool} {s : List Char}
    (h : ∀ c, s.getLast? = some c → p c = false) : trimRight p s = s := by
  unfold trimRight
  cases hr : s.reverse with
  | nil => rw [List.dropWhile_nil, ← hr, List.reverse_reverse]
  | cons c rest =>
    have hs : s = rest.reverse ++ [c] := by rw [← List.reverse_reverse s, hr, List.reverse_cons]
    have hc : p c = false := h c (by rw [hs, List.getLast?_concat])
    rw [List.dropWhile_cons_of_neg (by simp [hc]), ← hr, List.reverse_reverse]

theorem trimLeft_of_head {p : Char → Bool} {s : List Char}
    (h : ∀ c, s.head? = some c → p c = false) : trimLeft p s = s := by
  unfold trimLeft
  cases s with
  | nil => rfl
  | cons c rest => rw [List.dropWhile_cons_of_neg (by simp [h c rfl])]

/-- What is trimmed ends in a character outside the class. -/
theorem getLast_trimRight {p : Char → Bool} {s : List Char} {c : Char}
    (h : (trimRight p s).getLast? = some c) : p c = false := by
  unfold trimRight at h
  rw [List.getLast?_reverse] at h
  cases hd : s.reverse.dropWhile p with
  | nil => rw [hd] at h; cases h
  | cons d rest =>
    rw [hd] at h
    obtain rfl : d = c := by simpa using h
    have hne : s.reverse.dropWhile p ≠ [] := by rw [hd]; exact List.cons_ne_nil d rest
    have hhead := List.head_dropWhile_not p hne
    simpa [hd] using hhead

theorem stripRight_stripRight (s : List Char) : stripRight (stripRight s) = stripRight s :=
  trimRight_of_getLast fun _ hc => getLast_trimRight hc

theorem mem_of_mem_stripRight {s : List Char} {c : Char} (h : c ∈ stripRight s) : c ∈ s := by
  unfold stripRight trimRight at h
  exact List.mem_reverse.mp (List.dropWhile_subset _ (List.mem_reverse.mp h))

theorem stripRight_eq_nil_iff {s : List Char} : stripRight s = [] ↔ ∀ c ∈ s, isBlank c = true := by
  unfold stripRight trimRight
  rw [List.reverse_eq_nil_iff, List.dropWhile_eq_nil_iff]
  constructor
  · intro h c hc
    exact h c (List.mem_reverse.mpr hc)
  · intro h c hc
    exact h c (List.mem_reverse.mp hc)

/-- A text is blank if trimming leaves nothing of it, be it at one end or at both. -/
theorem strip_eq_nil_iff {s : List Char} : strip s = [] ↔ stripRight s = [] := by
  rw [stripRight_eq_nil_iff]
  change stripRight (trimLeft isBlank s) = [] ↔ _
  rw [stripRight_eq_nil_iff]
  unfold trimLeft
  constructor
  · intro h
    apply List.dropWhile_eq_nil_iff.mp
    cases hd : s.dropWhile isBlank with
    | nil => rfl
    | cons c rest =>
      have hblank : isBlank c = true := h c (by rw [hd]; exact List.mem_cons_self)
      have hne : s.dropWhile isBlank ≠ [] := by rw [hd]; exact List.cons_ne_nil c rest
      have hhead := List.head_dropWhile_not isBlank hne
      simp [hd, hblank] at hhead
  · intro h c hc
    exact h c (List.dropWhile_subset _ hc)

theorem stripRight_cons_of_ne_nil (c : Char) {s : List Char} (h : stripRight s ≠ []) :
    stripRight (c :: s) = c :: stripRight s := by
  unfold stripRight trimRight at h ⊢
  rw [List.reverse_cons, List.dropWhile_append]
  rw [ne_eq, List.reverse_eq_nil_iff] at h
  rw [if_neg (by simpa using h), List.reverse_append]
  rfl

/-- A text that no trimming changes. -/
def IsBare (s : List Char) : Prop :=
  (∀ c, s.head? = some c → isBlank c = false) ∧ ∀ c, s.getLast? = some c → isBlank c = false

theorem IsBare.strip {s : List Char} (h : IsBare s) : Text.strip s = s := by
  unfold Text.strip trim
  rw [trimLeft_of_head h.1, trimRight_of_getLast h.2]

theorem IsBare.stripRight {s : List Char} (h : IsBare s) : Text.stripRight s = s :=
  trimRight_of_getLast h.2

theorem strip_append_newline {s : List Char} (h : IsBare s) (hne : s ≠ []) :
    Text.strip (s ++ ['\n']) = s := by
  have hleft : trimLeft isBlank (s ++ ['\n']) = s ++ ['\n'] := by
    apply trimLeft_of_head
    intro c hc
    cases s with
    | nil => exact absurd rfl hne
    | cons d rest => exact h.1 c hc
  have hnewline : ∀ c ∈ ['\n'], isBlank c = true := by
    intro c hc
    rw [List.mem_singleton.mp hc]
    rfl
  unfold Text.strip trim
  rw [hleft, trimRight_append_of_all isBlank s hnewline]
  exact h.stripRight

theorem strip_newline_cons (s : List Char) : Text.strip ('\n' :: s) = Text.strip s := rfl

/-! ## First and last lines -/

/-- A text without newlines in front of another goes to the first line. -/
theorem exists_lines_append {p : List Char} (hp : '\n' ∉ p) (s : List Char) :
    ∃ l rest, lines s = l :: rest ∧ lines (p ++ s) = (p ++ l) :: rest := by
  obtain ⟨l, rest, hs⟩ := List.exists_cons_of_ne_nil (splitAt_ne_nil '\n' s)
  have hline : splitAt '\n' p = [] ++ [p] := splitAt_of_not_mem hp
  exact ⟨l, rest, hs, splitAt_append_parts hline hs⟩

/-- A text that ends in something that is not blank ends in a line that is not blank. -/
theorem exists_lines_of_getLast {s : List Char} {c : Char} (hs : s.getLast? = some c)
    (hc : isBlank c = false) : ∃ ms l, lines s = ms ++ [l] ∧ l.getLast? = some c := by
  have hne : lines s ≠ [] := splitAt_ne_nil '\n' s
  refine ⟨(lines s).dropLast, (lines s).getLast hne, (List.dropLast_concat_getLast hne).symm, ?_⟩
  have hjoined := unlines_append_singleton (lines s).dropLast ((lines s).getLast hne)
  rw [List.dropLast_concat_getLast hne, unlines_lines] at hjoined
  rw [hjoined, List.getLast?_append] at hs
  cases hl : ((lines s).getLast hne).getLast? with
  | some d =>
    rw [hl] at hs
    exact hs
  | none =>
    -- the last line is not empty, for a newline is blank
    rw [hl, Option.none_or] at hs
    exfalso
    cases hms : (lines s).dropLast.reverse with
    | nil =>
      rw [List.reverse_eq_nil_iff.mp hms] at hs
      cases hs
    | cons m ms =>
      rw [List.reverse_eq_cons_iff.mp hms, ended_append, ended_cons, ended_nil] at hs
      simp at hs
      rw [← hs] at hc
      exact absurd hc (by decide)

end ResolverGen.Text
