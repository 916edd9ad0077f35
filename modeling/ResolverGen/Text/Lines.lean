import ResolverGen.Text.Blank

/-!
# Lines

A text as the lines between its newlines, and the reading of the three line endings as newlines.
-/
namespace ResolverGen.Text

/-- The parts of a text between the places of `sep`; there is always at least one. -/
def splitAt (sep : Char) : List Char → List (List Char)
  | [] => [[]]
  | c :: rest =>
    if c = sep then [] :: splitAt sep rest
    else match splitAt sep rest with
      | [] => [[c]]
      | part :: parts => (c :: part) :: parts

/-- The lines of a text. -/
def lines (s : List Char) : List (List Char) := splitAt '\n' s

/-- Parts put together with a separator between them. -/
def joinWith (sep : List Char) : List (List Char) → List Char
  | [] => []
  | [part] => part
  | part :: parts => part ++ sep ++ joinWith sep parts

/-- Lines put together with newlines between them. -/
def unlines (ls : List (List Char)) : List Char := joinWith ['\n'] ls

/-- Carriage returns, alone or before a newline, read as newlines. -/
def newlines : List Char → List Char
  | [] => []
  | '\r' :: '\n' :: rest => '\n' :: newlines rest
  | c :: rest => (if c = '\r' then '\n' else c) :: newlines rest

theorem splitAt_ne_nil (sep : Char) (s : List Char) : splitAt sep s ≠ [] := by
  cases s with
  | nil => simp [splitAt]
  | cons c rest =>
    simp only [splitAt]
    split
    · simp
    · split <;> simp

theorem joinWith_cons (sep part : List Char) {parts : List (List Char)} (h : parts ≠ []) :
    joinWith sep (part :: parts) = part ++ sep ++ joinWith sep parts := by
  cases parts with
  | nil => exact absurd rfl h
  | cons p ps => rfl

/-- Splitting loses nothing: the parts and the separators between them are the text. -/
theorem joinWith_splitAt (sep : Char) (s : List Char) :
    joinWith [sep] (splitAt sep s) = s := by
  induction s with
  | nil => rfl
  | cons c rest ih =>
    simp only [splitAt]
    split
    next h => rw [joinWith_cons _ _ (splitAt_ne_nil sep rest), ih]; simp [h]
    next h =>
      split
      next h' => exact absurd h' (splitAt_ne_nil sep rest)
      next part parts h' =>
        rw [h'] at ih
        cases parts with
        | nil => simpa [joinWith] using ih
        | cons p ps => simpa [joinWith] using ih

/-- No part holds the separator. -/
theorem not_mem_of_mem_splitAt {sep : Char} {s part : List Char} (h : part ∈ splitAt sep s) :
    sep ∉ part := by
  induction s generalizing part with
  | nil => simp_all [splitAt]
  | cons c rest ih =>
    simp only [splitAt] at h
    split at h
    next =>
      rcases List.mem_cons.1 h with rfl | h
      · simp
      · exact ih h
    next hc =>
      split at h
      next h' => exact absurd h' (splitAt_ne_nil sep rest)
      next p ps h' =>
        rcases List.mem_cons.1 h with rfl | h
        · have := ih (show p ∈ splitAt sep rest by simp [h'])
          simp [this, Ne.symm hc]
        · exact ih (by simp [h', h])

@[simp] theorem unlines_lines (s : List Char) : unlines (lines s) = s :=
  joinWith_splitAt '\n' s

end ResolverGen.Text
