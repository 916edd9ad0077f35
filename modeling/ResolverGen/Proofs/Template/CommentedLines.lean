import ResolverGen.Proofs.TidiedLines
import ResolverGen.Template.Filter

/-!
# Lines behind a comment marker

A text is made a comment line by line: each line opens with the marker, and nothing blank ends it.
The lines can be read off the comment again, but for the blanks at their ends.
-/
namespace ResolverGen.Template

open Text Formatter

/-- What a line of a comment holds: the line without the marker and one blank behind that. -/
def uncommented (marker line : List Char) : List Char :=
  match line.drop marker.length with
  | ' ' :: rest => rest
  | rest => rest

variable {marker line s : List Char}

/-! ## One line -/

/-- A line of which nothing is left is a marker by itself. -/
theorem stripRight_marker_of_blank (hmarker : stripRight marker = marker)
    (hline : stripRight line = []) : stripRight (marker ++ ' ' :: line) = marker := by
  have hblank : ∀ c ∈ ' ' :: line, isBlank c = true := by
    intro c hc
    rcases List.mem_cons.mp hc with rfl | hc
    · decide
    · exact stripRight_eq_nil_iff.mp hline c hc
  rw [stripRight_append_of_blank hblank, hmarker]

/-- Any other line stands behind a marker and a blank. -/
theorem stripRight_marker_of_kept (hline : IsKept line) :
    stripRight (marker ++ ' ' :: line) = marker ++ ' ' :: stripRight line := by
  have hrest : stripRight (' ' :: line) = ' ' :: stripRight line :=
    stripRight_cons_of_ne_nil ' ' hline
  rw [stripRight_append marker (by simp [IsKept, hrest]), hrest]

theorem prefix_stripRight_marker (hmarker : stripRight marker = marker) (line : List Char) :
    marker <+: stripRight (marker ++ ' ' :: line) := by
  by_cases hline : stripRight line = []
  · simp [stripRight_marker_of_blank hmarker hline]
  · rw [stripRight_marker_of_kept hline]
    exact List.prefix_append marker _

theorem uncommented_stripRight_marker (hmarker : stripRight marker = marker) (line : List Char) :
    uncommented marker (stripRight (marker ++ ' ' :: line)) = stripRight line := by
  by_cases hline : stripRight line = []
  · rw [stripRight_marker_of_blank hmarker hline, hline]
    simp [uncommented]
  · rw [stripRight_marker_of_kept hline]
    simp [uncommented]

/-! ## All lines -/

/-- The lines of a comment are those of the text, each behind the marker. -/
theorem lines_commentChars (hnewline : '\n' ∉ marker) (s : List Char) :
    lines (commentChars marker s) =
      (lines (strip s)).map fun line => stripRight (marker ++ ' ' :: line) := by
  have hne : lines (strip s) ≠ [] := splitAt_ne_nil '\n' (strip s)
  unfold commentChars
  refine lines_unlines (by simpa using hne) ?_
  intro l hl hmem
  obtain ⟨line, hline, rfl⟩ := List.mem_map.mp hl
  have hnot : '\n' ∉ line := not_mem_of_mem_lines hline
  simpa [hnewline, hnot] using mem_of_mem_stripRight hmem

/-- A text is made a comment whose lines open with the marker and end in nothing blank. They are as
many as those of the text without the blanks around it, and hold these but for blanks at line ends. -/
theorem commentFilter_lines {marker : String} (hnewline : '\n' ∉ marker.toList)
    (hmarker : stripRight marker.toList = marker.toList) (text : String) :
    ∃ comment : String,
      commentFilter.apply (.str text) [.str marker] [] = pure (.str comment) ∧
        (lines comment.toList).length = (lines (strip text.toList)).length ∧
        (∀ line ∈ lines comment.toList,
          marker.toList <+: line ∧ ∀ c, line.getLast? = some c → isBlank c = false) ∧
        (lines comment.toList).map (uncommented marker.toList) =
          (lines (strip text.toList)).map stripRight := by
  refine ⟨onChars (commentChars marker.toList) text, rfl, ?_⟩
  rw [toList_onChars, lines_commentChars hnewline]
  refine ⟨List.length_map _, ?_, ?_⟩
  · intro l hl
    obtain ⟨line, -, rfl⟩ := List.mem_map.mp hl
    exact ⟨prefix_stripRight_marker hmarker line, fun c hc => getLast_trimRight hc⟩
  · rw [List.map_map]
    exact List.map_congr_left fun line _ => uncommented_stripRight_marker hmarker line

/-- A text with a blank line, a line moved in and blanks at line ends. -/
theorem commentFilter_lines_hash :
    '\n' ∉ "#".toList ∧ stripRight "#".toList = "#".toList ∧
      ∃ comment : String,
        commentFilter.apply (.str " first \n\t\n  second\n") [.str "#"] [] = pure (.str comment) ∧
          (lines comment.toList).length = 3 ∧
          (lines comment.toList).map (uncommented ['#']) =
            ["first".toList, [], "  second".toList] := by
  have hnewline : '\n' ∉ "#".toList := by decide
  have hmarker : stripRight "#".toList = "#".toList := by decide
  obtain ⟨comment, happly, hlength, -, hlines⟩ :=
    commentFilter_lines hnewline hmarker " first \n\t\n  second\n"
  refine ⟨hnewline, hmarker, comment, happly, ?_, ?_⟩
  · rw [hlength]
    decide
  · rw [show ['#'] = "#".toList by decide, hlines]
    decide

end ResolverGen.Template
