import ResolverGen.Files.Tree

/-!
# Questions about files

What a question about a path and the reading of a text come to, by what stands at the path.
-/
namespace ResolverGen.Files

variable {files : Files} {p : Path} {fault : FileFault}

/-- No system can be asked about names of which one holds a null character. -/
theorem checkCharacters_eq_error_iff {names : List String} {cause : FileCause} :
    checkCharacters names = .error cause ↔
      (∃ name ∈ names, '\x00' ∈ name.toList) ∧ cause = .nullCharacter := by
  unfold checkCharacters
  by_cases hnull : ∃ name ∈ names, '\x00' ∈ name.toList
  · rw [if_pos (by simpa using hnull)]
    simp [hnull, @eq_comm _ cause]
  · rw [if_neg (by simpa using hnull)]
    simp [hnull]

theorem checkName_eq_ok_iff {name : String} :
    checkName name = .ok () ↔ name.utf8ByteSize ≤ nameLimit := by
  unfold checkName
  by_cases h : nameLimit < name.utf8ByteSize
  · simp [h]
  · simp [h, Nat.le_of_not_lt h]

theorem checkCharacters_eq_ok_iff {names : List String} :
    checkCharacters names = .ok () ↔ ∀ name ∈ names, '\x00' ∉ name.toList := by
  unfold checkCharacters
  simp

/-- What stands at the end of the way is found. -/
theorem find_eq_ok_iff {node : Node} :
    files.find p = .ok node ↔
      checkCharacters p.parts = .ok () ∧
        ∃ place, files.walk (start p) p.parts = .ok place ∧ files.node? place = some node := by
  unfold find
  cases checkCharacters p.parts with
  | error cause => simp [bind, Except.bind]
  | ok u =>
    cases files.walk (start p) p.parts with
    | error cause => simp [bind, Except.bind]
    | ok place =>
      cases hnode : files.node? place <;>
        simp [bind, Except.bind, throw, throwThe, MonadExceptOf.throw, pure, Except.pure, hnode]

/-- A question about a path has no answer only if a name on the way is too long. -/
theorem ask_eq_error_iff {question : Node → Bool} :
    files.ask p question = .error fault ↔
      files.find p = .error .nameTooLong ∧ fault = ⟨.nameTooLong, p.text⟩ := by
  unfold ask
  cases files.find p with
  | ok node => simp
  | error c => cases c <;> simp [@eq_comm _ _ fault]

theorem isDirectory_eq_error_iff :
    files.isDirectory p = .error fault ↔
      files.find p = .error .nameTooLong ∧ fault = ⟨.nameTooLong, p.text⟩ := ask_eq_error_iff

theorem pathExists_eq_error_iff :
    files.pathExists p = .error fault ↔
      files.find p = .error .nameTooLong ∧ fault = ⟨.nameTooLong, p.text⟩ := ask_eq_error_iff

theorem pathExists_of_find {node : Node} (h : files.find p = .ok node) :
    files.pathExists p = .ok true := by
  unfold pathExists ask
  rw [h]

/-- The bytes at a path, if they are those of a file. -/
theorem read_eq_ok_iff {content : Text.Bytes} :
    files.read p = .ok content ↔ files.find p = .ok (.file content) := by
  unfold read
  rcases files.find p with cause | (content' | _) <;> simp

theorem file?_eq_some_iff {content : Text.Bytes} :
    files.file? p = some content ↔ files.find p = .ok (.file content) := by
  rw [← read_eq_ok_iff, file?]
  cases files.read p <;> simp

theorem readText_eq_undecodable_iff {cause : Text.Undecodable} :
    files.readText p = .error (.undecodable cause) ↔
      ∃ content, files.find p = .ok (.file content) ∧ Text.ofFile content = .error cause := by
  simp only [← read_eq_ok_iff]
  unfold readText
  cases files.read p with
  | error fault => simp [throw, throwThe, MonadExceptOf.throw]
  | ok content =>
    dsimp only
    cases htext : Text.ofFile content <;>
      simp [throw, throwThe, MonadExceptOf.throw, pure, Except.pure, htext]

theorem readText_eq_ok_iff {text : String} :
    files.readText p = .ok text ↔
      ∃ content, files.find p = .ok (.file content) ∧ Text.ofFile content = .ok text := by
  simp only [← read_eq_ok_iff]
  unfold readText
  cases files.read p with
  | error fault => simp [throw, throwThe, MonadExceptOf.throw]
  | ok content =>
    dsimp only
    cases htext : Text.ofFile content <;>
      simp [throw, throwThe, MonadExceptOf.throw, pure, Except.pure, htext]

end ResolverGen.Files
