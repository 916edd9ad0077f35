import ResolverGen.Go.Filters
import ResolverGen.Proofs.Steady

/-!
# What a Go sanitizer remembers

A sanitizer for Go remembers the identifiers that it has given. It is faithful while each of them is
the one that it would give anew; then what it remembers cannot be told from its answers. A sanitizer
that has answered nothing is faithful, and giving an identifier keeps it so.
-/
namespace ResolverGen.Go

/-- The Go identifier of a name, apart from what was asked before. -/
def identifierOf (name : String) : String :=
  sanitizer.safeName name .original Sanitizer.defaultSuffix

/-- The key under which the identifier of a name is remembered. -/
def identifierKey (name : String) : String :=
  Sanitizer.answerKey name .original Sanitizer.defaultSuffix

/-- The words are those of Go, and identifiers are remembered as they would be given. -/
structure Faithful (s : Sanitizer) : Prop where
  reserved : s.reserved = reservedWords
  builtins : s.builtins = builtinNames
  remembers : ∀ name answer, s.answers.lookup (identifierKey name) = some answer →
    answer = identifierOf name

theorem faithful_sanitizer : Faithful sanitizer where
  reserved := rfl
  builtins := rfl
  remembers := by
    intro name answer h
    cases h

theorem identifierKey_injective {m n : String} (h : identifierKey m = identifierKey n) : m = n := by
  unfold identifierKey Sanitizer.answerKey at h
  simpa [String.append_assoc] using h

theorem Faithful.safeName {s : Sanitizer} (hs : Faithful s) (name : String) :
    s.safeName name .original Sanitizer.defaultSuffix = identifierOf name := by
  unfold identifierOf Sanitizer.safeName Sanitizer.resolve Sanitizer.isReserved
  rw [hs.reserved, hs.builtins]
  rfl

/-- An identifier added to what is remembered. -/
theorem Faithful.remember {s : Sanitizer} (hs : Faithful s) (name : String) :
    Faithful { s with answers := s.answers ++ [(identifierKey name, identifierOf name)] } where
  reserved := hs.reserved
  builtins := hs.builtins
  remembers := by
    intro other answer h
    rw [List.lookup_append] at h
    cases hl : s.answers.lookup (identifierKey other) with
    | some a =>
      rw [hl] at h
      cases h
      exact hs.remembers other answer hl
    | none =>
      rw [hl] at h
      by_cases hk : identifierKey other = identifierKey name
      · obtain rfl := identifierKey_injective hk
        simpa [eq_comm] using h
      · have hb : (identifierKey other == identifierKey name) = false := by simpa using hk
        simp [hb] at h

/-- A faithful sanitizer gives a name its identifier and stays faithful. -/
theorem identifier_run {s : Sanitizer} (hs : Faithful s) (name : String) :
    ∃ s', Faithful s' ∧ (identifier name).run s = (identifierOf name, s') := by
  change ∃ s', Faithful s' ∧ Sanitizer.sanitize name .original Sanitizer.defaultSuffix s = _
  unfold Sanitizer.sanitize
  cases hl : s.answers.lookup (identifierKey name) with
  | some answer =>
    refine ⟨s, hs, ?_⟩
    rw [show s.answers.lookup (Sanitizer.answerKey name .original _) = some answer from hl,
      hs.remembers name answer hl]
  | none =>
    refine ⟨_, hs.remember name, ?_⟩
    rw [show s.answers.lookup (Sanitizer.answerKey name .original _) = none from hl,
      hs.safeName name]
    rfl

/-- Within a rendering, too, a name comes to its identifier. -/
theorem settles_identifier (name : String) :
    Settles Faithful (liftM (identifier name) : Template.Eval String)
      (.ok (identifierOf name)) := by
  intro s hs
  obtain ⟨s', hs', hrun⟩ := identifier_run hs name
  refine ⟨s', hs', ?_⟩
  change (match (identifier name).run s with
    | (a, s') => ((.ok a : Except Template.Fault String), s')) = _
  rw [hrun]

end ResolverGen.Go
