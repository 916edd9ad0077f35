import ResolverGen.Registry

/-!
# Built-in generators

Every name that the built-in registry knows stands for Go, and what it makes for one is a Go
generator under the settings that were asked for, with a formatter that these name.
-/
namespace ResolverGen.Registry

theorem builtin_eq :
    builtin = { generators := [("go", Go.generatorClass)], aliases := [("golang", "go")] } := rfl

theorem supports_builtin_iff {name : String} :
    builtin.supports name = true ↔ key name = "go" ∨ key name = "golang" := by
  simp only [supports, builtin_eq, Table.has, List.any_cons, List.any_nil, Bool.or_false,
    Bool.or_eq_true, decide_eq_true_eq]
  exact or_congr eq_comm eq_comm

/-- A name is known exactly if it stands for Go. -/
theorem resolve_builtin_iff {name language : String} :
    builtin.resolve name = .ok language ↔ builtin.supports name = true ∧ language = "go" := by
  rw [supports_builtin_iff]
  unfold resolve
  rw [builtin_eq]
  by_cases hgo : key name = "go"
  · simp [Table.has, hgo, @eq_comm _ "go"]
  · by_cases hgolang : key name = "golang"
    · simp [Table.has, Table.get?, hgolang, @eq_comm _ "go"]
    · simp [Table.has, Table.get?, hgo, hgolang, Ne.symm hgo, Ne.symm hgolang]

theorem get?_builtin : builtin.generators.get? "go" = some Go.generatorClass := rfl

/-- What Go settings come to as one generator among others. -/
theorem make_generatorClass (settings : Settings) :
    Go.generatorClass.make settings = (Formatter.ofName settings.formatter).map fun formatter =>
      (Go.Generator.make settings formatter).toGenerator "GoGenerator"
        (Go.ScalarTable.warnings (Go.customScalars settings)) := by
  change (Go.Generator.ofSettings settings >>= fun made =>
    pure (made.1.toGenerator "GoGenerator" made.2)) = _
  unfold Go.Generator.ofSettings
  cases Formatter.ofName settings.formatter <;> rfl

/-- What is made for a name that is known: a Go generator, unless the settings or the formatter that
they name are refused. -/
theorem create_builtin_eq {files : Files} {name : String} {source : ConfigSource}
    (h : builtin.supports name = true) :
    builtin.create files name source =
      match settingsFrom files name "go" source with
      | (.error refusal, log) => (.error refusal, log)
      | (.ok settings, log) =>
        let log' := log ++ Go.ScalarTable.warnings (Go.customScalars settings)
        match Formatter.ofName settings.formatter with
        | .error fault => (.error (.formatter fault), log)
        | .ok formatter =>
          (.ok ((Go.Generator.make settings formatter).toGenerator "GoGenerator" log'), log') := by
  unfold create
  rw [resolve_builtin_iff.mpr ⟨h, rfl⟩]
  dsimp only
  rw [get?_builtin]
  dsimp only
  rcases settingsFrom files name "go" source with ⟨refusal | settings, log⟩
  · rfl
  · dsimp only
    rw [make_generatorClass]
    cases Formatter.ofName settings.formatter <;> rfl

theorem supports_of_create {files : Files} {name : String} {source : ConfigSource} {g : Generator}
    {log : Log} (h : builtin.create files name source = (.ok g, log)) :
    builtin.supports name = true := by
  unfold create at h
  cases hlanguage : builtin.resolve name with
  | error fault =>
    rw [hlanguage] at h
    cases h
  | ok language => exact (resolve_builtin_iff.mp hlanguage).1

/-- A generator that was made is one for Go, with a formatter that its settings name. -/
theorem create_builtin {files : Files} {name : String} {source : ConfigSource} {g : Generator}
    {log : Log} (h : builtin.create files name source = (.ok g, log)) :
    ∃ formatter, Formatter.ofName g.settings.formatter = .ok formatter ∧
      g = (Go.Generator.make g.settings formatter).toGenerator "GoGenerator" log := by
  rw [create_builtin_eq (supports_of_create h)] at h
  generalize settingsFrom files name "go" source = given at h
  rcases given with ⟨refusal | settings, settingsLog⟩
  · cases h
  · dsimp only at h
    cases hformatter : Formatter.ofName settings.formatter with
    | error fault =>
      rw [hformatter] at h
      cases h
    | ok formatter =>
      rw [hformatter] at h
      cases h
      exact ⟨formatter, hformatter, rfl⟩

end ResolverGen.Registry
