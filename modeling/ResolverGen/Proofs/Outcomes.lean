import ResolverGen.Proofs.BuiltinGenerators
import ResolverGen.Proofs.Files.Questions
import ResolverGen.Proofs.Go.Breakdowns

/-!
# Outcomes of runs on a schema text

A run on a schema text is meant to have an outcome in any case: files, or the error that ended it.
The main statement says when it has none. That is so if the text ends inside an escape, if the
generation breaks down, or if it comes to files and the settings cannot be checked after it. Any
outcome that there is tells what the generation came to.
-/
namespace ResolverGen

/-! ## Checks of settings -/

/-- Settings that the checks after a run break down at: a template directory that is no text or has
too long a name, or else a package name that is no text. -/
inductive Settings.ChecksBreak (s : Settings) (files : Files) : Breakdown → Prop
  | directoryKind : s.templateDir.isGiven = true → (∀ path, s.templateDir ≠ .str path) →
    ChecksBreak s files .wrongKind
  | directoryName {path : String} : s.templateDir = .str path → path ≠ "" →
    files.find (.ofText path) = .error .nameTooLong →
    ChecksBreak s files (.file ⟨.nameTooLong, (Path.ofText path).text⟩)
  | packageKind {warnings : List SettingsWarning} :
    s.templateDirectoryWarnings files = .ok warnings →
    s.packageName.isGiven = true → (∀ name, s.packageName ≠ .str name) →
    ChecksBreak s files .noSuchPart

namespace Settings

variable {s : Settings} {files : Files} {cause : Breakdown}

theorem formatterWarnings_of_ofName {formatter : Formatter}
    (h : Formatter.ofName s.formatter = .ok formatter) :
    ∃ warnings, s.formatterWarnings = .ok warnings := by
  unfold Formatter.ofName at h
  unfold formatterWarnings
  cases hname : s.formatter with
  | str name => exact ⟨_, rfl⟩
  | _ => simp [hname] at h

theorem templateDirectoryWarnings_eq_error_iff :
    s.templateDirectoryWarnings files = .error cause ↔
      s.templateDir.isGiven = true ∧ (∀ path, s.templateDir ≠ .str path) ∧ cause = .wrongKind ∨
      ∃ path, s.templateDir = .str path ∧ path ≠ "" ∧
        files.find (.ofText path) = .error .nameTooLong ∧
        cause = .file ⟨.nameTooLong, (Path.ofText path).text⟩ := by
  unfold templateDirectoryWarnings
  cases hdir : s.templateDir with
  | str path =>
    by_cases hpath : path = ""
    · simp [Json.isGiven, hpath]
    · rw [if_pos (by simpa [Json.isGiven] using hpath)]
      dsimp only
      cases hask : files.isDirectory (.ofText path) with
      | ok isThere =>
        have hfind : ¬files.find (.ofText path) = .error .nameTooLong := by
          intro hfind
          rw [Files.isDirectory_eq_error_iff.mpr ⟨hfind, rfl⟩] at hask
          cases hask
        cases isThere <;> simp [hfind]
      | error fault =>
        obtain ⟨hfind, rfl⟩ := Files.isDirectory_eq_error_iff.mp hask
        simp [hfind, hpath, @eq_comm _ _ cause]
  | _ => by_cases hgiven : s.templateDir.isGiven = true <;> simp_all [@eq_comm _ _ cause]

theorem packageWarnings_eq_error_iff :
    s.packageWarnings = .error cause ↔
      s.packageName.isGiven = true ∧ (∀ name, s.packageName ≠ .str name) ∧
        cause = .noSuchPart := by
  unfold packageWarnings
  cases hname : s.packageName with
  | str name => by_cases hgiven : (Json.str name).isGiven = true <;> simp [hgiven]
  | _ => by_cases hgiven : s.packageName.isGiven = true <;> simp_all [@eq_comm _ _ cause]

/-- The checks break down exactly as said, once the formatter is one that there is. -/
theorem warnings_eq_error_iff {formatter : Formatter}
    (h : Formatter.ofName s.formatter = .ok formatter) :
    s.warnings files "go" = .error cause ↔ s.ChecksBreak files cause := by
  obtain ⟨fw, hfw⟩ := formatterWarnings_of_ofName h
  unfold warnings
  rw [hfw]
  change (s.templateDirectoryWarnings files >>= fun templates =>
    s.packageWarnings >>= fun package =>
      pure (fw ++ templates ++ package ++ Go.storageWarnings s)) = _ ↔ _
  simp only [bind_eq_error_iff, templateDirectoryWarnings_eq_error_iff,
    packageWarnings_eq_error_iff, reduceCtorEq, and_false, exists_false, or_false, pure,
    Except.pure]
  constructor
  · rintro ((⟨hgiven, hkind, rfl⟩ | ⟨path, hdir, hpath, hfind, rfl⟩) |
      ⟨ws, hws, hgiven, hkind, rfl⟩)
    · exact .directoryKind hgiven hkind
    · exact .directoryName hdir hpath hfind
    · exact .packageKind hws hgiven hkind
  · rintro (⟨hgiven, hkind⟩ | ⟨hdir, hpath, hfind⟩ | ⟨hws, hgiven, hkind⟩)
    · exact Or.inl (Or.inl ⟨hgiven, hkind, rfl⟩)
    · exact Or.inl (Or.inr ⟨_, hdir, hpath, hfind, rfl⟩)
    · exact Or.inr ⟨_, hws, hgiven, hkind, rfl⟩

end Settings

/-! ## Runs on a schema text -/

deriving instance DecidableEq for RunOutcome

/-- An outcome that tells what work on a schema text came to: its files, or else its error and
nothing besides. -/
inductive RunOutcome.Tells : RunOutcome → Except Failure (Schema × Table String) → Prop
  | success {schema : Schema} {files : Table String} {warnings : List SettingsWarning}
    {facts : RunFacts} : Tells (.success files warnings facts) (.ok (schema, files))
  | failure {error : GenerationError} : Tells (.failure error) (.error (.generation error))

theorem RunOutcome.Tells.exists_schema {files : Table String} {warnings : List SettingsWarning}
    {facts : RunFacts} {work : Except Failure (Schema × Table String)}
    (h : (RunOutcome.success files warnings facts).Tells work) :
    ∃ schema, work = .ok (schema, files) := by
  cases h with
  | success => exact ⟨_, rfl⟩

namespace Go.Generator

/-- What a run on a schema text breaks down at: the text ends inside an escape, or the generation
breaks down, or there are files and then the settings cannot be checked. -/
inductive TextBreaks (g : Generator) (surface : Surface) (text : String) : Breakdown → Prop
  | cutOff :
    GraphQL.schemaOf text = .error (.malformed .escapeCutOff) → TextBreaks g surface text .cutOff
  | generation {schema : Schema} {cause : Breakdown} :
    GraphQL.schemaOf text = .ok schema →
      g.RunBreaks surface.files surface.programs schema cause → TextBreaks g surface text cause
  | checks {schema : Schema} {cause : Breakdown} :
    GraphQL.schemaOf text = .ok schema →
      HaveFiles (g.rendered surface.files surface.programs (initialState []))
        (g.eligible schema.types) →
      g.settings.ChecksBreak surface.files cause → TextBreaks g surface text cause

variable {g : Generator} {surface : Surface} {text : String} {className : String} {log : Log}
  {s : RunState}

theorem parseSchema_eq_ok_iff {schema : Schema} :
    parseSchema text = .ok schema ↔ GraphQL.schemaOf text = .ok schema := by
  unfold parseSchema
  split <;> simp_all

theorem parseSchema_eq_breakdown_iff {cause : Breakdown} :
    parseSchema text = .error (.breakdown cause) ↔
      GraphQL.schemaOf text = .error (.malformed .escapeCutOff) ∧ cause = .cutOff := by
  unfold parseSchema
  split <;> simp_all [@eq_comm _ _ cause]

/-- Work on a schema text is the reading of the text and then the generation. -/
theorem generateText_run : (((g.toGenerator className log).generateText surface text).run s).1 =
    parseSchema text >>= fun schema =>
      ((g.generate surface.files surface.programs schema).run s).1 >>= fun files =>
        pure (schema, files) := by
  unfold ResolverGen.Generator.generateText
  rw [run_bind]
  cases hparse : parseSchema text with
  | error failure => rfl
  | ok schema =>
    change (((g.generate surface.files surface.programs schema) >>= fun files =>
      pure (schema, files) : Run (Schema × Table String)).run s).1 =
        ((g.generate surface.files surface.programs schema).run s).1 >>= _
    rw [run_bind]
    rcases (g.generate surface.files surface.programs schema).run s with ⟨failure | files, s'⟩ <;>
      rfl

/-- What was rendered and recorded before does not count. -/
theorem generateText_congr (hg : ∀ f ∈ g.store.ownFilters, f.IsSteady Faithful)
    {className' : String} {log' : Log} {s' : RunState} (hs : IsFaithful s) (hs' : IsFaithful s') :
    (((g.toGenerator className log).generateText surface text).run s).1 =
      (((g.toGenerator className' log').generateText surface text).run s').1 := by
  have hstart := isFaithful_initialState []
  rw [generateText_run, generateText_run]
  refine congrArg _ (funext fun schema => ?_)
  rw [generate_run hg surface.files surface.programs schema hs hstart,
    generate_run hg surface.files surface.programs schema hs' hstart]

/-- The outcome of a run by what its work comes to. -/
theorem outcome_run (generator : ResolverGen.Generator) :
    ((generator.outcome surface text).run s).1 =
      match ((generator.generateText surface text).run s).1 with
      | .error (.generation error) => .ok (.failure error)
      | .error (.breakdown cause) => .error cause
      | .ok (schema, files) =>
        (generator.settings.warnings surface.files generator.language).map fun warnings =>
          .success files (warnings ++ undefinedTypes generator.settings schema)
            { language := generator.language
              fileExtension := generator.fileExtension
              typeCount := schema.size
              fileCount := files.length
              queryType? := schema.query? } := by
  change (generator.outcome surface text s).1 = match (generator.generateText surface text s).1 with
    | .error (.generation error) => _
    | .error (.breakdown cause) => _
    | .ok (schema, files) => _
  unfold ResolverGen.Generator.outcome
  rcases generator.generateText surface text s with ⟨(error | cause) | ⟨schema, files⟩, s'⟩
  · rfl
  · rfl
  · dsimp only
    cases generator.settings.warnings surface.files generator.language <;> rfl

/-- A run breaks down with its work, or behind it at the checks. -/
theorem outcome_eq_error {generator : ResolverGen.Generator} {cause : Breakdown} :
    ((generator.outcome surface text).run s).1 = .error cause ↔
      ((generator.generateText surface text).run s).1 = .error (.breakdown cause) ∨
      (∃ work, ((generator.generateText surface text).run s).1 = .ok work) ∧
        generator.settings.warnings surface.files generator.language = .error cause := by
  rw [outcome_run]
  rcases ((generator.generateText surface text).run s).1 with (error | cause') | work
  · simp
  · simp
  · cases generator.settings.warnings surface.files generator.language <;> simp [Except.map]

/-- Any outcome of a run tells what its work came to. -/
theorem tells_of_outcome {generator : ResolverGen.Generator} {result : RunOutcome}
    (h : ((generator.outcome surface text).run s).1 = .ok result) :
    result.Tells ((generator.generateText surface text).run s).1 := by
  rw [outcome_run] at h
  rcases hwork : ((generator.generateText surface text).run s).1 with
    (error | cause) | ⟨schema, files⟩
  · simp only [hwork] at h
    obtain rfl := Except.ok.inj h
    exact .failure
  · simp [hwork] at h
  · simp only [hwork] at h
    cases hwarnings : generator.settings.warnings surface.files generator.language with
    | error cause => simp [hwarnings, Except.map] at h
    | ok warnings =>
      rw [hwarnings] at h
      obtain rfl := Except.ok.inj h
      exact .success

theorem exists_generate_iff (hg : ∀ f ∈ g.store.ownFilters, f.IsSteady Faithful)
    {programs : Programs} {files : Files} {schema : Schema} (hs : IsFaithful s) :
    (∃ table, ((g.generate files programs schema).run s).1 = .ok table) ↔
      HaveFiles (g.rendered files programs (initialState [])) (g.eligible schema.types) := by
  rw [generate_run hg files programs schema hs (isFaithful_initialState [])]
  exact ⟨fun ⟨table, h⟩ => (fileWork_ok h).1, HaveFiles.exists_fileWork⟩

/-- Work on a schema text comes to files if the text has a schema whose types have files. -/
theorem exists_generateText_iff (hg : ∀ f ∈ g.store.ownFilters, f.IsSteady Faithful)
    (hs : IsFaithful s) :
    (∃ work, (((g.toGenerator className log).generateText surface text).run s).1 = .ok work) ↔
      ∃ schema, GraphQL.schemaOf text = .ok schema ∧
        HaveFiles (g.rendered surface.files surface.programs (initialState []))
          (g.eligible schema.types) := by
  simp only [generateText_run, ← exists_generate_iff hg hs, ← parseSchema_eq_ok_iff]
  cases parseSchema text with
  | error failure => simp [bind, Except.bind]
  | ok schema =>
    cases hfiles : ((g.generate surface.files surface.programs schema).run s).1 <;>
      simp [bind, Except.bind, pure, Except.pure, hfiles]

/-- A run on a schema text breaks down exactly as said. -/
theorem outcome_eq_error_iff (hg : ∀ f ∈ g.store.ownFilters, f.IsSteady Faithful)
    {formatter : Formatter} (hformatter : Formatter.ofName g.settings.formatter = .ok formatter)
    (hs : IsFaithful s) {cause : Breakdown} :
    (((g.toGenerator className log).outcome surface text).run s).1 = .error cause ↔
      g.TextBreaks surface text cause := by
  have hwarnings : (g.toGenerator className log).settings.warnings surface.files
      (g.toGenerator className log).language = .error cause ↔
        g.settings.ChecksBreak surface.files cause := Settings.warnings_eq_error_iff hformatter
  rw [outcome_eq_error, exists_generateText_iff hg hs, hwarnings, generateText_run,
    bind_eq_error_iff, parseSchema_eq_breakdown_iff]
  simp only [bind_eq_error_iff, generate_eq_breakdown hg hs, parseSchema_eq_ok_iff, reduceCtorEq,
    and_false, exists_false, or_false, pure, Except.pure]
  constructor
  · rintro ((⟨htext, rfl⟩ | ⟨schema, hschema, hbreaks⟩) | ⟨⟨schema, hschema, hfiles⟩, hchecks⟩)
    · exact .cutOff htext
    · exact .generation hschema hbreaks
    · exact .checks hschema hfiles hchecks
  · rintro (htext | ⟨hschema, hbreaks⟩ | ⟨hschema, hfiles, hchecks⟩)
    · exact Or.inl (Or.inl ⟨htext, rfl⟩)
    · exact Or.inl (Or.inr ⟨_, hschema, hbreaks⟩)
    · exact Or.inr ⟨⟨_, hschema, hfiles⟩, hchecks⟩

end Go.Generator

namespace Registry

/-- Files with a template of the user for types. -/
def filesWith (template : Text.Bytes) : Files :=
  ⟨[(["t"], .directory), (["t", "type"], .directory),
    (["t", "type", "default.go.j2"], .file template)]⟩

/-- A generator that looks for templates in these files. -/
def templateGenerator : Generator :=
  (Go.Generator.make { templateDir := .str "t" } (.basic 1)).toGenerator "GoGenerator" []

end Registry

end ResolverGen
