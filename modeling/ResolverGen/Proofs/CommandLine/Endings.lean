import ResolverGen.Proofs.CommandLine.Stages
import ResolverGen.Proofs.InputBreakdowns
import ResolverGen.Proofs.Outcomes

/-!
# How runs end

A run on a command line that can be read is meant to end with code 0 or with code 1. It does, unless
one of its inputs breaks it down on the way: the configuration, the schema source, the generation,
or a null character in a name of a directory to look through or to write into.
-/
namespace ResolverGen.CommandLine

/-! ## Runs that break down -/

/-- Options that name a schema source which breaks a run down. An address counts only without a
file. -/
inductive SourceBreaks (world : World) (o : Options) : Breakdown → Prop
  | file {file : String} {cause : Breakdown} : given? o.schema? = some file →
    SchemaFileBreaks world.files (.ofText file) cause → SourceBreaks world o cause
  | address {url : String} {cause : Breakdown} : given? o.schema? = none →
    given? o.url? = some url → AddressBreaks world.fetch url cause → SourceBreaks world o cause

/-- Whether options ask for more than a list of languages, and for a language that is known. -/
def Options.IsUsable (o : Options) : Prop :=
  o.listLanguages = false ∧ Registry.builtin.supports o.language = true

/-- Runs on options that break down: at the first stage that does, or behind all of them at a name
with a null character. -/
inductive Derails (world : World) (o : Options) : Breakdown → Prop
  | settings {cause : Breakdown} : o.IsUsable →
    Settings.LoadBreaks world.files (overrides o) o.config? cause → Derails world o cause
  | listing {settings : Settings} {g : Go.Generator} {cause : Breakdown} :
    o.IsUsable → o.listTemplates = true → settingsOf world.files o = .ok settings →
      generatorOf settings = .ok g → settings.ListingBreaks cause → Derails world o cause
  | source {settings : Settings} {cause : Breakdown} : o.IsUsable → o.listTemplates = false →
    settingsOf world.files o = .ok settings → SourceBreaks world o cause → Derails world o cause
  | generation {settings : Settings} {text : String} {g : Go.Generator} {cause : Breakdown} :
    o.IsUsable → o.listTemplates = false → settingsOf world.files o = .ok settings →
      textOf world o = .ok text → generatorOf settings = .ok g →
      g.TextBreaks world.surface text cause → Derails world o cause
  | writing {artifacts : Table String} {directory : String} {fault : FileFault} :
    stages world o = .ok (.deliver artifacts) → given? o.outputDir? = some directory →
      (writeArtifacts world.files artifacts directory).2 = .error fault →
      fault.cause = .nullCharacter → Derails world o (.file fault)

/-! ## The stages -/

section

variable {world : World} {o : Options} {cause : Breakdown}

theorem given?_eq_some_iff {text? : Option String} {text : String} :
    given? text? = some text ↔ text? = some text ∧ text ≠ "" := by
  unfold given?
  rw [Option.filter_eq_some_iff]
  simp

theorem settingsOf_eq_breakdown_iff :
    settingsOf world.files o = .error (.breakdown cause) ↔
      Settings.LoadBreaks world.files (overrides o) o.config? cause := by
  rw [← Settings.load_eq_breakdown_iff]
  unfold settingsOf
  rcases (Settings.load world.files "go" (overrides o) o.config?).1 with (fault | other) | settings
  · simp [Interruption.ofSettings]
  · simp [Interruption.ofSettings]
  · simp

theorem loaded_eq_breakdown_iff {loaded : Except SourceFailure LoadedSchema} :
    (loaded.mapError Interruption.ofSource >>= fun loaded => pure loaded.text) =
        .error (.breakdown cause) ↔ loaded = .error (.breakdown cause) := by
  rcases loaded with (fault | path | other) | loaded <;>
    simp [Interruption.ofSource, bind, Except.bind, pure, Except.pure]

theorem textOf_eq_breakdown_iff :
    textOf world o = .error (.breakdown cause) ↔ SourceBreaks world o cause := by
  unfold textOf loading?
  cases hfile : given? o.schema? with
  | some file =>
    dsimp only
    rw [loadSchema_file (given?_eq_some_iff.mp hfile).2, loaded_eq_breakdown_iff,
      loadFile_eq_breakdown_iff]
    constructor
    · exact .file hfile
    · rintro (⟨hother, hbreaks⟩ | ⟨hnone, -⟩)
      · obtain rfl := Option.some.inj (hfile.symm.trans hother)
        exact hbreaks
      · cases hfile.symm.trans hnone
  | none =>
    cases hurl : given? o.url? with
    | some url =>
      dsimp only
      rw [loadSchema_url (given?_eq_some_iff.mp hurl).2, loaded_eq_breakdown_iff,
        loadUrl_eq_breakdown_iff]
      constructor
      · exact .address hfile hurl
      · rintro (⟨hsome, -⟩ | ⟨-, hother, hbreaks⟩)
        · cases hfile.symm.trans hsome
        · obtain rfl := Option.some.inj (hurl.symm.trans hother)
          exact hbreaks
    | none =>
      refine iff_of_false ?_ ?_
      · dsimp only
        split <;> simp
      · rintro (⟨hsome, -⟩ | ⟨-, hsome, -⟩)
        · cases hfile.symm.trans hsome
        · cases hurl.symm.trans hsome

theorem generatorOf_ne_breakdown {settings : Settings} :
    generatorOf settings ≠ .error (.breakdown cause) := by
  intro h
  obtain ⟨fault, -, ⟨⟩⟩ := generatorOf_eq_error_iff.mp h

theorem listingOf_eq_breakdown_iff {settings : Settings} {g : Go.Generator}
    (hg : generatorOf settings = .ok g) :
    listingOf world.files g = .error (.breakdown cause) ↔ settings.ListingBreaks cause := by
  obtain ⟨formatter, -, rfl⟩ := generatorOf_eq_ok_iff.mp hg
  unfold listingOf
  rw [mapError_eq_error_iff]
  constructor
  · rintro ⟨fault, hlisting, ⟨⟩⟩
    exact listing_eq_error_iff.mp hlisting
  · rintro ⟨hgiven, hnull⟩
    exact ⟨_, listing_eq_error_iff.mpr (.directoryName hgiven hnull), rfl⟩

theorem ofOutcome_eq_breakdown_iff {outcome : Except Breakdown RunOutcome} :
    Remainder.ofOutcome outcome = .error (.breakdown cause) ↔ outcome = .error cause := by
  rcases outcome with other | ⟨artifacts, warnings, facts⟩ | error <;> simp [Remainder.ofOutcome]

theorem outcomeOf_eq_error_iff {settings : Settings} {g : Go.Generator} {text : String}
    (hg : generatorOf settings = .ok g) :
    outcomeOf world g text = .error cause ↔ g.TextBreaks world.surface text cause := by
  obtain ⟨formatter, hformatter, rfl⟩ := generatorOf_eq_ok_iff.mp hg
  exact Go.Generator.outcome_eq_error_iff (g := Go.Generator.make settings formatter)
    Go.isSteady_filters hformatter (Go.Generator.isFaithful_initialState [])

/-- The stages break down at the first of them that does. -/
theorem stages_eq_breakdown_iff :
    stages world o = .error (.breakdown cause) ↔
      o.IsUsable ∧ (Settings.LoadBreaks world.files (overrides o) o.config? cause ∨
        ∃ settings, settingsOf world.files o = .ok settings ∧
          (o.listTemplates = true ∧
              (∃ g, generatorOf settings = .ok g ∧ settings.ListingBreaks cause) ∨
            o.listTemplates = false ∧
              (SourceBreaks world o cause ∨ ∃ text, textOf world o = .ok text ∧
                ∃ g, generatorOf settings = .ok g ∧ g.TextBreaks world.surface text cause))) := by
  unfold stages Options.IsUsable
  cases hlist : o.listLanguages with
  | true => simp
  | false =>
    cases hsupports : Registry.builtin.supports o.language with
    | false => simp
    | true =>
      rw [if_neg (by decide), if_pos rfl, bind_eq_error_iff, settingsOf_eq_breakdown_iff]
      simp only [true_and, and_self]
      refine or_congr_right (exists_congr fun settings => and_congr_right fun _ => ?_)
      cases o.listTemplates with
      | true =>
        rw [if_pos rfl, bind_eq_error_iff, or_iff_right generatorOf_ne_breakdown]
        simp only [true_and, reduceCtorEq, false_and, or_false]
        refine exists_congr fun g => and_congr_right fun hg => ?_
        rw [bind_eq_error_iff, listingOf_eq_breakdown_iff hg]
        simp [pure, Except.pure]
      | false =>
        rw [if_neg (by decide), bind_eq_error_iff, textOf_eq_breakdown_iff]
        simp only [true_and, reduceCtorEq, false_and, false_or]
        refine or_congr_right (exists_congr fun text => and_congr_right fun _ => ?_)
        rw [bind_eq_error_iff, or_iff_right generatorOf_ne_breakdown]
        refine exists_congr fun g => and_congr_right fun hg => ?_
        rw [ofOutcome_eq_breakdown_iff, outcomeOf_eq_error_iff hg]

theorem derails_iff :
    Derails world o cause ↔ stages world o = .error (.breakdown cause) ∨
      ∃ artifacts directory fault, stages world o = .ok (.deliver artifacts) ∧
        given? o.outputDir? = some directory ∧
        (writeArtifacts world.files artifacts directory).2 = .error fault ∧
        fault.cause = .nullCharacter ∧ cause = .file fault := by
  rw [stages_eq_breakdown_iff]
  constructor
  · rintro (⟨ho, hbreaks⟩ | ⟨ho, htemplates, hsettings, hg, hbreaks⟩ |
      ⟨ho, htemplates, hsettings, hbreaks⟩ | ⟨ho, htemplates, hsettings, htext, hg, hbreaks⟩ |
      ⟨hstages, hdirectory, hwrite, hnull⟩)
    · exact Or.inl ⟨ho, Or.inl hbreaks⟩
    · exact Or.inl ⟨ho, Or.inr ⟨_, hsettings, Or.inl ⟨htemplates, _, hg, hbreaks⟩⟩⟩
    · exact Or.inl ⟨ho, Or.inr ⟨_, hsettings, Or.inr ⟨htemplates, Or.inl hbreaks⟩⟩⟩
    · exact Or.inl ⟨ho, Or.inr ⟨_, hsettings, Or.inr ⟨htemplates, Or.inr
        ⟨_, htext, _, hg, hbreaks⟩⟩⟩⟩
    · exact Or.inr ⟨_, _, _, hstages, hdirectory, hwrite, hnull, rfl⟩
  · rintro (⟨ho, hbreaks | ⟨settings, hsettings, ⟨htemplates, g, hg, hbreaks⟩ | ⟨htemplates,
      hbreaks | ⟨text, htext, g, hg, hbreaks⟩⟩⟩⟩ |
      ⟨artifacts, directory, fault, hstages, hdirectory, hwrite, hnull, rfl⟩)
    · exact .settings ho hbreaks
    · exact .listing ho htemplates hsettings hg hbreaks
    · exact .source ho htemplates hsettings hbreaks
    · exact .generation ho htemplates hsettings htext hg hbreaks
    · exact .writing hstages hdirectory hwrite hnull

theorem delivery_eq_breakdown_iff {artifacts : Table String} :
    (delivery o world.files artifacts).1 = .error (.breakdown cause) ↔
      ∃ directory fault, given? o.outputDir? = some directory ∧
        (writeArtifacts world.files artifacts directory).2 = .error fault ∧
        fault.cause = .nullCharacter ∧ cause = .file fault := by
  unfold delivery
  cases given? o.outputDir? with
  | none => simp
  | some directory =>
    dsimp only
    cases hwrite : (writeArtifacts world.files artifacts directory).2 with
    | ok u => simp [hwrite]
    | error fault =>
      by_cases hnull : fault.cause = .nullCharacter <;>
        simp [hwrite, hnull, @eq_comm _ _ cause]

/-- What is left after the stages breaks down at a name with a null character only. -/
theorem finish_eq_breakdown_iff :
    (finish o world.files (stages world o)).1 = .error (.breakdown cause) ↔
      Derails world o cause := by
  rw [derails_iff]
  rcases stages world o with i | (code | artifacts)
  · simp [finish]
  · simp [finish]
  · simp [finish, bind_eq_error_iff, delivery_eq_breakdown_iff, pure, Except.pure]

/-- What the stages leave, by how far they go. -/
theorem stages_eq_ok {rest : Remainder} (h : stages world o = .ok rest) :
    o.listLanguages = true ∧ rest = .exit 0 ∨
    Registry.builtin.supports o.language = false ∧ rest = .exit 1 ∨
    o.IsUsable ∧ ∃ settings, settingsOf world.files o = .ok settings ∧
      (o.listTemplates = true ∧ rest = .exit 0 ∨
        ∃ text g, textOf world o = .ok text ∧ generatorOf settings = .ok g ∧
          Remainder.ofOutcome (outcomeOf world g text) = .ok rest) := by
  unfold stages at h
  split at h
  · rename_i hlist
    exact Or.inl ⟨hlist, (Except.ok.inj h).symm⟩
  rename_i hlist
  split at h
  · rename_i hsupports
    obtain ⟨settings, hsettings, h⟩ := bind_eq_ok_iff.mp h
    refine Or.inr (Or.inr ⟨⟨by simpa using hlist, hsupports⟩, settings, hsettings, ?_⟩)
    split at h
    · rename_i htemplates
      obtain ⟨g, -, h⟩ := bind_eq_ok_iff.mp h
      obtain ⟨listed, -, h⟩ := bind_eq_ok_iff.mp h
      exact Or.inl ⟨htemplates, (Except.ok.inj h).symm⟩
    · obtain ⟨text, htext, h⟩ := bind_eq_ok_iff.mp h
      obtain ⟨g, hg, h⟩ := bind_eq_ok_iff.mp h
      exact Or.inr ⟨text, g, htext, hg, h⟩
  · rename_i hsupports
    exact Or.inr (Or.inl ⟨by simpa using hsupports, (Except.ok.inj h).symm⟩)

theorem ofOutcome_eq_deliver_iff {outcome : Except Breakdown RunOutcome}
    {artifacts : Table String} :
    Remainder.ofOutcome outcome = .ok (.deliver artifacts) ↔
      ∃ warnings facts, outcome = .ok (.success artifacts warnings facts) := by
  rcases outcome with other | ⟨artifacts, warnings, facts⟩ | error <;> simp [Remainder.ofOutcome]

theorem exit_of_ofOutcome {outcome : Except Breakdown RunOutcome} {code : Nat}
    (h : Remainder.ofOutcome outcome = .ok (.exit code)) : code = 1 := by
  rcases outcome with other | ⟨artifacts, warnings, facts⟩ | error <;>
    simp_all [Remainder.ofOutcome]

theorem exit_of_stages {code : Nat} (h : stages world o = .ok (.exit code)) :
    code = 0 ∨ code = 1 := by
  rcases stages_eq_ok h with ⟨-, ⟨⟩⟩ | ⟨-, ⟨⟩⟩ | ⟨-, settings, -, ⟨-, ⟨⟩⟩ | ⟨text, g, -, -, h⟩⟩
  · exact Or.inl rfl
  · exact Or.inr rfl
  · exact Or.inl rfl
  · exact Or.inr (exit_of_ofOutcome h)

theorem finish_eq_ok {code : Nat} (h : (finish o world.files (stages world o)).1 = .ok code) :
    code = 0 ∨ code = 1 := by
  rcases hstages : stages world o with i | (other | artifacts)
  · simp [finish, hstages] at h
  · obtain rfl : other = code := by simpa [finish, hstages] using h
    exact exit_of_stages hstages
  · rw [hstages] at h
    obtain ⟨u, -, h⟩ := bind_eq_ok_iff.mp h
    exact Or.inl (by simpa [pure, Except.pure] using h.symm)

end

/-- A console that takes no tag which closes an `x`. -/
def tagConsole : Console where
  refuses text := text.toList.tails.any ("[/x]".toList.isPrefixOf ·)

/-- A world whose schema file holds no text. -/
def unreadableWorld : World := { files := ⟨[(["s.graphql"], .file [0xff])]⟩ }

end ResolverGen.CommandLine
