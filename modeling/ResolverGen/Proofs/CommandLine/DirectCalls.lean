import ResolverGen.DirectCall
import ResolverGen.Proofs.CommandLine.Endings
import ResolverGen.Proofs.Files.Trees
import ResolverGen.Proofs.GraphQL.ParsedTypes
import ResolverGen.Proofs.Settings.ReadSettings
import ResolverGen.Proofs.Text.EndedLines

/-!
# Command lines and direct calls

A command line that names a schema file, a configuration, a language and a directory does what a
direct call for the same files does, and stores in the directory what that returns. If the call
fails, so does the command line, before anything is written.
-/
namespace ResolverGen.CommandLine

/-! ## The command line -/

/-- The command line for a schema file, a configuration file, a language and a directory. -/
def commandLine (schema : String) (config? : Option String) (language directory : String) :
    List String :=
  schema :: (match config? with
    | some config => ["--config", config]
    | none => []) ++ ["-l", language, "-o", directory]

/-- The configuration of a direct call that a path on the command line stands for. -/
def sourceOf : Option String → Registry.ConfigSource
  | some config => .file config
  | none => .nothing

/-- What is on that command line, read. -/
def optionsOf (schema : String) (config? : Option String) (language directory : String) :
    Options where
  schema? := some schema
  config?
  language
  outputDir? := some directory

theorem classify_plain {text : String} {rest : List String} {pieces : List Argument}
    (h : text.toList.head? ≠ some '-') (hrest : classify rest = .ok pieces) :
    classify (text :: rest) = .ok (.plain text :: pieces) := by
  have hmark : text ≠ "--" := by
    rintro rfl
    exact h rfl
  rw [classify, if_neg hmark, if_neg h, hrest]
  rfl

theorem classify_option {name : String} {opt : Opt} {rest : List String} {pieces : List Argument}
    (hname : name ≠ "--") (hdash : name.toList.head? = some '-') (hopt : option? name = some opt)
    (hrest : classify rest = .ok pieces) :
    classify (name :: rest) = .ok (.option opt name none :: pieces) := by
  have hdashed : classifyDashed name = .ok (.option opt name none) := by
    unfold classifyDashed
    rw [hopt]
  rw [classify, if_neg hname, if_pos hdash, hdashed, hrest]
  rfl

/-- An option takes the argument behind it as its value. -/
theorem readArguments_value {r : Reading} {isFollowing : Bool} {o : Opt} {name value : String}
    {rest : List Argument} (ho : o.takesValue = true) :
    readArguments r isFollowing (.option o name none :: .plain value :: rest) =
      r.add o value >>= fun r => readArguments r false rest := by
  rw [readArguments]
  unfold expand
  rw [if_pos ho]
  rfl

def configOpt : Opt := { key := .config, names := ["--config"], takesValue := true }

def languageOpt : Opt := { key := .language, names := ["--language", "-l"], takesValue := true }

def directoryOpt : Opt := { key := .outputDir, names := ["--output-dir", "-o"], takesValue := true }

/-- The pieces that the command line ends with. -/
def lastPieces (language directory : String) : List Argument :=
  [.option languageOpt "-l" none, .plain language, .option directoryOpt "-o" none,
    .plain directory]

theorem classify_last {language directory : String} (hlanguage : language.toList.head? ≠ some '-')
    (hdirectory : directory.toList.head? ≠ some '-') :
    classify ["-l", language, "-o", directory] = .ok (lastPieces language directory) :=
  classify_option (by decide) (by decide) rfl <| classify_plain hlanguage <|
    classify_option (by decide) (by decide) rfl <| classify_plain hdirectory rfl

theorem readArguments_last (r : Reading) (isFollowing : Bool) (language directory : String) :
    readArguments r isFollowing (lastPieces language directory) =
      .ok { r with given := r.given ++ [(.language, language)] ++ [(.outputDir, directory)] } := by
  unfold lastPieces
  rw [readArguments_value rfl]
  change readArguments { r with given := r.given ++ [(.language, language)] } false _ = _
  rw [readArguments_value rfl]
  rfl

theorem readArguments_first (schema : String) (rest : List Argument) :
    readArguments {} false (.plain schema :: rest) =
      readArguments { schema? := some schema, inputs := [.schema] } true rest := by
  rw [readArguments]
  rfl

theorem parse_commandLine {schema language directory : String} {config? : Option String}
    (hschema : schema.toList.head? ≠ some '-')
    (hconfig : ∀ config, config? = some config → config.toList.head? ≠ some '-')
    (hlanguage : language.toList.head? ≠ some '-')
    (hdirectory : directory.toList.head? ≠ some '-') :
    Options.parse (commandLine schema config? language directory) =
      .ok (optionsOf schema config? language directory) := by
  have hlast := classify_last hlanguage hdirectory
  unfold Options.parse commandLine
  cases config? with
  | none =>
    rw [List.cons_append, List.nil_append, classify_plain hschema hlast]
    change (readArguments {} false (.plain schema :: _) >>= _) = _
    rw [readArguments_first, readArguments_last]
    rfl
  | some config =>
    have hrest : classify ("--config" :: config :: ["-l", language, "-o", directory]) =
        .ok (.option configOpt "--config" none :: .plain config :: lastPieces language directory) :=
      classify_option (by decide) (by decide) rfl (classify_plain (hconfig config rfl) hlast)
    rw [List.cons_append, List.cons_append, List.cons_append, List.nil_append,
      classify_plain hschema hrest]
    change (readArguments {} false (.plain schema :: _) >>= _) = _
    rw [readArguments_first, readArguments_value rfl]
    change (readArguments _ false _ >>= _) = _
    rw [readArguments_last]
    rfl

/-! ## Names of files -/

theorem toLower_ne_slash {c : Char} (h : Sanitizer.isPlainChar c = true) : c.toLower ≠ '/' := by
  intro hslash
  have hnum : c.toLower.toNat = 47 := congrArg Char.toNat hslash
  rw [Text.toNat_toLower] at hnum
  rw [Text.isPlainChar_iff, Text.isAlphanum_iff] at h
  rcases h with h | rfl
  · split at hnum <;> omega
  · exact absurd hnum (by decide)

/-- The file of a type stands for itself in a directory, if its suffix holds no slash. -/
theorem isFileName_fileName {g : Go.Generator} {name : String} (hname : Go.IsSchemaName name)
    (hsuffix : '/' ∉ g.settings.fileSuffix.plain.toList) : Files.IsFileName (g.fileName name) := by
  have hchars := Text.isPlainChar_of_mem hname
  have hlower : Text.lower name.toList = name.toList.map Char.toLower :=
    Text.lower_ascii fun c hc => Text.toNat_lt_of_isPlainChar (hchars c hc)
  have hlist : (g.fileName name).toList =
      name.toList.map Char.toLower ++ g.settings.fileSuffix.plain.toList ++ ['.', 'g', 'o'] := by
    unfold Go.Generator.fileName Text.onChars
    rw [String.toList_append, String.toList_append, String.toList_ofList, hlower]
    rfl
  refine Files.isFileName_of_not_mem ?_ ?_
  · rw [hlist]
    simp only [List.mem_append, List.mem_map, not_or, not_exists, not_and]
    exact ⟨⟨fun c hc => toLower_ne_slash (hchars c hc), hsuffix⟩, by decide⟩
  · have hne : name.toList ≠ [] := Go.IsSchemaName.toList_ne_nil hname
    have hpos := List.length_pos_iff.mpr hne
    rw [hlist, List.length_append, List.length_append, List.length_map]
    change 2 < name.toList.length + g.settings.fileSuffix.plain.toList.length + 3
    omega

/-! ## The configured suffix -/

/-- Whether every suffix that a configuration file gives is free of slashes. -/
def HasPlainSuffix (files : Files) (config? : Option String) : Prop :=
  ∀ config ∈ config?, ∀ entries ∈ (readConfigFile files config).toOption,
    ∀ entry ∈ entries, entry.1 = "file_suffix" → '/' ∉ entry.2.plain.toList

instance (files : Files) (config? : Option String) : Decidable (HasPlainSuffix files config?) :=
  inferInstanceAs (Decidable (∀ config ∈ config?, _))

theorem mem_of_withCustom {values known : Table Json} {key : String} {value : Json}
    (h : withCustom values = .ok known) (hkey : key ≠ "custom") (hmem : (key, value) ∈ known) :
    (key, value) ∈ values := by
  unfold withCustom at h
  dsimp only at h
  split at h
  · cases h
    exact (List.mem_filter.mp hmem).1
  · obtain ⟨custom, -, h⟩ := bind_eq_ok_iff.mp h
    cases h
    rcases Table.mem_of_mem_put hmem with hmem | heq
    · exact (List.mem_filter.mp hmem).1
    · exact absurd (Prod.mk.inj heq).1 hkey

/-- What a layer gives comes from the file that it was read from. -/
theorem mem_fileLayer {files : Files} {config? : Option String} {layer : Table Json} {log : Log}
    (h : fileLayer files config? = (.ok layer, log)) {entry : String × Json}
    (hmem : entry ∈ layer) :
    ∃ config, config? = some config ∧ readConfigFile files config = .ok layer := by
  unfold fileLayer at h
  split at h
  · cases h
    cases hmem
  · rename_i config hconfig
    split at h
    · rename_i entries hread
      cases h
      exact ⟨config, (Option.filter_eq_some_iff.mp hconfig).1, hread⟩
    · cases h

/-- Settings that are loaded without overrides are those of the defaults under the layer of a
configuration file. -/
theorem layer_of_load {files : Files} {config? : Option String} {settings : Settings} {log : Log}
    (h : Settings.load files "go" [] config? = (.ok settings, log)) :
    ∃ layer layerLog known, fileLayer files config? = (.ok layer, layerLog) ∧
      withCustom ((defaultsOf "go").overlay layer) = .ok known ∧
      Settings.read known = .ok settings := by
  unfold Settings.load at h
  split at h
  · cases h
  rename_i layer layerLog hlayer
  obtain ⟨hvalues, -⟩ := Prod.mk.inj h
  unfold Settings.ofValues at hvalues
  split at hvalues
  · cases hvalues
  rename_i known hknown
  exact ⟨layer, layerLog, known, hlayer, hknown, mapError_eq_ok_iff.mp hvalues⟩

theorem slash_not_mem_fileSuffix {files : Files} {config? : Option String} {settings : Settings}
    {log : Log} (h : Settings.load files "go" [] config? = (.ok settings, log))
    (hsuffix : HasPlainSuffix files config?) : '/' ∉ settings.fileSuffix.plain.toList := by
  obtain ⟨layer, layerLog, known, hlayer, hknown, hread⟩ := layer_of_load h
  rw [(Settings.read_eq_ok_iff.mp hread).fileSuffix]
  cases hgiven : known.get? "file_suffix" with
  | none => decide
  | some suffix =>
    have hmem : ("file_suffix", suffix) ∈ (defaultsOf "go").overlay layer :=
      mem_of_withCustom hknown (by decide) (Table.mem_of_get? hgiven)
    rcases Table.mem_of_mem_overlay hmem with hdefault | hlayered
    · obtain rfl : suffix = .str "_gen" := by
        simpa [defaultsOf, languageDefaults, Table.get?] using hdefault
      decide
    · obtain ⟨config, hconfig, hfile⟩ := mem_fileLayer hlayer hlayered
      exact hsuffix config hconfig layer (by rw [hfile]; rfl) _ hlayered rfl

/-! ## The call behind a delivery -/

/-- Files are delivered if every stage comes to something and the generation to these files. -/
theorem deliver_of_stages {world : World} {o : Options} {artifacts : Table String}
    (h : stages world o = .ok (.deliver artifacts)) :
    Registry.builtin.supports o.language = true ∧
      ∃ settings text g schema, settingsOf world.files o = .ok settings ∧
        textOf world o = .ok text ∧ generatorOf settings = .ok g ∧
        (((g.toGenerator "GoGenerator" []).generateText world.surface text).run
          (Go.Generator.initialState [])).1 = .ok (schema, artifacts) := by
  rcases stages_eq_ok h with ⟨-, ⟨⟩⟩ | ⟨-, ⟨⟩⟩ | ⟨ho, settings, hsettings, ⟨-, ⟨⟩⟩ |
    ⟨text, g, htext, hg, h⟩⟩
  obtain ⟨warnings, facts, houtcome⟩ := ofOutcome_eq_deliver_iff.mp h
  obtain ⟨schema, hwork⟩ := (Go.Generator.tells_of_outcome houtcome).exists_schema
  exact ⟨ho.2, settings, text, g, schema, hsettings, htext, hg, hwork⟩

section

variable {world : World} {schema language directory : String} {config? : Option String}

theorem load_of_settingsOf {settings : Settings}
    (h : settingsOf world.files (optionsOf schema config? language directory) = .ok settings) :
    ∃ log, Settings.load world.files "go" [] config? = (.ok settings, log) := by
  have hread : (Settings.load world.files "go" [] config?).1 = .ok settings :=
    mapError_eq_ok_iff.mp h
  exact ⟨_, Prod.ext hread rfl⟩

theorem loadFile_of_textOf {text : String}
    (h : textOf world (optionsOf schema config? language directory) = .ok text) :
    ∃ source log, loadFile world.files schema = (.ok ⟨source, text⟩, log) := by
  unfold textOf loading? at h
  by_cases hschema : schema = ""
  · subst hschema
    cases h
  · have hgiven : given? (optionsOf schema config? language directory).schema? = some schema :=
      given?_eq_some_iff.mpr ⟨rfl, hschema⟩
    rw [hgiven] at h
    dsimp only at h
    rw [loadSchema_file hschema] at h
    rcases hload : loadFile world.files schema with ⟨failure | loaded, log⟩
    · rw [hload] at h
      cases h
    · rw [hload] at h
      cases h
      exact ⟨loaded.source, log, rfl⟩

/-- The settings of a call are those of the command line. -/
theorem settingsFrom_sourceOf {settings : Settings} {log : Log}
    (h : Settings.load world.files "go" [] config? = (.ok settings, log)) :
    Registry.settingsFrom world.files language "go" (sourceOf config?) = (.ok settings, log) := by
  cases config? with
  | none =>
    change Registry.settingsFrom.refine language (Settings.load world.files "go" [] none) = _
    rw [h]
    rfl
  | some config =>
    change Registry.settingsFrom.refine language
      (Settings.load world.files "go" [] (some config)) = _
    rw [h]
    rfl

theorem filesFor_eq_ok {r : Registry} {surface : Surface} {source : Registry.ConfigSource}
    {text : String} {g : Generator} {log : Log} {work : Schema × Table String}
    (hcreate : r.create surface.files language source = (.ok g, log))
    (hwork : ((g.generateText surface text).run g.start).1 = .ok work) :
    (r.filesFor surface language source text).1 = .ok work.2 := by
  unfold Registry.filesFor
  rw [hcreate]
  dsimp only
  rcases hrun : (g.generateText surface text).run g.start with ⟨failure | result, s⟩
  · rw [hrun] at hwork
    cases hwork
  · rw [hrun] at hwork
    cases hwork
    rfl

theorem filesForFile_eq_ok {r : Registry} {surface : Surface} {source : Registry.ConfigSource}
    {origin text : String} {log : Log} {artifacts : Table String}
    (hschema : loadFile surface.files schema = (.ok ⟨origin, text⟩, log))
    (hfiles : (r.filesFor surface language source text).1 = .ok artifacts) :
    (r.filesForFile surface language source schema).1 = .ok artifacts := by
  unfold Registry.filesForFile
  rw [hschema]
  exact hfiles

/-- The files that are left to deliver are those that a call for the same things returns. -/
theorem filesForFile_of_stages {artifacts : Table String}
    (h : stages world (optionsOf schema config? language directory) = .ok (.deliver artifacts)) :
    (Registry.builtin.filesForFile world.surface language (sourceOf config?) schema).1 =
      .ok artifacts := by
  obtain ⟨hsupports, settings, text, g, catalogue, hsettings, htext, hg, hwork⟩ :=
    deliver_of_stages h
  obtain ⟨settingsLog, hload⟩ := load_of_settingsOf hsettings
  obtain ⟨source, schemaLog, hschema⟩ := loadFile_of_textOf htext
  obtain ⟨formatter, hformatter, rfl⟩ := generatorOf_eq_ok_iff.mp hg
  have hknown : Registry.builtin.supports language = true := hsupports
  let toGo := (Go.Generator.make settings formatter).toGenerator "GoGenerator"
  obtain ⟨log, hcreate⟩ : ∃ log,
      Registry.builtin.create world.surface.files language (sourceOf config?) =
        (.ok (toGo log), log) := by
    rw [show world.surface.files = world.files from rfl]
    rw [Registry.create_builtin_eq hknown, settingsFrom_sourceOf hload]
    dsimp only
    rw [hformatter]
    exact ⟨_, rfl⟩
  -- the two generators differ in what was recorded before they start, which does not count
  have hcall : (((toGo log).generateText world.surface text).run (toGo log).start).1 =
      .ok (catalogue, artifacts) :=
    (Go.Generator.generateText_congr Go.isSteady_filters
      (Go.Generator.isFaithful_initialState log)
      (Go.Generator.isFaithful_initialState [])).trans hwork
  have hfiles := filesFor_eq_ok hcreate hcall
  exact filesForFile_eq_ok hschema hfiles

theorem keys_of_forall₂ {α : Type} {key : α → String} {table : Table String} {xs : List α}
    (h : List.Forall₂ (fun entry x => entry.1 = key x) table xs) : table.keys = xs.map key := by
  induction h with
  | nil => rfl
  | cons hkey _ ih => exact congrArg₂ List.cons hkey ih

/-- The files that are left to deliver have names of their own in a directory. -/
theorem names_of_stages {artifacts : Table String} (hsuffix : HasPlainSuffix world.files config?)
    (h : stages world (optionsOf schema config? language directory) = .ok (.deliver artifacts)) :
    (∀ entry ∈ artifacts, Files.IsFileName entry.1) ∧ artifacts.keys.Nodup := by
  obtain ⟨-, settings, text, g, catalogue, hsettings, -, hg, hwork⟩ := deliver_of_stages h
  obtain ⟨log, hload⟩ := load_of_settingsOf hsettings
  obtain ⟨formatter, -, rfl⟩ := generatorOf_eq_ok_iff.mp hg
  rw [Go.Generator.generateText_run] at hwork
  obtain ⟨_, hcatalogue, hwork⟩ := bind_eq_ok_iff.mp hwork
  obtain ⟨_, hgenerate, hwork⟩ := bind_eq_ok_iff.mp hwork
  cases hwork
  rw [Go.Generator.generate_run Go.isSteady_filters _ _ _ (Go.Generator.isFaithful_initialState [])
    (Go.Generator.isFaithful_initialState [])] at hgenerate
  obtain ⟨hhave, -, hentries⟩ := Go.Generator.fileWork_ok hgenerate
  have hkeys := keys_of_forall₂ (hentries.imp fun _ _ h => h.1)
  have hcharacters := GraphQL.isSchemaName_of_schemaOf
    (Go.Generator.parseSchema_eq_ok_iff.mp hcatalogue)
  constructor
  · intro entry hentry
    have hkey : entry.1 ∈ artifacts.keys := List.mem_map_of_mem hentry
    rw [hkeys] at hkey
    obtain ⟨t, ht, hname⟩ := List.mem_map.mp hkey
    rw [← hname]
    exact isFileName_fileName (hcharacters t (List.mem_filter.mp ht).1)
      (slash_not_mem_fileSuffix hload hsuffix)
  · -- types whose names are the same in lower case would have ended the generation
    rw [hkeys]
    refine List.pairwise_map.mpr ((List.pairwise_map.mp hhave.1).imp fun hne hsame => ?_)
    exact hne ((Go.Generator.fileName_eq_iff _ _ _).mp hsame)

/-- A run that is asked for code cannot exit with 0 unless there are files to deliver. -/
theorem exit_of_optionsOf {code : Nat}
    (h : stages world (optionsOf schema config? language directory) = .ok (.exit code)) :
    code = 1 := by
  rcases stages_eq_ok h with ⟨⟨⟩, -⟩ | ⟨-, ⟨⟩⟩ | ⟨-, settings, -, ⟨⟨⟩, -⟩ | ⟨text, g, -, -, h⟩⟩
  · rfl
  · exact exit_of_ofOutcome h

end

/-- A delivery into a directory ends with 0 only if all is written. -/
theorem written_of_finish {o : Options} {files : Files} {artifacts : Table String}
    {directory : String} (hout : given? o.outputDir? = some directory)
    (h : Ending.ofResult (finish o files (.ok (.deliver artifacts))).1 = .exit 0) :
    ∃ w, writeArtifacts files artifacts directory = (w, .ok ()) ∧
      (finish o files (.ok (.deliver artifacts))).2 = w.files := by
  unfold finish delivery at h ⊢
  rw [hout] at h ⊢
  dsimp only at h ⊢
  generalize writeArtifacts files artifacts directory = written at h ⊢
  obtain ⟨w, fault | ⟨⟩⟩ := written
  · by_cases hnull : fault.cause = .nullCharacter <;>
      simp [bind, Except.bind, Ending.ofResult, hnull] at h
  · exact ⟨w, rfl, rfl⟩

/-- What a command line comes to behind its stages: if a direct call fails, it does not end with 0
and writes nothing; if it ends with 0, the files of the call are stored. -/
theorem finish_optionsOf (world : World) (schema language : String) {directory : String}
    {config? : Option String} (hgiven : directory ≠ "")
    (hsuffix : HasPlainSuffix world.files config?) :
    let called :=
      (Registry.builtin.filesForFile world.surface language (sourceOf config?) schema).1
    let o := optionsOf schema config? language directory
    let finished := finish o world.files (stages world o)
    ((∃ failure, called = .error failure) →
      Ending.ofResult finished.1 ≠ .exit 0 ∧ finished.2 = world.files) ∧
    (Ending.ofResult finished.1 = .exit 0 → ∃ artifacts, called = .ok artifacts ∧
      Files.Stores (.ofText directory) artifacts world.files finished.2) := by
  intro called o finished
  rcases hstages : stages world o with (text | cause) | (code | artifacts)
  · simp [finished, hstages, finish, Ending.ofResult]
  · simp [finished, hstages, finish, Ending.ofResult]
  · obtain rfl := exit_of_optionsOf hstages
    simp [finished, hstages, finish, Ending.ofResult]
  · have hcalled : called = .ok artifacts := filesForFile_of_stages hstages
    rw [hcalled]
    refine ⟨by simp, fun hexit => ⟨artifacts, rfl, ?_⟩⟩
    have hfinished : finished = finish o world.files (.ok (.deliver artifacts)) := by
      unfold finished
      rw [hstages]
    rw [hfinished] at hexit ⊢
    obtain ⟨hnames, hdistinct⟩ := names_of_stages hsuffix hstages
    obtain ⟨w, hwrite, hafter⟩ := written_of_finish (given?_eq_some_iff.mpr ⟨rfl, hgiven⟩) hexit
    rw [hafter]
    exact Files.stores_writeArtifacts hnames hdistinct hwrite

/-- If a direct call fails, the command line does not end with 0 and leaves all files as they were.
If the command line ends with 0, the call returns files, which are stored in the directory, and all
other files are as they were. -/
theorem run_commandLine (world : World) {schema language directory : String}
    {config? : Option String} (hschema : schema.toList.head? ≠ some '-')
    (hconfig : ∀ config, config? = some config → config.toList.head? ≠ some '-')
    (hlanguage : language.toList.head? ≠ some '-')
    (hdirectory : directory.toList.head? ≠ some '-') (hgiven : directory ≠ "")
    (hsuffix : HasPlainSuffix world.files config?) :
    let called :=
      (Registry.builtin.filesForFile world.surface language (sourceOf config?) schema).1
    let ended := run world (commandLine schema config? language directory)
    ((∃ failure, called = .error failure) →
      ended.1 ≠ .exit 0 ∧ ended.2.files = world.files) ∧
    (ended.1 = .exit 0 → ∃ artifacts, called = .ok artifacts ∧
      Files.Stores (.ofText directory) artifacts world.files ended.2.files) := by
  intro called ended
  have hended : ended = runWith .builtin world (optionsOf schema config? language directory) := by
    unfold ended run
    rw [parse_commandLine hschema hconfig hlanguage hdirectory]
  obtain ⟨hfailed, hstored⟩ := finish_optionsOf world schema language hgiven hsuffix
  obtain ⟨hrejected, haccepted⟩ := runWith_eq world (optionsOf schema config? language directory)
  rw [hended]
  cases hshown : (displaysOf world (optionsOf schema config? language directory)).any
      world.console.rejects with
  | true =>
    obtain ⟨hending, hfiles⟩ := hrejected hshown
    rw [hending]
    refine ⟨fun hfailure => ⟨by simp, ?_⟩, by simp⟩
    rcases hfiles with hfiles | hfiles
    · exact hfiles
    · rw [hfiles]
      exact (hfailed hfailure).2
  | false =>
    obtain ⟨hending, hfiles⟩ := haccepted hshown
    rw [hending, hfiles]
    exact ⟨hfailed, hstored⟩

/-- A world with a schema, a configuration, and a template of its own for types. -/
def sampleWorld : World :=
  { files := ⟨[(["s.graphql"], .file (Text.toFile "scalar Url")),
      (["c.json"],
        .file (Text.toFile "\x7b\"template_dir\": \"t\", \"file_suffix\": \"_x\"\x7d")),
      (["t"], .directory), (["t", "type"], .directory),
      (["t", "type", "default.go.j2"], .file (Text.toFile "package url"))]⟩ }

/-- The command line ends with 0 there, so what the call returns is stored. -/
example : HasPlainSuffix sampleWorld.files (some "c.json") ∧
    (run sampleWorld (commandLine "s.graphql" (some "c.json") "golang" "out")).1 = .exit 0 := by
  decide +kernel

end ResolverGen.CommandLine
