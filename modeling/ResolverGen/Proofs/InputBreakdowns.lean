import ResolverGen.Go.Generator
import ResolverGen.Proofs.Files.Questions
import ResolverGen.Proofs.FirstFailures
import ResolverGen.Proofs.Tables
import ResolverGen.SchemaSource
import ResolverGen.Settings.Layers

/-!
# Inputs that break a run down

Most faults of a configuration or of a schema source are reported. These are the ones that are not:
names that are too long to be looked for, bytes that are no text, numbers of too many digits, custom
settings that are no table, addresses that cannot be read, and a refusal that brings no response.
-/
namespace ResolverGen

/-! ## Configurations -/

/-- A path whose configuration breaks a run down. -/
inductive ConfigFileBreaks (files : Files) (path : Path) : Breakdown → Prop
  | longName : files.find path = .error .nameTooLong →
    ConfigFileBreaks files path (.file ⟨.nameTooLong, path.text⟩)
  | bytes {content : Text.Bytes} {cause : Text.Undecodable} :
    files.find path = .ok (.file content) → Text.onChars Text.lower path.suffix = ".json" →
      Text.ofFile content = .error cause → ConfigFileBreaks files path (.undecodable cause)
  | digits {content : Text.Bytes} {text : String} {fault : Json.SyntaxError} :
    files.find path = .ok (.file content) → Text.onChars Text.lower path.suffix = ".json" →
      Text.ofFile content = .ok text → Json.parse text = .error fault →
      fault.cause = .tooManyDigits → ConfigFileBreaks files path .wrongValue

/-- Values of settings among which there are keys that are no settings, while the custom settings,
where these belong, are no table. -/
def CustomBreaks (values : Table Json) (cause : Breakdown) : Prop :=
  (∃ entry ∈ values, entry.1 ∉ settingKeys) ∧
    tableOf ((values.get? "custom").getD .null) = .error cause

/-- Settings that break a run down while they are put together. -/
inductive Settings.LoadBreaks (files : Files) (overrides : Table Json) (file? : Option String) :
    Breakdown → Prop
  | file {file : String} {cause : Breakdown} : file? = some file → file ≠ "" →
    ConfigFileBreaks files (.ofText file) cause → LoadBreaks files overrides file? cause
  | custom {entries : Table Json} {log : Log} {cause : Breakdown} :
    fileLayer files file? = (.ok entries, log) →
      CustomBreaks (((defaultsOf "go").overlay entries).overlay overrides) cause →
      LoadBreaks files overrides file? cause

section

variable {files : Files} {file : String} {cause : Breakdown}

theorem configFileBreaks_of_read (h : readConfigFile files file = .error (.breakdown cause)) :
    ConfigFileBreaks files (.ofText file) cause := by
  unfold readConfigFile at h
  dsimp only at h
  split at h
  case h_1 fault hthere =>
    cases h
    obtain ⟨hfind, rfl⟩ := Files.pathExists_eq_error_iff.mp hthere
    exact .longName hfind
  case h_2 => cases h
  case h_3 =>
    split at h
    · cases h
    rename_i hsuffix
    replace hsuffix := Decidable.not_not.mp hsuffix
    split at h
    case h_1 => cases h
    case h_2 cause hread =>
      cases h
      obtain ⟨content, hfind, hbytes⟩ := Files.readText_eq_undecodable_iff.mp hread
      exact .bytes hfind hsuffix hbytes
    case h_3 text hread =>
      obtain ⟨content, hfind, hbytes⟩ := Files.readText_eq_ok_iff.mp hread
      split at h
      case h_1 fault hparse =>
        by_cases hdigits : fault.cause = .tooManyDigits
        · rw [if_pos hdigits] at h
          cases h
          exact .digits hfind hsuffix hbytes hparse hdigits
        · rw [if_neg hdigits] at h
          cases h
      case h_2 => cases h
      case h_3 => cases h

/-- A configuration file breaks a run down exactly as said. -/
theorem readConfigFile_eq_breakdown_iff :
    readConfigFile files file = .error (.breakdown cause) ↔
      ConfigFileBreaks files (.ofText file) cause := by
  refine ⟨configFileBreaks_of_read, ?_⟩
  rintro (hfind | ⟨hfind, hsuffix, htext⟩ | ⟨hfind, hsuffix, htext, hparse, hdigits⟩)
  · unfold readConfigFile
    simp only [Files.pathExists_eq_error_iff.mpr ⟨hfind, rfl⟩]
    rfl
  · unfold readConfigFile
    simp only [Files.pathExists_of_find hfind, hsuffix,
      Files.readText_eq_undecodable_iff.mpr ⟨_, hfind, htext⟩]
    rfl
  · unfold readConfigFile
    simp only [Files.pathExists_of_find hfind, hsuffix,
      Files.readText_eq_ok_iff.mpr ⟨_, hfind, htext⟩, hparse, hdigits]
    rfl

theorem withCustom_eq_error_iff {values : Table Json} :
    withCustom values = .error cause ↔ CustomBreaks values cause := by
  unfold withCustom CustomBreaks
  cases hothers : values.filter (·.1 ∉ settingKeys) with
  | nil =>
    rw [List.filter_eq_nil_iff] at hothers
    refine iff_of_false (by simp) ?_
    rintro ⟨⟨entry, hentry, hkey⟩, -⟩
    exact hothers entry hentry (by simpa using hkey)
  | cons first rest =>
    have hfirst : ∃ entry ∈ values, entry.1 ∉ settingKeys := by
      have hmem : first ∈ values.filter (·.1 ∉ settingKeys) := hothers ▸ List.mem_cons_self
      rw [List.mem_filter] at hmem
      exact ⟨first, hmem.1, by simpa using hmem.2⟩
    dsimp only
    rw [Table.get?_filter (· ∈ settingKeys), if_pos (by decide), bind_eq_error_iff]
    simp [hfirst, pure, Except.pure]

theorem Settings.ofValues_eq_breakdown_iff {values : Table Json} :
    Settings.ofValues values = .error (.breakdown cause) ↔ CustomBreaks values cause := by
  rw [← withCustom_eq_error_iff]
  unfold Settings.ofValues
  cases withCustom values with
  | error cause' => simp
  | ok known => cases hread : Settings.read known <;> simp [hread]

theorem fileLayer_eq_breakdown_iff {file? : Option String} :
    (fileLayer files file?).1 = .error (.breakdown cause) ↔
      ∃ file, file? = some file ∧ file ≠ "" ∧ ConfigFileBreaks files (.ofText file) cause := by
  unfold fileLayer
  cases file? with
  | none => simp
  | some file =>
    by_cases hfile : file = ""
    · simp [hfile, Option.filter]
    · simp only [← readConfigFile_eq_breakdown_iff]
      cases hread : readConfigFile files file <;> simp [hfile, hread, Option.filter]

/-- Settings break a run down with their file, or with the custom settings among their values. -/
theorem Settings.load_eq_breakdown_iff {overrides : Table Json} {file? : Option String} :
    (Settings.load files "go" overrides file?).1 = .error (.breakdown cause) ↔
      Settings.LoadBreaks files overrides file? cause := by
  unfold Settings.load
  rcases hlayer : fileLayer files file? with ⟨failure | entries, log⟩
  · dsimp only
    have hfile : (fileLayer files file?).1 = .error (.breakdown cause) ↔ _ :=
      fileLayer_eq_breakdown_iff
    simp only [hlayer, Except.error.injEq] at hfile ⊢
    rw [hfile]
    constructor
    · rintro ⟨file, hgiven, hne, hbreaks⟩
      exact .file hgiven hne hbreaks
    · rintro (⟨hgiven, hne, hbreaks⟩ | ⟨hentries, -⟩)
      · exact ⟨_, hgiven, hne, hbreaks⟩
      · cases hlayer.symm.trans hentries
  · dsimp only
    rw [Settings.ofValues_eq_breakdown_iff]
    constructor
    · exact .custom hlayer
    · rintro (⟨hgiven, hne, hbreaks⟩ | ⟨hentries, hcustom⟩)
      · have hbroken := fileLayer_eq_breakdown_iff.mpr ⟨_, hgiven, hne, hbreaks⟩
        rw [hlayer] at hbroken
        cases hbroken
      · cases hlayer.symm.trans hentries
        exact hcustom

end

/-! ## Template directories -/

/-- Settings whose templates cannot be listed: there is a template directory with a null character in
its name. -/
inductive Settings.ListingBreaks (s : Settings) : Breakdown → Prop
  | directoryName : s.templateDir.isGiven = true →
    (∃ name ∈ (Path.ofText s.templateDir.plain).parts, '\x00' ∈ name.toList) →
      ListingBreaks s (.file ⟨.nullCharacter, (Path.ofText s.templateDir.plain).text⟩)

theorem checkName_directory_eq_error_iff {path : Path} {fault : FileFault} :
    (Shelf.directory path).checkName = .error fault ↔
      (∃ name ∈ path.parts, '\x00' ∈ name.toList) ∧ fault = ⟨.nullCharacter, path.text⟩ := by
  change (Files.checkCharacters path.parts).mapError _ = _ ↔ _
  simp [mapError_eq_error_iff, Files.checkCharacters_eq_error_iff, and_assoc, @eq_comm _ fault]

/-- The directory of the user alone decides whether templates can be listed. -/
theorem listing_eq_error_iff {settings : Settings} {files : Files} {fault : FileFault} :
    (Go.templateStore settings).listing files = .error fault ↔
      settings.ListingBreaks (.file fault) := by
  have hshelves : (Go.templateStore settings).listing files = .error fault ↔
      settings.templateDir.isGiven = true ∧
        (Shelf.directory (Path.ofText settings.templateDir.plain)).checkName = .error fault := by
    unfold TemplateStore.listing Go.templateStore Go.shelves
    rw [bind_eq_error_iff]
    by_cases hgiven : settings.templateDir.isGiven = true
    · simp [hgiven, bind_eq_error_iff, Shelf.checkName, pure, Except.pure]
    · simp [hgiven, Shelf.checkName, bind_eq_error_iff, pure, Except.pure]
  rw [hshelves, checkName_directory_eq_error_iff]
  constructor
  · rintro ⟨hgiven, hnull, rfl⟩
    exact .directoryName hgiven hnull
  · rintro (⟨hgiven, hnull⟩)
    exact ⟨hgiven, hnull, rfl⟩

/-! ## Schema sources -/

/-- A path whose schema file breaks a run down. -/
inductive SchemaFileBreaks (files : Files) (path : Path) : Breakdown → Prop
  | longName : files.find path = .error .nameTooLong →
    SchemaFileBreaks files path (.file ⟨.nameTooLong, path.text⟩)
  | bytes {content : Text.Bytes} {cause : Text.Undecodable} :
    files.find path = .ok (.file content) → Text.ofFile content = .error cause →
      SchemaFileBreaks files path (.undecodable cause)

/-- An address that cannot be read, or one with a scheme and a host from which a refusal comes
without a response. -/
inductive AddressBreaks (fetch : Fetch) (url : String) : Breakdown → Prop
  | unreadable : Url.read? url = none → AddressBreaks fetch url .wrongValue
  | noResponse {address : Url.Address} :
    Url.read? url = some address → address.scheme ≠ "" → address.host ≠ "" →
      fetch = .noResponse → AddressBreaks fetch url .noSuchPart

section

variable {files : Files} {fetch : Fetch} {file url : String} {cause : Breakdown}

theorem loadSchema_file (h : file ≠ "") : loadSchema files fetch file "" = loadFile files file := by
  unfold loadSchema
  split <;> simp_all

theorem loadSchema_url (h : url ≠ "") : loadSchema files fetch "" url = loadUrl fetch url := by
  unfold loadSchema
  split <;> simp_all

theorem schemaFileBreaks_of_load (h : (loadFile files file).1 = .error (.breakdown cause)) :
    SchemaFileBreaks files (.ofText file) cause := by
  unfold loadFile at h
  dsimp only at h
  split at h
  case h_1 fault hthere =>
    cases h
    obtain ⟨hfind, rfl⟩ := Files.pathExists_eq_error_iff.mp hthere
    exact .longName hfind
  case h_2 => cases h
  case h_3 =>
    split at h
    case h_1 => cases h
    case h_2 cause hread =>
      cases h
      obtain ⟨content, hfind, hbytes⟩ := Files.readText_eq_undecodable_iff.mp hread
      exact .bytes hfind hbytes
    case h_3 => cases h

/-- A schema file breaks a run down exactly as said. -/
theorem loadFile_eq_breakdown_iff :
    (loadFile files file).1 = .error (.breakdown cause) ↔
      SchemaFileBreaks files (.ofText file) cause := by
  refine ⟨schemaFileBreaks_of_load, ?_⟩
  rintro (hfind | ⟨hfind, hbytes⟩)
  · unfold loadFile
    simp only [Files.pathExists_eq_error_iff.mpr ⟨hfind, rfl⟩]
  · unfold loadFile
    simp only [Files.pathExists_of_find hfind,
      Files.readText_eq_undecodable_iff.mpr ⟨_, hfind, hbytes⟩]

theorem loadUrl_eq_breakdown_iff :
    (loadUrl fetch url).1 = .error (.breakdown cause) ↔ AddressBreaks fetch url cause := by
  constructor
  · intro h
    unfold loadUrl at h
    cases haddress : Url.read? url with
    | none =>
      simp only [haddress] at h
      cases h
      exact .unreadable haddress
    | some address =>
      simp only [haddress] at h
      split at h
      · cases h
      · rename_i hparts
        simp only [Bool.or_eq_true, decide_eq_true_eq, not_or] at hparts
        cases fetch with
        | noResponse =>
          cases h
          exact .noResponse haddress hparts.1 hparts.2 rfl
        | response code text =>
          dsimp only at h
          split at h <;> cases h
        | _ => cases h
  · rintro (haddress | ⟨haddress, hscheme, hhost, rfl⟩)
    · unfold loadUrl
      simp only [haddress]
    · unfold loadUrl
      simp [haddress, hscheme, hhost]

end

end ResolverGen
