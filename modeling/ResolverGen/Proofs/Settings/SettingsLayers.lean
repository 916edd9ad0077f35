import ResolverGen.Proofs.Files.Questions
import ResolverGen.Proofs.Json.DistinctKeys
import ResolverGen.Proofs.Settings.ReadSettings
import ResolverGen.Proofs.Tables

/-!
# What layers of settings come to

A value of the settings is that of the uppermost layer that has its key: the overrides, the file,
the defaults of the language. Values below the keys are not merged. Only what is no setting is: such
entries of both layers are put over the custom settings, which are chosen like any other value.
-/
namespace ResolverGen

/-- There is a configuration file with this object. -/
structure Files.HoldsObject (files : Files) (file : String) (entries : Table Json) : Prop where
  file_ne : file ≠ ""
  kind : Text.onChars Text.lower (Path.ofText file).suffix = ".json"
  content : ∃ text, files.readText (.ofText file) = .ok text ∧ Json.parse text = .ok (.obj entries)

variable {files : Files} {file language : String} {layer overrides : Table Json}

theorem Files.HoldsObject.nodup_keys (h : files.HoldsObject file layer) : layer.keys.Nodup := by
  obtain ⟨text, -, hparse⟩ := h.content
  exact Json.nodup_keys_of_parse hparse

theorem Files.HoldsObject.readConfigFile_eq (h : files.HoldsObject file layer) :
    readConfigFile files file = .ok layer := by
  obtain ⟨text, htext, hparse⟩ := h.content
  obtain ⟨content, hfind, -⟩ := Files.readText_eq_ok_iff.mp htext
  simp [readConfigFile, Files.pathExists_of_find hfind, h.kind, htext, hparse, pure, Except.pure]

/-- A file counts as a layer of its own below the overrides. -/
theorem Settings.load_of_holdsObject (h : files.HoldsObject file layer) :
    (Settings.load files language overrides (some file)).1 =
      Settings.ofValues (((defaultsOf language).overlay layer).overlay overrides) := by
  simp [Settings.load, fileLayer, Option.filter, h.file_ne, h.readConfigFile_eq]

theorem Settings.load_without_file :
    (Settings.load files language overrides none).1 =
      Settings.ofValues ((defaultsOf language).overlay overrides) := rfl

/-! ## Entries that are no settings -/

def knownEntries (values : Table Json) : Table Json := values.filter (·.1 ∈ settingKeys)

def furtherEntries (values : Table Json) : Table Json := values.filter (·.1 ∉ settingKeys)

/-- Custom settings are an object, null or absent. -/
def HasPlainCustom (values : Table Json) : Prop :=
  ∀ custom, values.get? "custom" = some custom → custom = .null ∨ ∃ entries, custom = .obj entries

/-- The entries of an object; of nothing and of null none. -/
def plainEntries : Option Json → Table Json
  | some (.obj entries) => entries
  | _ => []

theorem tableOf_plain {custom? : Option Json}
    (h : ∀ custom, custom? = some custom → custom = .null ∨ ∃ entries, custom = .obj entries) :
    tableOf (custom?.getD .null) = .ok (plainEntries custom?) := by
  cases custom? with
  | none => rfl
  | some custom =>
    rcases h custom rfl with rfl | ⟨entries, rfl⟩
    · rfl
    · cases entries <;> rfl

section

variable {values : Table Json}

theorem get?_knownEntries {key : String} (hkey : key ∈ settingKeys) :
    (knownEntries values).get? key = values.get? key := by
  rw [knownEntries, Table.get?_filter (· ∈ settingKeys), if_pos (decide_eq_true hkey)]

theorem withCustom_of_settings (h : furtherEntries values = []) :
    withCustom values = .ok (knownEntries values) := by
  rw [furtherEntries] at h
  rw [withCustom, h]
  rfl

/-- The custom settings with the further entries of the same values over them. -/
def gatheredCustom (values : Table Json) : Table Json :=
  (plainEntries (values.get? "custom")).overlay (furtherEntries values)

theorem withCustom_of_further (h : furtherEntries values ≠ []) (hcustom : HasPlainCustom values) :
    withCustom values =
      .ok ((knownEntries values).put "custom" (.obj (gatheredCustom values))) := by
  obtain ⟨entry, rest, hfurther⟩ := List.exists_cons_of_ne_nil h
  have hentries : tableOf (((knownEntries values).get? "custom").getD .null) =
      .ok (plainEntries (values.get? "custom")) := by
    rw [get?_knownEntries (by simp [settingKeys])]
    exact tableOf_plain hcustom
  rw [gatheredCustom, hfurther]
  rw [knownEntries] at hentries ⊢
  rw [furtherEntries] at hfurther
  rw [withCustom, hfurther]
  dsimp only
  rw [hentries]
  rfl

/-- The value of each setting once the further entries are gathered. -/
def gatheredValue? (values : Table Json) (key : String) : Option Json :=
  if key = "custom" ∧ furtherEntries values ≠ [] then some (.obj (gatheredCustom values))
  else values.get? key

theorem withCustom_eq (hcustom : HasPlainCustom values) :
    ∃ known, withCustom values = .ok known ∧
      ∀ key ∈ settingKeys, known.get? key = gatheredValue? values key := by
  by_cases hfurther : furtherEntries values = []
  · exists knownEntries values, withCustom_of_settings hfurther
    intro key hkey
    simp [gatheredValue?, hfurther, get?_knownEntries hkey]
  · exists _, withCustom_of_further hfurther hcustom
    intro key hkey
    rw [Table.get?_put, get?_knownEntries hkey, gatheredValue?]
    simp [hfurther, @eq_comm _ key]

end

/-! ## Layers -/

/-- The value that the uppermost layer with a key has for it. -/
def layeredValue? (language : String) (layer overrides : Table Json) (key : String) :
    Option Json :=
  (overrides.get? key).or ((layer.get? key).or ((defaultsOf language).get? key))

/-- The custom settings with the further entries of both layers over them. -/
def layeredCustom (language : String) (layer overrides : Table Json) : Table Json :=
  ((plainEntries (layeredValue? language layer overrides "custom")).overlay
    (furtherEntries layer)).overlay (furtherEntries overrides)

/-- The value of each setting: that of the uppermost layer, but for custom settings if there are
further entries. -/
def settingValue? (language : String) (layer overrides : Table Json) (key : String) :
    Option Json :=
  if key = "custom" ∧ (furtherEntries layer ≠ [] ∨ furtherEntries overrides ≠ []) then
    some (.obj (layeredCustom language layer overrides))
  else layeredValue? language layer overrides key

/-- The layers put over the defaults of a language. -/
def mergedLayers (language : String) (layer overrides : Table Json) : Table Json :=
  ((defaultsOf language).overlay layer).overlay overrides

theorem defaultsOf_of_ne (h : "go" ≠ language) : defaultsOf language = [] := by
  simp [defaultsOf, languageDefaults, Table.get?, h]

/-- Languages set no custom settings, and nothing that is no setting. -/
theorem furtherEntries_defaultsOf (language : String) :
    furtherEntries (defaultsOf language) = [] := by
  by_cases h : "go" = language
  · subst h
    decide
  · rw [defaultsOf_of_ne h]
    rfl

theorem get?_custom_defaultsOf (language : String) :
    (defaultsOf language).get? "custom" = none := by
  by_cases h : "go" = language
  · subst h
    decide
  · rw [defaultsOf_of_ne h]
    rfl

theorem nodup_keys_furtherEntries {values : Table Json} (h : values.keys.Nodup) :
    (furtherEntries values).keys.Nodup := Table.nodup_keys_filter h _

theorem get?_furtherEntries (values : Table Json) (key : String) :
    (furtherEntries values).get? key = if key ∈ settingKeys then none else values.get? key := by
  rw [furtherEntries, Table.get?_filter (· ∉ settingKeys)]
  by_cases hkey : key ∈ settingKeys <;> simp [hkey]

theorem furtherEntries_mergedLayers (hlayer : layer.keys.Nodup) :
    furtherEntries (mergedLayers language layer overrides) =
      (furtherEntries layer).overlay (furtherEntries overrides) := by
  have hoverlay : ∀ lower upper : Table Json, furtherEntries (lower.overlay upper) =
      (furtherEntries lower).overlay (furtherEntries upper) :=
    Table.filter_overlay (· ∉ settingKeys)
  rw [mergedLayers, hoverlay, hoverlay, furtherEntries_defaultsOf,
    Table.overlay_nil_left (nodup_keys_furtherEntries hlayer)]

section

variable (hlayer : layer.keys.Nodup) (hoverrides : overrides.keys.Nodup)

include hlayer hoverrides

theorem get?_mergedLayers (key : String) :
    (mergedLayers language layer overrides).get? key =
      layeredValue? language layer overrides key := by
  rw [mergedLayers, Table.get?_overlay hoverrides, Table.get?_overlay hlayer]
  rfl

theorem hasPlainCustom_mergedLayers (hplain : HasPlainCustom layer)
    (hplain' : HasPlainCustom overrides) :
    HasPlainCustom (mergedLayers language layer overrides) := by
  intro custom hcustom
  rw [get?_mergedLayers hlayer hoverrides, layeredValue?, get?_custom_defaultsOf, Option.or_none,
    Option.or_eq_some_iff] at hcustom
  rcases hcustom with hcustom | ⟨-, hcustom⟩
  · exact hplain' custom hcustom
  · exact hplain custom hcustom

theorem gatheredCustom_mergedLayers :
    gatheredCustom (mergedLayers language layer overrides) =
      layeredCustom language layer overrides := by
  rw [gatheredCustom, get?_mergedLayers hlayer hoverrides, furtherEntries_mergedLayers hlayer,
    layeredCustom, Table.overlay_overlay (nodup_keys_furtherEntries hlayer)]

theorem gatheredValue?_mergedLayers (key : String) :
    gatheredValue? (mergedLayers language layer overrides) key =
      settingValue? language layer overrides key := by
  rw [gatheredValue?, settingValue?, gatheredCustom_mergedLayers hlayer hoverrides,
    get?_mergedLayers hlayer hoverrides, furtherEntries_mergedLayers hlayer]
  simp only [ne_eq, Table.overlay_eq_nil_iff, not_and_or]

/-- Of a key that is no setting, the custom settings hold what the uppermost layer with it does. -/
theorem get?_layeredCustom (key : String) :
    (layeredCustom language layer overrides).get? key =
      if key ∈ settingKeys then
        (plainEntries (layeredValue? language layer overrides "custom")).get? key
      else (overrides.get? key).or ((layer.get? key).or
        ((plainEntries (layeredValue? language layer overrides "custom")).get? key)) := by
  rw [layeredCustom, Table.get?_overlay (nodup_keys_furtherEntries hoverrides),
    Table.get?_overlay (nodup_keys_furtherEntries hlayer), get?_furtherEntries,
    get?_furtherEntries]
  split <;> rfl

theorem Settings.ofValues_mergedLayers (hplain : HasPlainCustom layer)
    (hplain' : HasPlainCustom overrides) :
    ∃ known : Table Json,
      Settings.ofValues (mergedLayers language layer overrides) =
        (Settings.read known).mapError .config ∧
      ∀ key ∈ settingKeys, known.get? key = settingValue? language layer overrides key := by
  obtain ⟨known, hknown, hvalues⟩ :=
    withCustom_eq (hasPlainCustom_mergedLayers hlayer hoverrides hplain hplain')
  exists known
  constructor
  · rw [Settings.ofValues, hknown]
  · intro key hkey
    rw [hvalues key hkey, gatheredValue?_mergedLayers hlayer hoverrides]

end

/-- Settings from a file with overrides are those of the file's object with the overrides put over
it, and hold what the uppermost layer with a key has for it. Custom settings are an object with the
further entries over them if there are any. Nothing but types and scalars is refused. -/
theorem Settings.load_layers (language : String) (hfile : files.HoldsObject file layer)
    (hoverrides : overrides.keys.Nodup) (hplain : HasPlainCustom layer)
    (hplain' : HasPlainCustom overrides) :
    (Settings.load files language overrides (some file)).1 =
        (Settings.load files language (layer.overlay overrides) none).1 ∧
      (∀ s, (Settings.load files language overrides (some file)).1 = .ok s ↔
        s.HasValues (settingValue? language layer overrides)) ∧
      (∀ failure, (Settings.load files language overrides (some file)).1 = .error failure ↔
        ∃ fault, failure = .config fault ∧
          IsRefusedFor (settingValue? language layer overrides) fault) ∧
      ∀ key, (layeredCustom language layer overrides).get? key =
        if key ∈ settingKeys then
          (plainEntries (layeredValue? language layer overrides "custom")).get? key
        else (overrides.get? key).or ((layer.get? key).or
          ((plainEntries (layeredValue? language layer overrides "custom")).get? key)) := by
  have hlayer : layer.keys.Nodup := hfile.nodup_keys
  obtain ⟨known, hread, hvalues⟩ :=
    Settings.ofValues_mergedLayers hlayer hoverrides hplain hplain'
  have hload : (Settings.load files language overrides (some file)).1 =
      (Settings.read known).mapError .config := (Settings.load_of_holdsObject hfile).trans hread
  refine ⟨?_, ?_, ?_, get?_layeredCustom hlayer hoverrides⟩
  · rw [load_of_holdsObject hfile, Settings.load_without_file, Table.overlay_overlay hlayer]
  · intro s
    rw [hload, mapError_eq_ok_iff, Settings.read_eq_ok_iff, Settings.hasValues_congr hvalues]
  · intro failure
    rw [hload, mapError_eq_error_iff]
    simp only [read_eq_error_iff, isRefusedFor_congr hvalues, and_comm, @eq_comm _ failure]

def blogText : String :=
  "\x7b\"custom\": \x7b\"owner\": \"blog\", \"team\": \"a\"\x7d, \"owner\": \"core\"\x7d"

def blogLayer : Table Json :=
  [("custom", .obj [("owner", .str "blog"), ("team", .str "a")]), ("owner", .str "core")]

def blogOverrides : Table Json := [("team", .str "b"), ("package_name", .str "api")]

/-- A file with custom settings and an entry that is none of the settings. -/
def blogFiles : Files := ⟨[(["c.json"], .file (Text.toFile blogText))]⟩

theorem parse_blogText : Json.parse blogText = .ok (.obj blogLayer) := by
  simp +decide [blogText, blogLayer, Json.parse, Json.document, Json.value, Json.members,
    Json.string, Json.stringBody, Json.skipSpace, Json.isSpace, bind, Except.bind, pure,
    Except.pure, Table.put, Except.mapError]

theorem blogFiles_holdsObject : blogFiles.HoldsObject "c.json" blogLayer where
  file_ne := by decide
  kind := by decide +kernel
  content := ⟨blogText, by decide +kernel, parse_blogText⟩

/-- Overrides win over the file, and both over what its custom settings hold. -/
theorem Settings.load_blogFiles :
    (Settings.load blogFiles "go" blogOverrides (some "c.json")).1 =
        (Settings.load blogFiles "go" (blogLayer.overlay blogOverrides) none).1 ∧
      ∃ s, (Settings.load blogFiles "go" blogOverrides (some "c.json")).1 = .ok s ∧
        s.packageName = .str "api" ∧ s.fileSuffix = .str "_gen" ∧
        s.custom = .obj [("owner", .str "core"), ("team", .str "b")] := by
  have hcustom : HasPlainCustom blogLayer := by
    rintro _ ⟨⟩
    exact Or.inr ⟨_, rfl⟩
  have hcustom' : HasPlainCustom blogOverrides := by
    rintro _ ⟨⟩
  have hkeys : blogOverrides.keys.Nodup := by decide
  obtain ⟨hsame, hok, -, -⟩ :=
    Settings.load_layers "go" blogFiles_holdsObject hkeys hcustom hcustom'
  have hvalues : Settings.HasValues
      { packageName := .str "api", custom := .obj [("owner", .str "core"), ("team", .str "b")] }
      (settingValue? "go" blogLayer blogOverrides) := by
    constructor <;>
      simp [settingValue?, layeredValue?, layeredCustom, furtherEntries, settingKeys, blogLayer,
        blogOverrides, defaultsOf, languageDefaults, Table.get?, plainEntries, Table.overlay,
        Table.put, readTypes, readScalars, Json.isGiven]
  exact ⟨hsame, _, (hok _).mpr hvalues, rfl, rfl, rfl⟩

end ResolverGen
