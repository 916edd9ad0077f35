import ResolverGen.Failure.Breakdown
import ResolverGen.Settings.Reading
import ResolverGen.Log
import ResolverGen.Text.Basic
import ResolverGen.Text.Case

/-!
# Layers of settings

Settings are put together from the defaults of a language, a configuration file and overrides; of one
key the last layer counts. Keys that are no settings go to the custom ones.
-/
namespace ResolverGen

/-- Why settings cannot be put together. -/
inductive SettingsFailure where
  | config (fault : ConfigFault)
  | breakdown (cause : Breakdown)
deriving Repr

def settingKeys : List String :=
  ["package_name", "file_suffix", "template_dir", "formatter", "add_comments", "types", "scalars",
    "custom"]

/-- What languages set by default. -/
def languageDefaults : Table (Table Json) :=
  [("go",
    [("package_name", .str "resolvers"), ("file_suffix", .str "_gen"), ("formatter", .str "basic"),
      ("add_comments", .bool true)])]

def defaultsOf (language : String) : Table Json := (languageDefaults.get? language).getD []

/-- A value of a table that is written as a list: a pair, or anything with two parts. -/
def pairOf : Json → Except Breakdown (String × Json)
  | .arr [key, value] =>
    match key with
    | .arr _ | .obj _ => .error .wrongKind
    | key => .ok (key.plain, value)
  | .obj [first, second] => .ok (first.1, .str second.1)
  | .str s =>
    match s.toList with
    | [first, second] => .ok (first.toString, .str second.toString)
    | _ => .error .wrongValue
  | .arr _ | .obj _ => .error .wrongValue
  | _ => .error .wrongKind

/-- The entries of a value that is taken as a table. -/
def tableOf (raw : Json) : Except Breakdown (Table Json) :=
  if raw.isGiven then
    match raw with
    | .obj entries => .ok entries
    | .arr items => (items.mapM pairOf).map Table.ofEntries
    | .str _ => .error .wrongValue
    | _ => .error .wrongKind
  else .ok []

/-- The custom settings with the keys that are no settings put over them. -/
def withCustom (values : Table Json) : Except Breakdown (Table Json) :=
  let known : Table Json := values.filter (·.1 ∈ settingKeys)
  match values.filter (·.1 ∉ settingKeys) with
  | [] => .ok known
  | others => do
    let custom ← tableOf ((known.get? "custom").getD .null)
    return known.put "custom" (.obj (custom.overlay others))

/-- Settings out of values of which some may be no settings. -/
def Settings.ofValues (values : Table Json) : Except SettingsFailure Settings :=
  match withCustom values with
  | .error cause => .error (.breakdown cause)
  | .ok values => (Settings.read values).mapError .config

/-- The object in a configuration file. -/
def readConfigFile (files : Files) (file : String) : Except SettingsFailure (Table Json) := do
  let path := Path.ofText file
  match files.pathExists path with
  | .error fault => throw (.breakdown (.file fault))
  | .ok false => throw (.config (.fileMissing path.text))
  | .ok true =>
    if Text.onChars Text.lower path.suffix ≠ ".json" then
      throw (.config (.fileKind path.text))
    match files.readText path with
    | .error (.file fault) => throw (.config (.fileUnreadable path.text fault))
    | .error (.undecodable cause) => throw (.breakdown (.undecodable cause))
    | .ok text =>
      match Json.parse text with
      | .error fault =>
        -- a number that is too long breaks no rule of the syntax, and is not reported as if it did
        if fault.cause = .tooManyDigits then throw (.breakdown .wrongValue)
        throw (.config (.fileMalformed path.text fault))
      | .ok (.obj entries) => return entries
      | .ok _ => throw (.config (.fileNotObject path.text))

/-- The layer of a configuration file, with what is recorded of it. An empty name is no file. -/
def fileLayer (files : Files) (file? : Option String) :
    Except SettingsFailure (Table Json) × Log :=
  match file?.filter (· ≠ "") with
  | none => (.ok [], [])
  | some file =>
    match readConfigFile files file with
    | .ok entries => (.ok entries, [⟨.debug, "Loaded configuration file " ++ file⟩])
    | .error failure => (.error failure, [])

/-- The settings for a language with a configuration file and overrides, and the records of it. -/
def Settings.load (files : Files) (language : String) (overrides : Table Json)
    (file? : Option String) : Except SettingsFailure Settings × Log :=
  match fileLayer files file? with
  | (.error failure, log) => (.error failure, log)
  | (.ok layer, log) =>
    (Settings.ofValues (((defaultsOf language).overlay layer).overlay overrides), log)

end ResolverGen
