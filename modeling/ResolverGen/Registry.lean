import ResolverGen.Generator
import ResolverGen.Settings.Layers
import ResolverGen.Text.Case

/-!
# Registry

Generator classes by language, and aliases of languages. Names are looked up in lower case. A refused
registration may leave the part of it that came before the refusal.
-/
namespace ResolverGen

/-- What someone tries to register. -/
inductive Candidate where
  | generator (c : GeneratorClass)
  /-- Anything that makes no generators. -/
  | other

inductive RegistryFault where
  | notGenerator
  | aliasIsLanguage (nickname : String)
  | aliasTaken (nickname target : String)
  | unknownLanguage (language : String) (known : List String)
  | configKind (kind : String)
  | config (language : String) (fault : ConfigFault)
deriving Repr

def RegistryFault.message : RegistryFault → String
  | notGenerator => "Generator class must inherit from CodeGenerator"
  | aliasIsLanguage nickname => "Alias '" ++ nickname ++ "' conflicts with existing primary language"
  | aliasTaken nickname target => "Alias '" ++ nickname ++ "' already points to '" ++ target ++ "'"
  | unknownLanguage language known =>
    "No generator registered for language: " ++ language ++ ". Available: " ++
      ", ".intercalate known
  | configKind kind => "Invalid config type: <class '" ++ kind ++ "'>"
  | config language fault =>
    "Failed to configure " ++ language ++ " generator: " ++ fault.message

structure Registry where
  generators : Table GeneratorClass := []
  aliases : Table String := []

namespace Registry

/-- The form in which names are looked up. -/
def key (name : String) : String := Text.onChars Text.lower name

/-- Whether an alias may be added for a language. -/
def checkAlias (r : Registry) (language nickname : String) : Except RegistryFault Unit :=
  if r.generators.has (key nickname) then .error (.aliasIsLanguage nickname)
  else match r.aliases.get? (key nickname) with
    | some target => if target = language then .ok () else .error (.aliasTaken nickname target)
    | none => .ok ()

/-- Aliases added one after another up to a refusal. -/
def addAliases (language : String) (replace : Bool) :
    List String → Registry → Registry × Except RegistryFault Unit
  | [], r => (r, .ok ())
  | nickname :: rest, r =>
    if key nickname = language then addAliases language replace rest r
    else
      match if replace then .ok () else r.checkAlias language nickname with
      | .error fault => (r, .error fault)
      | .ok () =>
        addAliases language replace rest { r with aliases := r.aliases.put (key nickname) language }

/-- Registers a class for a language. A language that is there already is kept, unless it is to be
replaced. -/
def register (r : Registry) (language : String) (candidate : Candidate) (aliases : List String)
    (replace : Bool) : Registry × Except RegistryFault Unit :=
  match candidate with
  | .other => (r, .error .notGenerator)
  | .generator c =>
    if r.generators.has (key language) && !replace then (r, .ok ())
    else
      addAliases (key language) replace aliases
        { r with generators := r.generators.put (key language) c }

/-- Names of the languages, in order. -/
def languages (r : Registry) : List String := TemplateStore.sorted r.generators.keys

/-- The language that a name or alias stands for. -/
def resolve (r : Registry) (name : String) : Except RegistryFault String :=
  if r.generators.has (key name) then .ok (key name)
  else match r.aliases.get? (key name) with
    | some language => .ok language
    | none => .error (.unknownLanguage name r.languages)

def supports (r : Registry) (name : String) : Bool :=
  r.generators.has (key name) || r.aliases.has (key name)

def aliasesOf (r : Registry) (name : String) : List String :=
  TemplateStore.sorted ((r.aliases.filter (·.2 = key name)).map (·.1))

/-- Why no generator is made. -/
inductive Refusal where
  | registry (fault : RegistryFault)
  | formatter (fault : FormatFault)
  /-- An alias that stands for no language. -/
  | dangling
  | breakdown (cause : Breakdown)

/-- The class for a name or alias. -/
def class? (r : Registry) (name : String) : Except Refusal GeneratorClass :=
  match r.resolve name with
  | .error fault => .error (.registry fault)
  | .ok language =>
    match r.generators.get? language with
    | some c => .ok c
    | none => .error .dangling

/-- What a generator is configured with. -/
inductive ConfigSource where
  | settings (s : Settings)
  | file (path : String)
  | overrides (values : Table Json)
  | nothing
  /-- A value of another kind. -/
  | unusable (kind : String)

/-- The source that a JSON value stands for. -/
def ConfigSource.ofJson : Json → ConfigSource
  | .null => nothing
  | .str path => file path
  | .obj values => overrides values
  | .bool _ => unusable "bool"
  | .int _ => unusable "int"
  | .float _ => unusable "float"
  | .arr _ => unusable "list"

/-- The settings that a source gives for a language, and the records of it. A refused configuration is
reported under the name that the language was asked for by. -/
def settingsFrom (files : Files) (name language : String) :
    ConfigSource → Except Refusal Settings × Log
  | .settings s => (.ok s, [])
  | .file path => refine (Settings.load files language [] (some path))
  | .overrides values => refine (Settings.load files language values none)
  | .nothing => refine (Settings.load files language [] none)
  | .unusable kind => (.error (.registry (.configKind kind)), [])
where
  refine : Except SettingsFailure Settings × Log → Except Refusal Settings × Log
    | (.ok s, log) => (.ok s, log)
    | (.error (.config fault), log) => (.error (.registry (.config name fault)), log)
    | (.error (.breakdown cause), log) => (.error (.breakdown cause), log)

/-- A generator for a name or alias. Its records follow those of its settings. -/
def create (r : Registry) (files : Files) (name : String) (source : ConfigSource) :
    Except Refusal Generator × Log :=
  match r.resolve name with
  | .error fault => (.error (.registry fault), [])
  | .ok language =>
    match r.generators.get? language with
    | none => (.error .dangling, [])
    | some c =>
      match settingsFrom files name language source with
      | (.error refusal, log) => (.error refusal, log)
      | (.ok settings, log) =>
        match c.make settings with
        | .error fault => (.error (.formatter fault), log)
        | .ok g =>
          let log := log ++ g.start.log
          (.ok { g with start := { g.start with log } }, log)

/-- What is told about a language. -/
structure LanguageInfo where
  language : String
  className : String
  fileExtension : String
  aliases : List String
  templates : List (TemplateScope × List String)

def info (r : Registry) (files : Files) (name : String) : Except Refusal LanguageInfo × Log :=
  match r.resolve name with
  | .error fault => (.error (.registry fault), [])
  | .ok language =>
    match r.create files language .nothing with
    | (.error refusal, log) => (.error refusal, log)
    | (.ok g, log) =>
      match g.store.listing files with
      | .error fault => (.error (.breakdown (.file fault)), log)
      | .ok templates =>
        (.ok
          { language := g.language
            className := g.className
            fileExtension := g.fileExtension
            aliases := r.aliasesOf language
            templates }, log)

/-- The registry of the built-in generators. -/
def builtin : Registry :=
  ((({} : Registry).register "go" (.generator Go.generatorClass) ["golang"] false)).1

end Registry

end ResolverGen
