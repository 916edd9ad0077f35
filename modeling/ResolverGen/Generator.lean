import ResolverGen.Go.Generator
import ResolverGen.Settings.Validation

/-!
# Generators

What all generators have in common, and the outcome of a run on a schema text: either files with
warnings and facts about the run, or the error that ended it.
-/
namespace ResolverGen

/-- What a run can look at besides the schema. -/
structure Surface where
  files : Files := {}
  programs : Programs := []

/-- A generator for a language under its settings. -/
structure Generator where
  /-- Name of the class it belongs to. -/
  className : String
  language : String
  fileExtension : String
  settings : Settings
  store : TemplateStore
  /-- The state before anything is rendered. -/
  start : RunState
  generate : Surface → Schema → Run (Table String)

/-- A way to make generators out of settings. -/
structure GeneratorClass where
  name : String
  make : Settings → Except FormatFault Generator

/-- Facts about a run. -/
structure RunFacts where
  language : String
  fileExtension : String
  typeCount : Nat
  fileCount : Nat
  queryType? : Option String
deriving DecidableEq, Repr

inductive RunOutcome where
  | success (files : Table String) (warnings : List SettingsWarning) (facts : RunFacts)
  | failure (error : GenerationError)
deriving Repr

/-- What is said of a run that failed. -/
def GenerationError.runText (e : GenerationError) : String :=
  "Code generation failed: " ++ e.message

/-- Warnings about configured types that a schema does not define. -/
def undefinedTypes (settings : Settings) (schema : Schema) : List SettingsWarning :=
  (settings.types.keys.filter fun name => (schema.type? name).isNone).map .undefinedType

namespace Generator

/-- The files for a schema text. -/
def generateText (g : Generator) (surface : Surface) (text : String) :
    Run (Schema × Table String) := do
  let schema ← (parseSchema text : Except Failure Schema)
  return (schema, ← g.generate surface schema)

/-- A run on a schema text. Errors become its outcome; breakdowns do not. -/
def outcome (g : Generator) (surface : Surface) (text : String) :
    ExceptT Breakdown (StateM RunState) RunOutcome := fun s =>
  match g.generateText surface text s with
  | (.error (.generation error), s) => (.ok (.failure error), s)
  | (.error (.breakdown cause), s) => (.error cause, s)
  | (.ok (schema, files), s) =>
    match g.settings.warnings surface.files g.language with
    | .error cause => (.error cause, s)
    | .ok warnings =>
      (.ok (.success files (warnings ++ undefinedTypes g.settings schema)
        { language := g.language
          fileExtension := g.fileExtension
          typeCount := schema.size
          fileCount := files.length
          queryType? := schema.query? }), s)

end Generator

namespace Go

/-- A Go generator as one among others. -/
def Generator.toGenerator (g : Generator) (className : String) (log : Log) :
    ResolverGen.Generator where
  className
  language := language
  fileExtension := fileExtension
  settings := g.settings
  store := g.store
  start := Generator.initialState log
  generate surface schema := g.generate surface.files surface.programs schema

/-- A class of Go generators. -/
def classNamed (name : String) : GeneratorClass where
  name
  make settings := do
    let (g, log) ← Generator.ofSettings settings
    return g.toGenerator name log

def generatorClass : GeneratorClass := classNamed "GoGenerator"

end Go

end ResolverGen
