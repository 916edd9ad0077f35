import ResolverGen.Artifacts
import ResolverGen.CommandLine.Options
import ResolverGen.Registry
import ResolverGen.SchemaSource

/-!
# Command

What the program does with a command line: it lists what there is, or generates files for a schema
and writes or shows them. What it shows is a list of displays, whose texts may hold markup. The
console reads it, and a text that it cannot read breaks the program down.
-/
namespace ResolverGen.CommandLine

/-- Something shown on the console. -/
inductive Display where
  | line (markup : String)
  | blank
  | status (text : String)
  | panel (title code : String)
  | table (title : String) (headers : List String) (rows : List (List String))
deriving DecidableEq, Repr

/-- The texts of a display that are read as markup. -/
def Display.markups : Display → List String
  | line markup => [markup]
  | blank => []
  | status text => [text]
  | panel title _ => [title]
  | table title headers rows => title :: (headers ++ rows.flatten)

/-- What displays are shown on. -/
structure Console where
  /-- Whether a text cannot be read as markup, as with a closing tag that has nothing to close. -/
  refuses : String → Bool := fun _ => false

def Console.rejects (console : Console) (d : Display) : Bool := d.markups.any console.refuses

/-- What the program works with. -/
structure World where
  files : Files := {}
  programs : Programs := []
  fetch : Fetch := .noConnection "no network"
  standardInput : String := ""
  console : Console := {}

/-- What has been shown, recorded and written so far. -/
structure Session where
  displays : List Display := []
  log : Log := []
  files : Files

/-- Why the work ends early. -/
inductive Interruption where
  /-- An error that is reported to the user. -/
  | reported (text : String)
  | breakdown (cause : Breakdown)

abbrev Work := ExceptT Interruption (StateM Session)

namespace Work

/-- Shows displays one by one, up to one that the console rejects. -/
def showing (console : Console) : List Display → Work Unit
  | [] => pure ()
  | d :: rest => do
    if console.rejects d then
      throw (.breakdown .markup)
    modify fun s => { s with displays := s.displays ++ [d] }
    showing console rest

def record (log : Log) : Work Unit := modify fun s => { s with log := s.log ++ log }

def report {α : Type} (text : String) : Work α := throw (.reported text)

end Work

/-! ## Markup -/

def red (text : String) : String := "[red]" ++ text ++ "[/red]"

def dim (text : String) : String := "[dim]" ++ text ++ "[/dim]"

def errorLine (text : String) : Display := .line (red "✗ Error:" ++ " " ++ text)

def orNone (names : List String) : String :=
  match ", ".intercalate names with
  | "" => dim "none"
  | text => text

/-! ## Listing -/

def refusalText : Registry.Refusal → Except Interruption String
  | .registry fault => .ok fault.message
  | .formatter fault => .ok fault.message
  | .dangling => .error (.breakdown .noSuchPart)
  | .breakdown cause => .error (.breakdown cause)

/-- A generator for a language; a refusal is reported. -/
def makeGenerator (registry : Registry) (files : Files) (language : String) (settings : Settings) :
    Work Generator := do
  let (made, log) := registry.create files language (.settings settings)
  Work.record log
  match made with
  | .ok g => return g
  | .error refusal => Work.report (← (refusalText refusal : Except Interruption String))

/-- A row about a language. -/
def languageRow (registry : Registry) (files : Files) (language : String) : Work (List String) := do
  let (info, log) := registry.info files language
  Work.record log
  match info with
  | .ok info =>
    return ["🔧 " ++ language, info.fileExtension, info.className, orNone info.aliases]
  | .error _ => throw (.breakdown .wrongValue)

def listLanguages (registry : Registry) (files : Files) (console : Console) : Work Nat := do
  let rows ← registry.languages.mapM (languageRow registry files)
  Work.showing console
    [.blank,
      .table "📋 Supported Languages" ["Language", "Extension", "Generator Class", "Aliases"] rows,
      .blank]
  return 0

def listTemplates (registry : Registry) (files : Files) (console : Console) (language : String)
    (settings : Settings) : Work Nat := do
  let g ← makeGenerator registry files language settings
  match g.store.listing files with
  | .error fault => throw (.breakdown (.file fault))
  | .ok listed =>
    let rows := listed.map fun (scope, variants) => [scope.label, orNone variants]
    Work.showing console [.table ("🧩 " ++ language ++ " templates") ["Scope", "Variants"] rows]
    return 0

/-! ## Settings and schema -/

/-- A text that is given and not empty. -/
def given? (text? : Option String) : Option String := text?.filter (· ≠ "")

/-- The settings that options override. -/
def overrides (o : Options) : Table Json :=
  ((given? o.packageName?).map fun name => ("package_name", Json.str name)).toList ++
    ((given? o.templateDir?).map fun path => ("template_dir", Json.str path)).toList ++
    ((given? o.formatter?).map fun name => ("formatter", Json.str name)).toList ++
    (if o.noComments then [("add_comments", Json.bool false)] else [])

def settingsFor (registry : Registry) (files : Files) (o : Options) : Work Settings := do
  match registry.resolve o.language with
  | .error _ => throw (.breakdown .wrongValue)
  | .ok language =>
    let (settings, log) := Settings.load files language (overrides o) o.config?
    Work.record log
    match settings with
    | .ok settings => return settings
    | .error (.config fault) => Work.report ("Configuration error: " ++ fault.message)
    | .error (.breakdown cause) => throw (.breakdown cause)

def schemaText (world : World) (o : Options) : Work String := do
  let loading? : Option Loading :=
    match given? o.schema?, given? o.url? with
    | some file, _ => some (loadSchema world.files world.fetch file "")
    | none, some url => some (loadSchema world.files world.fetch "" url)
    | none, none => none
  match loading? with
  | none =>
    if o.fromStdin then return world.standardInput
    else Work.report "Input source required (schema file, --url, or --stdin)"
  | some (loaded, log) =>
    Work.record log
    match loaded with
    | .ok loaded => return loaded.text
    | .error (.source fault) => Work.report ("Failed to load schema: " ++ fault.message)
    | .error (.fileMissing path) =>
      Work.report ("Failed to load schema: " ++ missingText path)
    | .error (.breakdown cause) => throw (.breakdown cause)

/-! ## Generating -/

/-- Facts about a run by their titles. -/
def factRows (facts : RunFacts) : List (List String) :=
  [["Language", facts.language], ["File Extension", facts.fileExtension],
    ["Type Count", toString facts.typeCount], ["File Count", toString facts.fileCount],
    ["Query Type", facts.queryType?.getD (String.ofList Json.nullText)]]

/-- Writes the files into the directory that was asked for, or shows them. -/
def deliver (console : Console) (o : Options) (artifacts : Table String) : Work Unit := do
  match given? o.outputDir? with
  | none => Work.showing console (artifacts.map fun (name, code) => .panel ("📄 " ++ name) code)
  | some directory =>
    let s ← get
    let (writing, result) := writeArtifacts s.files artifacts directory
    modify fun s => { s with files := writing.files, log := s.log ++ writing.log }
    match result with
    | .ok () =>
      Work.showing console
        [.line ("[green]✓[/green] Wrote " ++ toString writing.written.length ++ " file(s) to [cyan]" ++
          (Path.ofText directory).text ++ "[/cyan]")]
    | .error fault =>
      if fault.cause = .nullCharacter then
        throw (.breakdown (.file fault))
      Work.report ("Failed to write to " ++ directory ++ ": " ++ fault.message)

def warningDisplays (warnings : List SettingsWarning) : List Display :=
  if warnings.isEmpty then []
  else
    .line "\n[yellow]⚠️  Warnings:[/yellow]" ::
      warnings.map fun w => .line ("  [yellow]•[/yellow] " ++ w.message)

def generate (registry : Registry) (world : World) (o : Options) (settings : Settings)
    (text : String) : Work Nat := do
  let g ← makeGenerator registry world.files o.language settings
  Work.showing world.console [.status ("[green]Generating " ++ o.language ++ " code...")]
  let surface : Surface := { files := world.files, programs := world.programs }
  let (outcome, state) := (g.outcome surface text).run { g.start with log := [] }
  Work.record state.log
  match outcome with
  | .error cause => throw (.breakdown cause)
  | .ok (.failure error) =>
    Work.showing world.console [.line (red ("✗ " ++ error.runText))]
    return 1
  | .ok (.success artifacts warnings facts) =>
    deliver world.console o artifacts
    if o.verbose then
      Work.showing world.console
        [.blank, .table "📊 Generation Metadata" ["Property", "Value"] (factRows facts)]
    Work.showing world.console (warningDisplays warnings)
    return 0

/-- What the options ask for; the exit code. -/
def perform (registry : Registry) (world : World) (o : Options) : Work Nat := do
  if o.listLanguages then
    listLanguages registry world.files world.console
  else if !registry.supports o.language then
    Work.showing world.console
      [.line (red ("✗ Unsupported language '" ++ o.language ++ "'")),
        .line (dim ("Supported languages: " ++ ", ".intercalate registry.languages))]
    return 1
  else
    let settings ← settingsFor registry world.files o
    if o.listTemplates then
      listTemplates registry world.files world.console o.language settings
    else
      let text ← schemaText world o
      generate registry world o settings text

/-- How a run of the program ends. -/
inductive Ending where
  | exit (code : Nat)
  /-- The command line cannot be read; the text is the last line of the complaint. -/
  | usage (complaint : String)
  /-- The program tells its version. -/
  | version (text : String)
  | help
  | breakdown (cause : Breakdown)
deriving DecidableEq, Repr

def programName : String := "graphql-codegen"

def programVersion : String := "0.1.0"

/-- The lowest rank of the records that are kept at a level. -/
def threshold (level : String) : Nat := (LogLevel.thresholds.lookup level).getD 30

/-- A run under given options. -/
def runWith (registry : Registry) (world : World) (o : Options) : Ending × Session :=
  let (result, s) := (perform registry world o).run { files := world.files }
  let (ending, s) : Ending × Session :=
    match result with
    | .ok code => (.exit code, s)
    | .error (.reported text) =>
      if world.console.rejects (errorLine text) then (.breakdown .markup, s)
      else
        (.exit 1,
          { s with
            displays := s.displays ++ [errorLine text]
            log := s.log ++ [⟨.debug, "CLI error"⟩] })
    | .error (.breakdown cause) => (.breakdown cause, s)
  (ending, { s with log := s.log.atLeast (threshold o.logLevel) })

/-- A run of the program on a command line. -/
def run (world : World) (arguments : List String) : Ending × Session :=
  match Options.parse arguments with
  | .ok o => runWith .builtin world o
  | .error (.usage fault) =>
    (.usage (programName ++ ": error: " ++ fault.message), { files := world.files })
  | .error .version =>
    (.version (programName ++ " " ++ programVersion), { files := world.files })
  | .error .help => (.help, { files := world.files })

end ResolverGen.CommandLine
