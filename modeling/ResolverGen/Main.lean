import ResolverGen.CommandLine.Terminal

/-!
# Program

The program on a real file system. What a command line refers to is read first, the run itself is
pure, and then what it wrote is written and what it showed is printed.
-/
namespace ResolverGen.Main

open CommandLine

/-- The path of a place on the system. -/
def systemPath : Place → String
  | "/" :: names => "/" ++ "/".intercalate names
  | names => "/".intercalate names

/-- Reads what stands at a place, and with `deep` all that is below it. -/
partial def survey (deep : Bool) (files : Files) (place : Place) : IO Files := do
  let path := (← IO.currentDir) / systemPath place
  if ← path.isDir then
    let files := if Files.isBase place then files else files.establish place .directory
    if deep then
      (← path.readDir).foldlM (fun files entry => survey deep files (place ++ [entry.fileName])) files
    else
      return files
  else if ← path.pathExists then
    return files.establish place (.file (← IO.FS.readBinFile path).toList)
  else
    return files

/-- The places that a path passes. -/
def placesOf (p : Path) : List Place :=
  (p.parts.foldl (fun (place, passed) name =>
    let next := if name = ".." then Files.above place else place ++ [name]
    (next, passed ++ [next])) (Files.start p, ([] : List Place))).2

/-- Reads what a path leads to, and with `deep` all that is below its end. -/
def surveyPath (deep : Bool) (files : Files) (text : String) : IO Files := do
  let places := placesOf (.ofText text)
  let files ← places.foldlM (survey false) files
  match places.getLast? with
  | some last => if deep then survey true files last else return files
  | none => if deep then survey true files [] else return files

/-- The template directory that a configuration file names. -/
def configuredDirectory (files : Files) (o : Options) : Option String := do
  let entries ← (readConfigFile files (← given? o.config?)).toOption
  match Json.entryOrNull entries "template_dir" with
  | .str path => some path
  | _ => none

/-- The files that a run under given options can look at. -/
def surveyFor (o : Options) : IO Files := do
  let files ← (o.schema?.toList ++ o.config?.toList ++ o.outputDir?.toList).foldlM
    (surveyPath false) {}
  (o.templateDir?.toList ++ (configuredDirectory files o).toList).foldlM (surveyPath true) files

/-- Writes what a run changed. -/
def commit (files earlier : Files) : IO Unit :=
  files.nodes.forM fun (place, node) => do
    unless earlier.nodes.lookup place = some node do
      let path := (← IO.currentDir) / systemPath place
      match node with
      | .directory => IO.FS.createDirAll path
      | .file content => IO.FS.writeBinFile path ⟨content.toArray⟩

/-- What there is to work with on a command line. -/
def worldFor (arguments : List String) : IO World := do
  match Options.parse arguments with
  | .error _ => return {}
  | .ok o =>
    let standardInput ← if o.fromStdin then (← IO.getStdin).readToEnd else pure ""
    return { files := ← surveyFor o, standardInput }

/-- Prints what a run came to; the exit code. -/
def conclude (ending : Ending) : IO UInt32 := do
  match ending with
  | .exit code => return UInt32.ofNat code
  | .usage complaint =>
    IO.eprintln complaint
    return 2
  | .version text =>
    IO.println text
    return 0
  | .help =>
    IO.println (programName ++ ": " ++ ", ".intercalate (namedOptions.map (·.1)))
    return 0
  | .breakdown _ =>
    IO.eprintln (programName ++ ": a setting or file cannot be used")
    return 1

/-- A run of the program on the system. -/
def run (arguments : List String) : IO UInt32 := do
  let world ← worldFor arguments
  let (ending, session) := CommandLine.run world arguments
  commit session.files world.files
  for record in session.log do
    IO.eprintln record.line
  for line in session.displays.flatMap Display.lines do
    IO.println line
  conclude ending

end ResolverGen.Main

def main (arguments : List String) : IO UInt32 := ResolverGen.Main.run arguments
