import ResolverGen.Table
import ResolverGen.Text.Quoted

/-!
# Command line options

The options of the program and the reading of a command line. Options may be shortened as long as
they stay unambiguous, and a value may follow in the same argument. One argument that is no option
names the schema file.
-/
namespace ResolverGen.CommandLine

inductive Key where
  | help
  | version
  | logLevel
  | url
  | stdin
  | language
  | outputDir
  | config
  | packageName
  | templateDir
  | formatter
  | noComments
  | verbose
  | listLanguages
  | listTemplates
deriving DecidableEq, Repr

structure Opt where
  key : Key
  names : List String
  takesValue : Bool := false
  /-- What the value may be; anything if nothing is listed. -/
  choices : List String := []
deriving DecidableEq, Repr

def options : List Opt :=
  [{ key := .help, names := ["-h", "--help"] },
    { key := .version, names := ["--version"] },
    { key := .logLevel, names := ["--log-level"], takesValue := true
      choices := ["DEBUG", "INFO", "WARNING", "ERROR"] },
    { key := .url, names := ["--url"], takesValue := true },
    { key := .stdin, names := ["--stdin"] },
    { key := .language, names := ["--language", "-l"], takesValue := true },
    { key := .outputDir, names := ["--output-dir", "-o"], takesValue := true },
    { key := .config, names := ["--config"], takesValue := true },
    { key := .packageName, names := ["--package-name", "--package"], takesValue := true },
    { key := .templateDir, names := ["--template-dir"], takesValue := true },
    { key := .formatter, names := ["--formatter"], takesValue := true
      choices := ["basic", "gofmt", "none"] },
    { key := .noComments, names := ["--no-comments"] },
    { key := .verbose, names := ["--verbose"] },
    { key := .listLanguages, names := ["--list-languages"] },
    { key := .listTemplates, names := ["--list-templates"] }]

/-- Every name of an option with the option. -/
def namedOptions : List (String × Opt) :=
  options.flatMap fun o => o.names.map fun name => (name, o)

def option? (name : String) : Option Opt := namedOptions.lookup name

def Opt.title (o : Opt) : String := "/".intercalate o.names

/-- Where the schema comes from: of these at most one may be given. -/
inductive Input where
  | schema
  | url
  | stdin
deriving DecidableEq, Repr

def Input.title : Input → String
  | schema => "schema"
  | url => "--url"
  | stdin => "--stdin"

def Key.input? : Key → Option Input
  | .url => some .url
  | .stdin => some .stdin
  | _ => none

/-- What is wrong with a command line. -/
inductive UsageFault where
  | ambiguous (given : String) (names : List String)
  | noValue (o : Opt)
  | unwantedValue (o : Opt) (value : String)
  | badChoice (o : Opt) (value : String)
  | conflict (input other : Input)
  | unrecognized (arguments : List String)
deriving DecidableEq, Repr

def quote (s : String) : String := String.ofList (Text.quoted s.toList)

def UsageFault.message : UsageFault → String
  | ambiguous given names =>
    "ambiguous option: " ++ given ++ " could match " ++ ", ".intercalate names
  | noValue o => "argument " ++ o.title ++ ": expected one argument"
  | unwantedValue o value =>
    "argument " ++ o.title ++ ": ignored explicit argument " ++ quote value
  | badChoice o value =>
    "argument " ++ o.title ++ ": invalid choice: " ++ quote value ++ " (choose from " ++
      ", ".intercalate (o.choices.map quote) ++ ")"
  | conflict input other =>
    "argument " ++ input.title ++ ": not allowed with argument " ++ other.title
  | unrecognized arguments => "unrecognized arguments: " ++ " ".intercalate arguments

/-! ## Kinds of arguments -/

/-- A value in the same argument as its option. -/
structure Attached where
  /-- Whether an equals sign stands before it. -/
  marked : Bool
  value : String
deriving DecidableEq, Repr

inductive Argument where
  | plain (text : String)
  /-- The mark behind which there are no options. -/
  | terminator
  | option (o : Opt) (name : String) (attached? : Option Attached)
  | unknownOption (text : String)
deriving DecidableEq, Repr

/-- What stands before the first equals sign and, if there is one, behind it. -/
def splitMarked (s : List Char) : List Char × Option (List Char) :=
  let before := s.takeWhile (· ≠ '=')
  match s.drop before.length with
  | _ :: behind => (before, some behind)
  | [] => (before, none)

/-- A minus sign and a decimal number. -/
def isNegativeNumber : List Char → Bool
  | '-' :: rest =>
    let whole := rest.takeWhile Char.isDigit
    match rest.drop whole.length with
    | [] => whole ≠ []
    | '.' :: part => part ≠ [] && part.all Char.isDigit
    | _ => false
  | _ => false

/-- The options that an argument may be short for. -/
def matches? (arg : List Char) : List (Opt × String × Option Attached) :=
  match arg with
  | '-' :: '-' :: _ =>
    let (before, behind?) := splitMarked arg
    (namedOptions.filter fun (name, _) => before.isPrefixOf name.toList).map fun (name, o) =>
      (o, name, behind?.map fun behind => ⟨true, String.ofList behind⟩)
  | _ =>
    namedOptions.filterMap fun (name, o) =>
      if name.toList = arg.take 2 then
        some (o, name, some ⟨false, String.ofList (arg.drop 2)⟩)
      else if arg.isPrefixOf name.toList then some (o, name, none)
      else none

/-- What an argument that opens with a minus sign is. -/
def classifyDashed (text : String) : Except UsageFault Argument :=
  let arg := text.toList
  match option? text with
  | some o => .ok (.option o text none)
  | none =>
    if arg.length = 1 then .ok (.plain text)
    else
      let (before, behind?) := splitMarked arg
      match option? (String.ofList before), behind? with
      | some o, some behind =>
        .ok (.option o (String.ofList before) (some ⟨true, String.ofList behind⟩))
      | _, _ =>
        match matches? arg with
        | [(o, name, attached?)] => .ok (.option o name attached?)
        | [] =>
          if isNegativeNumber arg || ' ' ∈ arg then .ok (.plain text)
          else .ok (.unknownOption text)
        | several => .error (.ambiguous text (several.map (·.2.1)))

def classify : List String → Except UsageFault (List Argument)
  | [] => .ok []
  | text :: rest =>
    if text = "--" then .ok (.terminator :: rest.map .plain)
    else do
      let first ← if text.toList.head? = some '-' then classifyDashed text else .ok (.plain text)
      return first :: (← classify rest)

/-! ## Reading -/

/-- What has been read of a command line. -/
structure Reading where
  /-- Options in the order in which they were given, with their values. -/
  given : List (Key × String) := []
  schema? : Option String := none
  inputs : List Input := []
  extras : List String := []
deriving DecidableEq, Repr

/-- Why reading ends early. -/
inductive Stop where
  | usage (fault : UsageFault)
  | version
  | help
deriving DecidableEq, Repr

/-- An input beside those given before. -/
def Reading.addInput (r : Reading) (input : Input) : Except Stop Reading :=
  match [Input.schema, .url, .stdin].filter fun other => other ≠ input && other ∈ r.inputs with
  | other :: _ => .error (.usage (.conflict input other))
  | [] => .ok { r with inputs := r.inputs ++ [input] }

/-- An option with its value. -/
def Reading.add (r : Reading) (o : Opt) (value : String) : Except Stop Reading := do
  if o.choices ≠ [] && value ∉ o.choices then
    throw (.usage (.badChoice o value))
  let r ← match o.key.input? with
    | some input => r.addInput input
    | none => .ok r
  match o.key with
  | .version => throw .version
  | .help => throw .help
  | key => return { r with given := r.given ++ [(key, value)] }

/-- What one argument comes to: options with their values, an option that still needs a value, and
text that is left over. -/
structure Expansion where
  complete : List (Opt × String) := []
  open? : Option Opt := none
  leftOver? : Option String := none

/-- Flags of one letter may stand together; the first letter that takes a value takes the rest. -/
def expandLetters (o : Opt) (marked : Bool) : List Char → Except UsageFault Expansion
  | [] => .error (.unwantedValue o "")
  | c :: rest =>
    if marked || c = '-' then .error (.unwantedValue o (String.ofList (c :: rest)))
    else
      match option? (String.ofList ['-', c]) with
      | none =>
        .ok { complete := [(o, "")], leftOver? := some (String.ofList ('-' :: c :: rest)) }
      | some next =>
        match rest with
        | [] =>
          if next.takesValue then .ok { complete := [(o, "")], open? := some next }
          else .ok { complete := [(o, ""), (next, "")] }
        | d :: tail =>
          if next.takesValue then
            .ok
              { complete :=
                  [(o, ""), (next, String.ofList (if d = '=' then tail else d :: tail))] }
          else do
            let more ← expandLetters next (d = '=') (if d = '=' then tail else d :: tail)
            return { more with complete := (o, "") :: more.complete }
termination_by cs => cs.length
decreasing_by all_goals (split <;> simp only [List.length_cons] <;> omega)

def expand (o : Opt) (name : String) (attached? : Option Attached) :
    Except UsageFault Expansion :=
  match attached? with
  | none => .ok (if o.takesValue then { open? := some o } else { complete := [(o, "")] })
  | some attached =>
    if o.takesValue then .ok { complete := [(o, attached.value)] }
    else if (name.toList.drop 1).head? = some '-' then
      .error (.unwantedValue o attached.value)
    else expandLetters o attached.marked attached.value.toList

/-- Reads arguments one after another. `isFollowing` tells that the schema file was named just before. -/
def readArguments (r : Reading) (isFollowing : Bool) : List Argument → Except Stop Reading
  | [] => .ok r
  | .plain text :: rest =>
    match r.schema? with
    | none => do
      let r ← r.addInput .schema
      readArguments { r with schema? := some text } true rest
    | some _ => readArguments { r with extras := r.extras ++ [text] } false rest
  | .terminator :: rest =>
    if isFollowing || r.schema?.isNone then readArguments r false rest
    else readArguments { r with extras := r.extras ++ ["--"] } false rest
  | .unknownOption text :: rest =>
    readArguments { r with extras := r.extras ++ [text] } false rest
  | .option o name attached? :: rest => do
    let e ← (expand o name attached?).mapError .usage
    match e.open? with
    | none =>
      let r ← e.complete.foldlM (fun r (o, value) => r.add o value) r
      readArguments { r with extras := r.extras ++ e.leftOver?.toList } false rest
    | some last =>
      match rest with
      | .plain value :: rest =>
        let r ← e.complete.foldlM (fun r (o, value) => r.add o value) r
        readArguments (← r.add last value) false rest
      | _ => throw (.usage (.noValue last))

/-- The options of a command line. -/
structure Options where
  schema? : Option String := none
  url? : Option String := none
  fromStdin : Bool := false
  logLevel : String := "WARNING"
  language : String := "go"
  outputDir? : Option String := none
  config? : Option String := none
  packageName? : Option String := none
  templateDir? : Option String := none
  formatter? : Option String := none
  noComments : Bool := false
  verbose : Bool := false
  listLanguages : Bool := false
  listTemplates : Bool := false
deriving DecidableEq, Repr

/-- The value that was given last for a key. -/
def Reading.last? (r : Reading) (key : Key) : Option String :=
  (r.given.filter (·.1 = key)).getLast?.map (·.2)

def Reading.has (r : Reading) (key : Key) : Bool := r.given.any (·.1 = key)

def Options.ofReading (r : Reading) : Options where
  schema? := r.schema?
  url? := r.last? .url
  fromStdin := r.has .stdin
  logLevel := (r.last? .logLevel).getD "WARNING"
  language := (r.last? .language).getD "go"
  outputDir? := r.last? .outputDir
  config? := r.last? .config
  packageName? := r.last? .packageName
  templateDir? := r.last? .templateDir
  formatter? := r.last? .formatter
  noComments := r.has .noComments
  verbose := r.has .verbose
  listLanguages := r.has .listLanguages
  listTemplates := r.has .listTemplates

/-- The options that a command line gives. -/
def Options.parse (arguments : List String) : Except Stop Options := do
  let pieces ← (classify arguments).mapError .usage
  let r ← readArguments {} false pieces
  if r.extras ≠ [] then
    throw (.usage (.unrecognized r.extras))
  return .ofReading r

end ResolverGen.CommandLine
