import ResolverGen.Template.Filter

/-!
# Calls

Calls of the methods that values have, and of the one function that templates know.
-/
namespace ResolverGen.Template

/-- The variant that is used where none is configured. -/
def defaultVariant : Value :=
  .record .variant [("name", .str "default"), ("params", .frozen [])]

/-- The settings of a type or field that is not configured. -/
def defaultTypeSettings : Value :=
  .record .typeSettings [("templates", .tuple [defaultVariant]), ("fields", .frozen [])]

def defaultFieldSettings : Value := .record .fieldSettings [("templates", .tuple [defaultVariant])]

/-- A method without arguments. -/
def noArguments (name : String) (args : List Value) (result : Value) : Except Fault Value :=
  if args.isEmpty then .ok result
  else .error (.badValue (name ++ "() takes no arguments (" ++ toString args.length ++ " given)"))

/-- The number of arguments of a method that takes them by position. -/
def checkCount (name : String) (least most : Nat) (args : List Value) : Except Fault Unit :=
  let given := args.length
  let complain (bound : String) (n : Nat) : Except Fault Unit :=
    .error (.badValue (name ++ " expected " ++
      (if least = most then "" else bound ++ " ") ++ toString n ++ " argument" ++ plural n ++
      ", got " ++ toString given))
  if given < least then complain "at least" least
  else if most < given then complain "at most" most
  else .ok ()

/-- Whether a text begins, or ends, with a part or with one of several. -/
def hasAffix (name : String) (test : List Char → Bool) (v : Value) : Except Fault Value :=
  match v with
  | .str part => .ok (.bool (test part.toList))
  | .tuple parts => do
    let found ← parts.mapM fun
      | .str part => Except.ok (test part.toList)
      | other => .error (.badValue ("tuple for " ++ name ++ " must only contain str, not " ++
          other.kindName))
    return .bool (found.any id)
  | v => .error (.badValue (name ++ " first arg must be str or a tuple of str, not " ++ v.kindName))

def trimMethod (name : String) (f : (Char → Bool) → List Char → List Char) (s : String)
    (args : List Value) : Except Fault Value := do
  checkCount name 0 1 args
  match args with
  | [] | [.null] => return .str (Text.onChars (f Text.isBlank) s)
  | [.str chars] => return .str (Text.onChars (f (· ∈ chars.toList)) s)
  | _ => throw (.badValue (name ++ " arg must be None or str"))

/-- A text split at each place of a part. The fuel is more than the length of the text. -/
def splitParts (sep : List Char) : Nat → List Char → List Char → List (List Char)
  | 0, part, _ => [part.reverse]
  | _ + 1, part, [] => [part.reverse]
  | fuel + 1, part, c :: rest =>
    if sep.isPrefixOf (c :: rest) then
      part.reverse :: splitParts sep fuel [] ((c :: rest).drop sep.length)
    else splitParts sep fuel (c :: part) rest

def splitMethod (s : String) (args : List Value) : Except Fault Value :=
  let texts (parts : List (List Char)) : Value := .list (parts.map fun p => .str (String.ofList p))
  match args with
  | [] | [.null] => .ok (texts (Text.words s.toList))
  | .str sep :: _ =>
    if sep = "" then .error (.badValue "empty separator")
    else .ok (texts (splitParts sep.toList (s.length + 1) [] s.toList))
  | v :: _ => .error (.badValue ("must be str or None, not " ++ v.kindName))

def replaceMethod (s : String) (args : List Value) : Except Fault Value := do
  checkCount "replace" 2 3 args
  match args with
  | .str old :: .str new :: rest =>
    let limit? ← match rest with
      | count :: _ =>
        match count.asInt? with
        | some n => .ok (if n < 0 then none else some n.toNat)
        | none => .error (Fault.notInteger count.kindName)
      | [] => .ok none
    return .str (Text.onChars (Text.replace old.toList new.toList limit?) s)
  | .str _ :: v :: _ =>
    throw (.badValue ("replace() argument 2 must be str, not " ++ v.kindName))
  | v :: _ => throw (.badValue ("replace() argument 1 must be str, not " ++ v.kindName))
  | [] => return .str s

def joinMethod (s : String) (args : List Value) : Except Fault Value := do
  checkCount "str.join" 1 1 args
  let items ← match args with
    | v :: _ => members v
    | [] => .ok []
  let texts ← items.zipIdx.mapM fun
    | (.str t, _) => Except.ok t
    | (v, i) => .error (Fault.badValue ("sequence item " ++ toString i ++
        ": expected str instance, " ++ v.kindName ++ " found"))
  return .str (s.intercalate texts)

def textMethod (s name : String) (args : List Value) : Except Fault Value :=
  match name with
  | "upper" => noArguments "str.upper" args (.str (Text.onChars Text.upper s))
  | "lower" => noArguments "str.lower" args (.str (Text.onChars Text.lower s))
  | "capitalize" => noArguments "str.capitalize" args (.str (Text.onChars Text.titleWord s))
  | "strip" => trimMethod "strip" Text.trim s args
  | "lstrip" => trimMethod "lstrip" Text.trimLeft s args
  | "rstrip" => trimMethod "rstrip" Text.trimRight s args
  | "startswith" =>
    match args with
    | v :: _ => hasAffix name (·.isPrefixOf s.toList) v
    | [] => .error (.badValue "startswith() takes at least 1 argument (0 given)")
  | "endswith" =>
    match args with
    | v :: _ => hasAffix name (·.isSuffixOf s.toList) v
    | [] => .error (.badValue "endswith() takes at least 1 argument (0 given)")
  | "replace" => replaceMethod s args
  | "split" => splitMethod s args
  | _ => joinMethod s args

/-- A method of a mapping; `kind` is what the mapping is called. -/
def mappingMethod (kind : String) (entries : List (Value × Value)) (name : String)
    (args : List Value) : Except Fault Value :=
  match name with
  | "items" =>
    noArguments (kind ++ ".items") args (.view .items (entries.map fun e => .tuple [e.1, e.2]))
  | "keys" => noArguments (kind ++ ".keys") args (.view .keys (entries.map (·.1)))
  | "values" => noArguments (kind ++ ".values") args (.view .values (entries.map (·.2)))
  | _ => do
    checkCount "get" 1 2 args
    match args with
    | .undefined false message :: _ => throw (.missing message)
    | key :: rest =>
      if key.isHashable then
        return (Value.valueAt? entries key).getD (rest.head?.getD .null)
      else throw (.unhashable key.kindName)
    | [] => return .null

/-- Settings looked up by name, or the default where there are none. -/
def settingsMethod (function parameter : String) (table? : Option Value) (other : Value)
    (args : List Value) (named : List (String × Value)) : Except Fault Value := do
  let signature : Signature :=
    { function, hidden := 1, parameters := [(parameter, none)] }
  match ← signature.bind args named with
  | [key] =>
    if !key.isHashable then throw (.unhashable key.kindName)
    match table? with
    | some (.dict entries) | some (.frozen entries) =>
      return (Value.valueAt? entries key).getD other
    | _ => return other
  | _ => return other

def rangeOf (args : List Value) : Except Fault Value := do
  checkCount "range" 1 3 args
  let numbers ← args.mapM fun v =>
    match v.missing?, v.asInt? with
    | some message, _ => .error (Fault.missing message)
    | none, some n => Except.ok n
    | none, none => .error (.notInteger v.kindName)
  match numbers with
  | [stop] => return .range 0 stop 1
  | [first, stop] => return .range first stop 1
  | first :: stop :: step :: _ =>
    if step = 0 then throw .rangeStep
    return .range first stop step
  | [] => return .range 0 0 1

/-- The function that templates know. -/
def functions : List String := ["range"]

def callValue (callee : Value) (args : List Value) (named : List (String × Value)) :
    Except Fault Value :=
  match callee with
  | .undefined _ message => .error (.missing message)
  | .method (.record .settings fields) name =>
    settingsMethod ("GeneratorConfig." ++ name) "type_name" (fields.lookup "types")
      defaultTypeSettings args named
  | .method (.record _ fields) name =>
    settingsMethod ("TypeConfig." ++ name) "field_name" (fields.lookup "fields")
      defaultFieldSettings args named
  | .method owner name =>
    if !named.isEmpty then
      .error (.badValue (owner.kindName ++ "." ++ name ++ "() takes no keyword arguments"))
    else match owner with
      | .str s => textMethod s name args
      | .dict entries => mappingMethod "dict" entries name args
      | .frozen entries => mappingMethod "mappingproxy" entries name args
      | owner => .error (.notCallable owner.kindName)
  | .function name =>
    if named.isEmpty then rangeOf args
    else .error (.badValue (name ++ "() takes no keyword arguments"))
  | callee => .error (.notCallable callee.kindName)

end ResolverGen.Template
