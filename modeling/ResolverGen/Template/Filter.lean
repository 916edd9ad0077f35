import ResolverGen.Json.Parser
import ResolverGen.Naming.Sanitizer
import ResolverGen.Template.Access
import ResolverGen.Text.Lines
import ResolverGen.Text.Replace

/-!
# Filters and tests

What templates can apply to values. A filter may ask the sanitizer, which remembers its answers, so
filters are run in `Eval`.
-/
namespace ResolverGen.Template

/-- Computations that may fault and use a sanitizer. Its state outlives a fault. -/
abbrev Eval := ExceptT Fault (StateM Sanitizer)

def Eval.ofExcept {α : Type} (x : Except Fault α) : Eval α :=
  match x with
  | .ok a => pure a
  | .error f => throw f

/-- Parameters of a function by name, with the values of those that may be left out. Hidden ones are
given by the caller and counted in messages. -/
structure Signature where
  function : String
  hidden : Nat := 0
  parameters : List (String × Option Value)

namespace Signature

/-- The values of parameters by position; none where too few are given. -/
def positional (parameters : List (String × Option Value)) (args : List Value) :
    List (String × Option Value × Option Value) :=
  parameters.mapIdx fun i p => (p.1, p.2, args[i]?)

/-- Named values put in their places. -/
def putNamed (s : Signature) (slots : List (String × Option Value × Option Value)) :
    List (String × Value) → Except Fault (List (String × Option Value × Option Value))
  | [] => .ok slots
  | (name, value) :: rest =>
    match slots.lookup name with
    | none => .error (.unknownArgument s.function name)
    | some (_, some _) => .error (.repeatedArgument s.function name)
    | some (_, none) =>
      s.putNamed (slots.map fun p => if p.1 = name then (p.1, p.2.1, some value) else p) rest

/-- The values of all parameters in order. -/
def bind (s : Signature) (args : List Value) (named : List (String × Value)) :
    Except Fault (List Value) := do
  let slots ← s.putNamed (positional s.parameters args) named
  let required := (s.parameters.filter (·.2.isNone)).length
  if s.parameters.length < args.length then
    throw (.tooManyArguments s.function (s.hidden + required) (s.hidden + s.parameters.length)
      (s.hidden + args.length))
  let values := slots.map fun p => (p.1, p.2.2 <|> p.2.1)
  match values.filter (·.2.isNone) with
  | [] => return values.filterMap (·.2)
  | absent => throw (.missingArguments s.function (absent.map (·.1)))

end Signature

/-- A filter: its parameters, of which the first is the input, and its effect. -/
structure Filter where
  name : String
  signature : Signature
  run : List Value → Eval Value

/-- A function of one text. -/
def textFilter (name function parameter : String) (f : String → String) : Filter where
  name := name
  signature := { function, parameters := [(parameter, none)] }
  run
    | [v] => do return .str (f (← Eval.ofExcept (textOf v)))
    | _ => return .null

/-- A filter that neither asks the sanitizer nor renders. -/
def plainFilter (name : String) (signature : Signature)
    (f : List Value → Except Fault Value) : Filter where
  name := name
  signature := signature
  run args := Eval.ofExcept (f args)

/-! ## Text blocks -/

/-- The lines of a text that are not blank moved in. -/
def indentChars (indent s : List Char) : List Char :=
  Text.unlines ((Text.lines s).map fun line =>
    if (Text.strip line).isEmpty then line else indent ++ line)

/-- A text as comment lines: a marker, a blank and the line, without blanks at its end. -/
def commentChars (marker s : List Char) : List Char :=
  Text.unlines ((Text.lines (Text.strip s)).map fun line =>
    Text.stripRight (marker ++ ' ' :: line))

/-- The indentation that a filter is asked for. -/
def indentation (spaces tabs : Value) : Except Fault (List Char) := do
  if ← truth tabs then
    return ['\t']
  else
    match spaces.asInt? with
    | some n => return List.replicate n.toNat ' '
    | none =>
      match spaces.missing? with
      | some message => throw (.missing message)
      | none => throw (.repetition spaces.kindName)

def indentFilter : Filter :=
  plainFilter "indent"
    { function := "TemplateEngine._indent_filter"
      parameters := [("value", none), ("spaces", some (.int 4)), ("tabs", some (.bool false))] }
    fun
    | [v, spaces, tabs] => do
      let indent ← indentation spaces tabs
      let s ← textOf v
      return .str (Text.onChars (indentChars indent) s)
    | _ => .ok .null

def commentFilter : Filter :=
  plainFilter "comment"
    { function := "TemplateEngine._comment_filter"
      parameters := [("value", none), ("style", some (.str "//"))] }
    fun
    | [v, style] => do
      let s ← textOf v
      let marker ← textOf style
      return .str (Text.onChars (commentChars marker.toList) s)
    | _ => .ok .null

/-- Filters of names and text blocks. -/
def namingFilters : List Filter :=
  [textFilter "capitalize" "capitalize" "value" Naming.capitalize,
    textFilter "uncapitalize" "uncapitalize" "value" Naming.uncapitalize,
    textFilter "snake_case" "to_snake_case" "name" Naming.snakeCase,
    textFilter "camel_case" "to_camel_case" "name" Naming.camelCase,
    textFilter "pascal_case" "to_pascal_case" "name" Naming.pascalCase,
    indentFilter,
    commentFilter]

/-! ## General filters -/

/-- Parts of a dotted path; digits are positions. -/
def pathParts (path : String) : List Value :=
  (Text.splitAt '.' path.toList).map fun part =>
    if !part.isEmpty && part.all Char.isDigit then .int (Json.digitsValue part)
    else .str (String.ofList part)

def followPath (v : Value) (path : String) : Except Fault Value :=
  (pathParts path).foldlM itemOf v

def joinValues (d : Value) (items : List Value) : Except Fault Value := do
  let texts ← items.mapM textOf
  return .str ((← textOf d).intercalate texts)

def joinFilter : Filter :=
  plainFilter "join"
    { function := "sync_do_join", hidden := 1
      parameters := [("value", none), ("d", some (.str "")), ("attribute", some .null)] }
    fun
    | [v, d, path] => do
      let items ← members v
      match path with
      | .str path => joinValues d (← items.mapM fun x => followPath x path)
      | .int n => joinValues d (← items.mapM fun x => itemOf x (.int n))
      | _ => joinValues d items
    | _ => .ok .null

def lengthFilter (name : String) : Filter where
  name := name
  signature := { function := "len", parameters := [("obj", none)] }
  run
    | [v] => do return .int (← Eval.ofExcept (lengthOf v))
    | _ => return .null

def defaultFilter (name : String) : Filter :=
  plainFilter name
    { function := "do_default"
      parameters :=
        [("value", none), ("default_value", some (.str "")), ("boolean", some (.bool false))] }
    fun
    | [v, other, whenFalse] => do
      match v with
      | .undefined .. => return other
      | v => if (← truth whenFalse) && !v.isTrue then return other else return v
    | _ => .ok .null

/-- How many occurrences may be replaced; a negative number stands for all. -/
def replaceLimit (count : Value) : Except Fault (Option Nat) :=
  match count, count.asInt? with
  | .null, _ => .ok none
  | _, some n => .ok (if n < 0 then none else some n.toNat)
  | count, none => .error (.notInteger count.kindName)

def replaceFilter : Filter :=
  plainFilter "replace"
    { function := "do_replace", hidden := 1
      parameters := [("s", none), ("old", none), ("new", none), ("count", some .null)] }
    fun
    | [v, old, new, count] => do
      let s ← textOf v
      let old ← textOf old
      let new ← textOf new
      let limit? ← replaceLimit count
      return .str (Text.onChars (Text.replace old.toList new.toList limit?) s)
    | _ => .ok .null

def trimFilter : Filter :=
  plainFilter "trim"
    { function := "do_trim", parameters := [("value", none), ("chars", some .null)] }
    fun
    | [v, chars] => do
      let s ← textOf v
      match chars with
      | .null => return .str (Text.onChars Text.strip s)
      | .str chars => return .str (Text.onChars (Text.trim (· ∈ chars.toList)) s)
      | _ => throw (.badValue "strip arg must be None or str")
    | _ => .ok .null

def firstFilter : Filter :=
  plainFilter "first"
    { function := "sync_do_first", hidden := 1, parameters := [("seq", none)] }
    fun
    | [v] => do
      return (← members v).head?.getD
        (.undefined false "No first item, sequence was empty.")
    | _ => .ok .null

def lastFilter : Filter :=
  plainFilter "last"
    { function := "do_last", hidden := 1, parameters := [("seq", none)] }
    fun
    | [v] =>
      match members v with
      | .ok items =>
        .ok (items.getLast?.getD (.undefined false "No last item, sequence was empty."))
      | .error (.notIterable kind) => .error (.notReversible kind)
      | .error f => .error f
    | _ => .ok .null

/-- Filters of texts and sequences. -/
def generalFilters : List Filter :=
  [textFilter "upper" "do_upper" "s" (Text.onChars Text.upper),
    textFilter "lower" "do_lower" "s" (Text.onChars Text.lower),
    trimFilter, joinFilter, lengthFilter "length", lengthFilter "count",
    defaultFilter "default", defaultFilter "d", replaceFilter, firstFilter, lastFilter]

/-- All filters that do not belong to a language; of one name the first counts. -/
def commonFilters : List Filter := namingFilters ++ generalFilters

def findFilter? (filters : List Filter) (name : String) : Option Filter :=
  filters.find? (·.name = name)

/-- A filter applied to an input with arguments. -/
def Filter.apply (f : Filter) (input : Value) (args : List Value) (named : List (String × Value)) :
    Eval Value := do
  f.run (← Eval.ofExcept (f.signature.bind (input :: args) named))

/-! ## Tests -/

/-- A question about a value. -/
structure Test where
  name : String
  holds : Value → Except Fault Bool

def isDefined : Value → Bool
  | .undefined .. => false
  | _ => true

def tests : List Test :=
  [⟨"defined", fun v => .ok (isDefined v)⟩,
    ⟨"undefined", fun v => .ok (!isDefined v)⟩,
    ⟨"none", fun v => .ok (v matches .null)⟩,
    ⟨"boolean", fun v => .ok (v matches .bool _)⟩,
    ⟨"string", fun v => .ok (v matches .str _)⟩,
    ⟨"integer", fun v => .ok (v matches .int _)⟩,
    ⟨"float", fun v => .ok (v matches .float _)⟩,
    ⟨"number", fun v => .ok v.asNumber?.isSome⟩,
    ⟨"mapping", fun v => .ok (v matches .dict _ | .frozen _)⟩,
    ⟨"true", fun v => .ok (v matches .bool true)⟩,
    ⟨"false", fun v => .ok (v matches .bool false)⟩,
    ⟨"odd", fun v => do return Value.same (← binaryOperation .mod v (.int 2)) (.int 1)⟩,
    ⟨"even", fun v => do return Value.same (← binaryOperation .mod v (.int 2)) (.int 0)⟩]

def findTest? (name : String) : Option Test := tests.find? (·.name = name)

/-- A test applied to an input; it takes no arguments. -/
def Test.apply (t : Test) (input : Value) (args : List Value) (named : List (String × Value)) :
    Except Fault Bool := do
  let signature : Signature :=
    { function := "test_" ++ t.name, parameters := [("value", none)] }
  let _ ← signature.bind (input :: args) named
  t.holds input

end ResolverGen.Template
