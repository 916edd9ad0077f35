import ResolverGen.Json.Value

/-!
# Template values

The values that templates compute with, and their texts. `shown` writes a value as it stands within
another, texts quoted; `plain` writes it by itself.
-/
namespace ResolverGen.Template

/-- Kinds of records that templates can look into. -/
inductive Shape where
  | settings
  | typeSettings
  | fieldSettings
  | variant
  | scalarSettings
  | loop
deriving DecidableEq, Repr

def Shape.label : Shape → String
  | settings => "GeneratorConfig"
  | typeSettings => "TypeConfig"
  | fieldSettings => "FieldConfig"
  | variant => "TemplateVariant"
  | scalarSettings => "ScalarConfig"
  | loop => "LoopContext"

/-- The label with the path under which messages give it. -/
def Shape.path : Shape → String
  | loop => "jinja2.runtime." ++ loop.label
  | shape => "graphql_codegen.codegen.core.config." ++ shape.label

inductive ViewKind where
  | keys
  | values
  | items
deriving DecidableEq, Repr

def ViewKind.label : ViewKind → String
  | keys => "dict_keys"
  | values => "dict_values"
  | items => "dict_items"

inductive Value where
  /-- A missing value, with what to say when it is used. A lenient one counts as empty text. -/
  | undefined (lenient : Bool) (message : String)
  | null
  | bool (value : Bool)
  | int (value : Int)
  | float (value : Binary64)
  | str (value : String)
  | list (items : List Value)
  | tuple (items : List Value)
  | dict (entries : List (Value × Value))
  /-- A mapping that cannot be changed. -/
  | frozen (entries : List (Value × Value))
  | view (kind : ViewKind) (items : List Value)
  | range (first stop step : Int)
  | record (shape : Shape) (fields : List (String × Value))
  | method (owner : Value) (name : String)
  | function (name : String)
deriving Repr, BEq, Inhabited

/-- Numbers of both kinds. -/
inductive Number where
  | int (n : Int)
  | float (x : Binary64)

def Number.compare? : Number → Number → Option Ordering
  | .int m, .int n => some (compare m n)
  | .int m, .float y => Binary64.compareInt? m y
  | .float x, .int n => (Binary64.compareInt? n x).map Ordering.swap
  | .float x, .float y => x.compare? y

namespace Value

mutual

/-- A JSON value as templates see it. -/
def ofJson : Json → Value
  | .null => null
  | .bool b => bool b
  | .int n => int n
  | .float x => float x
  | .str s => str s
  | .arr items => list (ofJsonItems items)
  | .obj entries => dict (ofJsonEntries entries)

def ofJsonItems : List Json → List Value
  | [] => []
  | item :: rest => ofJson item :: ofJsonItems rest

def ofJsonEntries : List (String × Json) → List (Value × Value)
  | [] => []
  | (key, value) :: rest => (str key, ofJson value) :: ofJsonEntries rest

end

def texts (names : List String) : Value := list (names.map str)

/-- The name of a value's kind. -/
def kindName : Value → String
  | undefined lenient _ => if lenient then "Undefined" else "StrictUndefined"
  | null => "NoneType"
  | bool _ => "bool"
  | int _ => "int"
  | float _ => "float"
  | str _ => "str"
  | list _ => "list"
  | tuple _ => "tuple"
  | dict _ => "dict"
  | frozen _ => "mappingproxy"
  | view kind _ => kind.label
  | range .. => "range"
  | record shape _ => shape.label
  | method .. => "builtin_function_or_method"
  | function _ => "type"

/-- What a message about a missing part calls its owner. -/
def ownerName : Value → String
  | null => "None"
  | record shape _ => shape.path ++ " object"
  | value => value.kindName ++ " object"

/-- The members of a range. -/
def rangeMembers (first stop step : Int) : List Int :=
  let count :=
    if 0 < step then (stop - first + step - 1) / step
    else if step < 0 then (first - stop - step - 1) / (-step)
    else 0
  (List.range count.toNat).map fun (i : Nat) => first + step * (i : Int)

/-- Whether a value counts as true. -/
def isTrue : Value → Bool
  | undefined .. | null => false
  | bool b => b
  | int n => n ≠ 0
  | float x => !x.isZero
  | str s => s ≠ ""
  | list items | tuple items | view _ items => !items.isEmpty
  | dict entries | frozen entries => !entries.isEmpty
  | range first stop step => !(rangeMembers first stop step).isEmpty
  | record .loop _ | record .. | method .. | function _ => true

mutual

/-- A value within another. -/
def shown : Value → List Char
  | undefined .. => "Undefined".toList
  | null => Json.nullText
  | bool b => Json.boolText b
  | int n => Json.intText n
  | float x => Decimal.text x
  | str s => Text.quoted s.toList
  | list items => '[' :: shownItems items ++ [']']
  | tuple [item] => '(' :: shown item ++ ",)".toList
  | tuple items => '(' :: shownItems items ++ [')']
  | dict entries => '\x7b' :: shownEntries entries ++ ['\x7d']
  | frozen entries => "mappingproxy(\x7b".toList ++ shownEntries entries ++ "\x7d)".toList
  | view kind items => kind.label.toList ++ "([".toList ++ shownItems items ++ "])".toList
  | range first stop step =>
    "range(".toList ++ Json.intText first ++ ", ".toList ++ Json.intText stop ++
      (if step = 1 then [] else ", ".toList ++ Json.intText step) ++ [')']
  | record .loop fields =>
    "<LoopContext ".toList ++ shownField "index" fields ++ '/' :: shownField "length" fields ++
      ['>']
  | record shape fields => shape.label.toList ++ '(' :: shownFields fields ++ [')']
  | method _ name => "<method ".toList ++ name.toList ++ ['>']
  | function name => "<class '".toList ++ name.toList ++ "'>".toList

def shownItems : List Value → List Char
  | [] => []
  | [item] => shown item
  | item :: next :: rest => shown item ++ ", ".toList ++ shownItems (next :: rest)

def shownEntries : List (Value × Value) → List Char
  | [] => []
  | [(key, value)] => shown key ++ ": ".toList ++ shown value
  | (key, value) :: next :: rest =>
    shown key ++ ": ".toList ++ shown value ++ ", ".toList ++ shownEntries (next :: rest)

def shownFields : List (String × Value) → List Char
  | [] => []
  | [(name, value)] => name.toList ++ '=' :: shown value
  | (name, value) :: next :: rest =>
    name.toList ++ '=' :: shown value ++ ", ".toList ++ shownFields (next :: rest)

def shownField (name : String) : List (String × Value) → List Char
  | [] => []
  | (key, value) :: rest => if key = name then shown value else shownField name rest

end

/-- The text of a value that is not missing. -/
def plainText : Value → String
  | str s => s
  | undefined true _ => ""
  | frozen entries => String.ofList (shown (dict entries))
  | value => String.ofList (shown value)

/-- The most digits of an integer that is written out. -/
def digitLimit : Nat := 4300

def isLong (n : Int) : Bool := digitLimit * 3 < n.natAbs.log2 && Nat.pow 10 digitLimit ≤ n.natAbs

mutual

/-- Whether an integer with too many digits would have to be written out. -/
def holdsLong : Value → Bool
  | int n => isLong n
  | range first stop step => isLong first || isLong stop || isLong step
  | list items | tuple items | view _ items => anyHoldsLong items
  | dict entries | frozen entries => entriesHoldLong entries
  | record _ fields => fieldsHoldLong fields
  | _ => false

def anyHoldsLong : List Value → Bool
  | [] => false
  | item :: rest => holdsLong item || anyHoldsLong rest

def entriesHoldLong : List (Value × Value) → Bool
  | [] => false
  | (key, value) :: rest => holdsLong key || holdsLong value || entriesHoldLong rest

def fieldsHoldLong : List (String × Value) → Bool
  | [] => false
  | (_, value) :: rest => holdsLong value || fieldsHoldLong rest

end

/-- A number as an integer, truth values counting as one and zero. -/
def asInt? : Value → Option Int
  | int n => some n
  | bool b => some (if b then 1 else 0)
  | _ => none

def asNumber? : Value → Option Number
  | int n => some (.int n)
  | bool b => some (.int (if b then 1 else 0))
  | float x => some (.float x)
  | _ => none

mutual

/-- Equality of values: numbers by their size, mappings without regard to order. -/
def same : Value → Value → Bool
  | undefined true _, undefined true _ => true
  | null, null => true
  | str a, str b => a = b
  | list a, list b => sameItems a b
  | tuple a, tuple b => sameItems a b
  | dict a, dict b | dict a, frozen b | frozen a, dict b | frozen a, frozen b =>
    a.length = b.length && sameEntries a b
  | view k a, view l b => k = l && sameItems a b
  | range a b c, range d e f => rangeMembers a b c = rangeMembers d e f
  | record s a, record t b => s = t && sameFields a b
  | function a, function b => a = b
  | a, b =>
    match asNumber? a, asNumber? b with
    | some m, some n => m.compare? n = some .eq
    | _, _ => false

def sameItems : List Value → List Value → Bool
  | [], [] => true
  | a :: as, b :: bs => same a b && sameItems as bs
  | _, _ => false

/-- Whether each entry has an equal one among others. -/
def sameEntries : List (Value × Value) → List (Value × Value) → Bool
  | [], _ => true
  | (key, value) :: rest, others =>
    (others.any fun other => same key other.1 && same value other.2) && sameEntries rest others

def sameFields : List (String × Value) → List (String × Value) → Bool
  | [], [] => true
  | (m, a) :: as, (n, b) :: bs => m = n && same a b && sameFields as bs
  | _, _ => false

end

/-- The value at a key of a mapping. -/
def valueAt? (entries : List (Value × Value)) (key : Value) : Option Value :=
  (entries.find? fun e => same e.1 key).map (·.2)

/-- A key put into a mapping, in its old place if it has one. -/
def putEntry (entries : List (Value × Value)) (key value : Value) : List (Value × Value) :=
  if entries.any fun e => same e.1 key then
    entries.map fun e => if same e.1 key then (e.1, value) else e
  else entries ++ [(key, value)]

/-- Whether a value can be a key. -/
def isHashable : Value → Bool
  | list _ | dict _ | frozen _ | view .. => false
  | record .settings _ => false
  | _ => true

@[simp] theorem plainText_str (s : String) : plainText (str s) = s := rfl

end Value

end ResolverGen.Template
