import ResolverGen.GraphQL.Document
import ResolverGen.GraphQL.Lexer

/-!
# Reading documents

A reader of the schema definition language. Each reader takes the lexemes it needs and leaves the
rest; the first lexeme that fits nothing is the fault. Readers that nest take a fuel, which the
number of lexemes bounds.
-/
namespace ResolverGen.GraphQL

abbrev Reader := StateT (List Lexeme) (Except SyntaxFault)

namespace Reader

def fail {α : Type} (f : SyntaxFault) : Reader α := fun _ => .error f

/-- The next token, which stays. -/
def peek : Reader Token := fun s =>
  match s with
  | [] => .ok (.endOfFile, s)
  | .token t :: _ => .ok (t, s)
  | .fault f :: _ => .error f

/-- The token after the next one; both stay. -/
def peekSecond : Reader Token := fun s =>
  match s with
  | [] => .ok (.endOfFile, s)
  | .fault f :: _ => .error f
  | .token _ :: rest => (peek rest).map fun r => (r.1, s)

def skip : Reader Unit := fun s => .ok ((), s.tail)

def unexpected {α : Type} : Reader α := do fail (.unexpected (← peek))

def at? (p : Punctuator) : Reader Bool := return (← peek) = .punctuator p

def expect (p : Punctuator) : Reader Unit := do
  let t ← peek
  if t = .punctuator p then skip else fail (.expected ("'" ++ p.text ++ "'") t)

/-- Takes the punctuator if it is next. -/
def optional (p : Punctuator) : Reader Bool := do
  if ← at? p then
    skip
    return true
  return false

def expectWord (word : String) : Reader Unit := do
  let t ← peek
  if t = .name word then skip else fail (.expected ("'" ++ word ++ "'") t)

/-- Takes the word if it is next. -/
def optionalWord (word : String) : Reader Bool := do
  if (← peek) = .name word then
    skip
    return true
  return false

def name : Reader String := do
  match ← peek with
  | .name text =>
    skip
    return text
  | t => fail (.expected "Name" t)

/-- Items up to a closing mark, which is taken. -/
def untilClosed {α : Type} (item : Reader α) (close : Punctuator) : Nat → Reader (List α)
  | 0 => unexpected
  | fuel + 1 => do
    if ← optional close then
      return []
    let first ← item
    return first :: (← untilClosed item close fuel)

/-- At least one item between two marks. -/
def many {α : Type} (fuel : Nat) (openMark : Punctuator) (item : Reader α) (close : Punctuator) :
    Reader (List α) := do
  expect openMark
  let first ← item
  return first :: (← untilClosed item close fuel)

/-- Nothing, or at least one item between two marks. -/
def optionalMany {α : Type} (fuel : Nat) (openMark : Punctuator) (item : Reader α)
    (close : Punctuator) : Reader (List α) := do
  if ← at? openMark then many fuel openMark item close else return []

/-- Any number of items between two marks. -/
def anyBetween {α : Type} (fuel : Nat) (openMark : Punctuator) (item : Reader α)
    (close : Punctuator) : Reader (List α) := do
  expect openMark
  untilClosed item close fuel

/-- Items with a mark between each two. -/
def separatedFrom {α : Type} (mark : Punctuator) (item : Reader α) : Nat → Reader (List α)
  | 0 => unexpected
  | fuel + 1 => do
    let first ← item
    if ← optional mark then
      return first :: (← separatedFrom mark item fuel)
    return [first]

/-- At least one item; a mark may also stand before the first. -/
def separated {α : Type} (fuel : Nat) (mark : Punctuator) (item : Reader α) : Reader (List α) := do
  let _ ← optional mark
  separatedFrom mark item fuel

/-- A description, if a string is next. -/
def description : Reader (Option String) := do
  match ← peek with
  | .string value | .blockString value =>
    skip
    return some value
  | _ => return none

/-- A value. In a constant no variable may stand. -/
def literal (const : Bool) : Nat → Reader Literal
  | 0 => unexpected
  | fuel + 1 => do
    match ← peek with
    | .punctuator .bracketL =>
      return .list (← anyBetween fuel .bracketL (literal const fuel) .bracketR)
    | .punctuator .braceL =>
      let field : Reader (String × Literal) := do
        let key ← name
        expect .colon
        return (key, ← literal const fuel)
      return .object (← anyBetween fuel .braceL field .braceR)
    | .int text =>
      skip
      return .int text
    | .float text =>
      skip
      return .float text
    | .string value | .blockString value =>
      skip
      return .string value
    | .name word =>
      skip
      return match word with
        | "true" => .bool true
        | "false" => .bool false
        | "null" => .null
        | _ => .enum word
    | .punctuator .dollar =>
      if const then
        let dollar ← peek
        skip
        match ← peek with
        | .name key => fail (.constVariable key)
        | _ => fail (.unexpected dollar)
      else
        skip
        return .variable (← name)
    | _ => unexpected

def argument (const : Bool) (fuel : Nat) : Reader (String × Literal) := do
  let key ← name
  expect .colon
  return (key, ← literal const fuel)

def arguments (const : Bool) (fuel : Nat) : Reader (List (String × Literal)) :=
  optionalMany fuel .parenL (argument const fuel) .parenR

def directives (const : Bool) : Nat → Reader (List Directive)
  | 0 => unexpected
  | fuel + 1 => do
    if ← at? .at then
      skip
      let directive : Directive := ⟨← name, ← arguments const fuel⟩
      return directive :: (← directives const fuel)
    return []

def typeNode : Nat → Reader TypeNode
  | 0 => unexpected
  | fuel + 1 => do
    let base ←
      if ← optional .bracketL then do
        let inner ← typeNode fuel
        expect .bracketR
        pure (TypeNode.list inner)
      else do
        pure (TypeNode.named (← name))
    if ← optional .bang then
      return .nonNull base
    return base

/-- A default value after its sign, if the sign is next. -/
def defaultValue (fuel : Nat) : Reader (Option Literal) := do
  if ← optional .equals then
    return some (← literal true fuel)
  return none

def inputValue (fuel : Nat) : Reader InputValue := do
  let _ ← description
  let key ← name
  expect .colon
  return ⟨key, ← typeNode fuel, ← defaultValue fuel, ← directives true fuel⟩

def argumentDefinitions (fuel : Nat) : Reader (List InputValue) :=
  optionalMany fuel .parenL (inputValue fuel) .parenR

def fieldDefinition (fuel : Nat) : Reader FieldNode := do
  let text ← description
  let key ← name
  let arguments ← argumentDefinitions fuel
  expect .colon
  return ⟨text, key, arguments, ← typeNode fuel, ← directives true fuel⟩

def fieldDefinitions (fuel : Nat) : Reader (List FieldNode) :=
  optionalMany fuel .braceL (fieldDefinition fuel) .braceR

def interfaces (fuel : Nat) : Reader (List String) := do
  if ← optionalWord "implements" then
    separated fuel .amp name
  else
    return []

def unionMembers (fuel : Nat) : Reader (List String) := do
  if ← optional .equals then
    separated fuel .pipe name
  else
    return []

def enumValue (fuel : Nat) : Reader EnumValueNode := do
  let _ ← description
  let t ← peek
  if t.value? ∈ [some "true", some "false", some "null"] then
    fail (.reservedEnumValue t)
  return ⟨← name, ← directives true fuel⟩

/-- One of the kinds of type by the word that opens it: its name, directives and body. -/
def typeParts (fuel : Nat) (word : String) : Reader (String × List Directive × TypeBody) := do
  expectWord word
  let key ← name
  match word with
  | "type" =>
    let parents ← interfaces fuel
    let notes ← directives true fuel
    return (key, notes, .object parents (← fieldDefinitions fuel))
  | "interface" =>
    let parents ← interfaces fuel
    let notes ← directives true fuel
    return (key, notes, .interface parents (← fieldDefinitions fuel))
  | "union" =>
    let notes ← directives true fuel
    return (key, notes, .union (← unionMembers fuel))
  | "enum" =>
    let notes ← directives true fuel
    return (key, notes, .enum (← optionalMany fuel .braceL (enumValue fuel) .braceR))
  | "input" =>
    let notes ← directives true fuel
    return (key, notes, .inputObject (← optionalMany fuel .braceL (inputValue fuel) .braceR))
  | _ =>
    return (key, ← directives true fuel, .scalar)

def operationKind : Reader OperationKind := do
  match ← peek with
  | .name word =>
    match OperationKind.ofWord? word with
    | some kind =>
      skip
      let _ ← peek
      return kind
    | none =>
      let t ← peek
      skip
      let _ ← peek
      fail (.unexpected t)
  | t => fail (.expected "Name" t)

def root : Reader (OperationKind × String) := do
  let kind ← operationKind
  expect .colon
  return (kind, ← name)

def directiveLocation : Reader DirectiveLocation := do
  let t ← peek
  let word ← name
  let _ ← peek
  match DirectiveLocation.ofWord? word with
  | some location => return location
  | none => fail (.unexpected t)

def directiveDefinition (fuel : Nat) : Reader Definition := do
  expectWord "directive"
  expect .at
  let key ← name
  let arguments ← argumentDefinitions fuel
  let repeatable ← optionalWord "repeatable"
  expectWord "on"
  return .directive ⟨key, arguments, repeatable, ← separated fuel .pipe directiveLocation⟩

def variableDefinition (fuel : Nat) : Reader VariableNode := do
  expect .dollar
  let key ← name
  expect .colon
  return ⟨key, ← typeNode fuel, ← defaultValue fuel, ← directives true fuel⟩

/-- A field, a fragment spread or an inline fragment. -/
def selection : Nat → Reader Selection
  | 0 => unexpected
  | fuel + 1 => do
    if ← optional .spread then
      if ← optionalWord "on" then
        let on ← name
        let notes ← directives false fuel
        return .inline (some on) notes (← many fuel .braceL (selection fuel) .braceR)
      match ← peek with
      | .name key =>
        skip
        return .spread key (← directives false fuel)
      | _ =>
        let notes ← directives false fuel
        return .inline none notes (← many fuel .braceL (selection fuel) .braceR)
    else
      let first ← name
      let key ← if ← optional .colon then name else pure first
      let inputs ← arguments false fuel
      let notes ← directives false fuel
      let inner ← optionalMany fuel .braceL (selection fuel) .braceR
      return .field key inputs notes inner

def selectionSet (fuel : Nat) : Reader (List Selection) :=
  many fuel .braceL (selection fuel) .braceR

def operation (fuel : Nat) : Reader Definition := do
  if ← at? .braceL then
    return .operation .query [] [] (← selectionSet fuel)
  let kind ← operationKind
  match ← peek with
  | .name _ => skip
  | _ => pure ()
  let parameters ← optionalMany fuel .parenL (variableDefinition fuel) .parenR
  let notes ← directives false fuel
  return .operation kind parameters notes (← selectionSet fuel)

def fragment (fuel : Nat) : Reader Definition := do
  expectWord "fragment"
  let t ← peek
  if t.value? = some "on" then
    fail (.unexpected t)
  let _ ← name
  expectWord "on"
  let on ← name
  let notes ← directives false fuel
  return .fragment on notes (← selectionSet fuel)

def typeWords : List String := ["scalar", "type", "interface", "union", "enum", "input"]

/-- Whether an extension of a type adds nothing. -/
def addsNothing (notes : List Directive) (body : TypeBody) : Bool :=
  notes.isEmpty && match body with
    | .scalar => true
    | .object parents fields | .interface parents fields => parents.isEmpty && fields.isEmpty
    | .union members => members.isEmpty
    | .enum values => values.isEmpty
    | .inputObject fields => fields.isEmpty

def extension (fuel : Nat) : Reader Definition := do
  match ← peekSecond with
  | .name word =>
    if word = "schema" then
      skip
      skip
      let notes ← directives true fuel
      let roots ← optionalMany fuel .braceL root .braceR
      if notes.isEmpty && roots.isEmpty then unexpected
      return .schema true notes roots
    else if word ∈ typeWords then
      skip
      let (key, notes, body) ← typeParts fuel word
      if addsNothing notes body then unexpected
      return .type true none key notes body
    else
      fail (.unexpected (.name word))
  | t => fail (.unexpected t)

def definition (fuel : Nat) : Reader Definition := do
  let first ← peek
  if first = .punctuator .braceL then
    operation fuel
  else
    let (described, keyword) ←
      match first with
      | .string _ | .blockString _ => do pure (true, ← peekSecond)
      | _ => pure (false, first)
    match keyword with
    | .name word =>
      if word = "schema" then
        let _ ← description
        expectWord "schema"
        let notes ← directives true fuel
        return .schema false notes (← many fuel .braceL root .braceR)
      else if word ∈ typeWords then
        let text ← description
        let (key, notes, body) ← typeParts fuel word
        return .type false text key notes body
      else if word = "directive" then
        let _ ← description
        directiveDefinition fuel
      else if described then
        fail .strayDescription
      else if (OperationKind.ofWord? word).isSome then
        operation fuel
      else if word = "fragment" then
        fragment fuel
      else if word = "extend" then
        extension fuel
      else
        fail (.unexpected keyword)
    | _ => fail (.unexpected keyword)

/-- Definitions up to the end of the document. -/
def definitions (fuel : Nat) : Nat → Reader (List Definition)
  | 0 => unexpected
  | steps + 1 => do
    let first ← definition fuel
    if (← peek) = .endOfFile then
      return [first]
    return first :: (← definitions fuel steps)

end Reader

/-- The definitions of a document, of which there must be at least one. -/
def parseDocument (text : String) : Except SyntaxFault Document :=
  let ls := lexemes text.toList
  (Reader.definitions (ls.length + 1) (ls.length + 1) ls).map (·.1)

end ResolverGen.GraphQL
