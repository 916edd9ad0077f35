import ResolverGen.Template.Lexer
import ResolverGen.Template.Syntax

/-!
# Reading templates

A reader of templates. A state holds the lexemes that are left, and for the wording of faults the
tags looked for in the enclosing blocks, innermost last, and the tags of those blocks. Readers that
nest take a fuel, which the number of lexemes bounds.
-/
namespace ResolverGen.Template

structure ReaderState where
  rest : List Lexeme
  /-- Tags that end the enclosing bodies. -/
  wanted : List (List String) := []
  /-- Tags of the statements being read. -/
  tags : List String := []

abbrev Reader := StateT ReaderState (Except SyntaxFault)

namespace Reader

def fail {α : Type} (f : SyntaxFault) : Reader α := fun _ => .error f

def peekPlaced : Reader Placed := fun s =>
  match s.rest with
  | [] => .ok (⟨.endOfTemplate, 0⟩, s)
  | .token t :: _ => .ok (t, s)
  | .fault f :: _ => .error f

/-- The next token, which stays. -/
def peek : Reader Token := return (← peekPlaced).token

/-- The token after the next one; both stay. -/
def peekSecond : Reader Token := fun s =>
  match s.rest with
  | _ :: .token t :: _ => .ok (t.token, s)
  | _ :: .fault f :: _ => .error f
  | _ => .ok (.endOfTemplate, s)

def skip : Reader Unit := modify fun s => { s with rest := s.rest.tail }

def isOp (op : Operator) : Reader Bool := return (← peek) = .operator op

def isWord (word : String) : Reader Bool := return (← peek) = .name word

def expectToken (what : String) (t : Token) : Reader Unit := do
  let found ← peek
  if found = t then skip else fail (.expected what found)

def expectOp (op : Operator) : Reader Unit := expectToken op.text (.operator op)

def expectWord (word : String) : Reader Unit := expectToken word (.name word)

def expectBlockEnd : Reader Unit := expectToken Token.blockEnd.description .blockEnd

def skipOp (op : Operator) : Reader Bool := do
  if ← isOp op then
    skip
    return true
  return false

def skipWord (word : String) : Reader Bool := do
  if ← isWord word then
    skip
    return true
  return false

def expectName : Reader String := do
  match ← peek with
  | .name text =>
    skip
    return text
  | found => fail (.expected "name" found)

/-- A dotted name of a filter or test. -/
def dottedName (start : String) : Nat → Reader String
  | 0 => return start
  | fuel + 1 => do
    if ← skipOp .dot then
      dottedName (start ++ "." ++ (← expectName)) fuel
    else
      return start

/-- Strings side by side are one. -/
def adjacentStrings (start : String) : Nat → Reader String
  | 0 => return start
  | fuel + 1 => do
    match ← peek with
    | .string more =>
      skip
      adjacentStrings (start ++ more) fuel
    | _ => return start

/-- Whether a tuple ends here: at the end of a tag, at a closing parenthesis or at a given word. -/
def tupleEnds (words : List String) : Reader Bool := do
  match ← peek with
  | .outputEnd | .blockEnd | .operator .parenR => return true
  | .name word => return word ∈ words
  | _ => return false

/-- How a tuple is read. -/
structure TupleForm where
  /-- Items are primaries only. -/
  simple : Bool := false
  /-- Items may be choices. -/
  choices : Bool := true
  /-- Words that end the tuple. -/
  stops : List String := []
  /-- An empty tuple is allowed. -/
  parentheses : Bool := false

def compareOp? : Token → Option CompareOp
  | .operator .eq => some .eq
  | .operator .ne => some .ne
  | .operator .lt => some .lt
  | .operator .le => some .le
  | .operator .gt => some .gt
  | .operator .ge => some .ge
  | _ => none

/-- Operators of one precedence that group to the left: what they mean. -/
def sumOp? : Token → Option BinaryOp
  | .operator .add => some .add
  | .operator .sub => some .sub
  | _ => none

def productOp? : Token → Option BinaryOp
  | .operator .mul => some .mul
  | .operator .div => some .div
  | .operator .floorDiv => some .floorDiv
  | .operator .mod => some .mod
  | _ => none

def powerOp? : Token → Option BinaryOp
  | .operator .pow => some .pow
  | _ => none

/-- Further operands of a left-grouping operator. -/
def leftChain (op? : Token → Option BinaryOp) (operand : Reader Expr) (left : Expr) :
    Nat → Reader Expr
  | 0 => return left
  | fuel + 1 => do
    match op? (← peek) with
    | some op =>
      skip
      leftChain op? operand (.binary op left (← operand)) fuel
    | none => return left

/-- Further operands behind a word. -/
def wordChain (word : String) (join : Expr → Expr → Expr) (operand : Reader Expr) (left : Expr) :
    Nat → Reader Expr
  | 0 => return left
  | fuel + 1 => do
    if ← skipWord word then
      wordChain word join operand (join left (← operand)) fuel
    else
      return left

/-- Further operands behind tildes. -/
def tildeChain (operand : Reader Expr) : Nat → Reader (List Expr)
  | 0 => return []
  | fuel + 1 => do
    if ← skipOp .tilde then
      let item ← operand
      return item :: (← tildeChain operand fuel)
    return []

/-- Further comparisons. -/
def comparisons (operand : Reader Expr) : Nat → Reader (List (CompareOp × Expr))
  | 0 => return []
  | fuel + 1 => do
    let t ← peek
    match compareOp? t with
    | some op =>
      skip
      let right ← operand
      return (op, right) :: (← comparisons operand fuel)
    | none =>
      if t = .name "in" then
        skip
        let right ← operand
        return (.isIn, right) :: (← comparisons operand fuel)
      else if t = .name "not" then
        if (← peekSecond) = .name "in" then
          skip
          skip
          let right ← operand
          return (.notIn, right) :: (← comparisons operand fuel)
        else
          return []
      else
        return []

/-- Items between commas up to a closing bracket, which is taken; a comma may stand at the end. -/
def itemsUntil {α : Type} (close : Operator) (item : Reader α) (first : Bool) :
    Nat → Reader (List α)
  | 0 => return []
  | fuel + 1 => do
    if ← skipOp close then
      return []
    if !first then
      expectOp .comma
      if ← skipOp close then
        return []
    let x ← item
    return x :: (← itemsUntil close item false fuel)

/-- Items of a tuple and whether a comma was among them. -/
def tupleItems (words : List String) (item : Reader Expr) (first : Bool) :
    Nat → Reader (List Expr × Bool)
  | 0 => return ([], false)
  | fuel + 1 => do
    if !first then
      expectOp .comma
    if ← tupleEnds words then
      return ([], !first)
    let x ← item
    if ← isOp .comma then
      let (more, _) ← tupleItems words item false fuel
      return (x :: more, true)
    return ([x], !first)

/-- Arguments of a call, the opening parenthesis having been taken. Named ones come last. -/
def callArguments (expression : Reader Expr) (first : Bool) (named : List (String × Expr)) :
    Nat → Reader (List Expr × List (String × Expr))
  | 0 => return ([], named)
  | fuel + 1 => do
    if ← skipOp .parenR then
      return ([], named)
    if !first then
      expectOp .comma
      if ← skipOp .parenR then
        return ([], named)
    match ← peek with
    | .name key =>
      if (← peekSecond) = .operator .assign then
        skip
        skip
        let value ← expression
        callArguments expression false (named ++ [(key, value)]) fuel
      else if named.isEmpty then
        let x ← expression
        let (args, named) ← callArguments expression false named fuel
        return (x :: args, named)
      else
        fail .badCall
    | _ =>
      if named.isEmpty then
        let x ← expression
        let (args, named) ← callArguments expression false named fuel
        return (x :: args, named)
      else
        fail .badCall

/-- The bound of a slice, or the constant none where none is given. -/
def sliceBound (expression : Reader Expr) : Reader Expr := do
  match ← peek with
  | .operator .colon | .operator .bracketR | .operator .comma => return .absent
  | _ => expression

/-- One subscript: an index, or the bounds of a slice. -/
inductive Subscript where
  | index (e : Expr)
  | slice (first last step : Expr)

def subscript (expression : Reader Expr) : Reader Subscript := do
  let first? ←
    if ← isOp .colon then pure none
    else do pure (some (← expression))
  if ← skipOp .colon then
    let last ← sliceBound expression
    let step ← if ← skipOp .colon then
      match ← peek with
      | .operator .bracketR | .operator .comma => pure Expr.absent
      | _ => expression
      else pure Expr.absent
    return .slice (first?.getD .absent) last step
  return .index (first?.getD .absent)

def isBoolWord (word : String) : Bool := word ∈ ["true", "false", "True", "False"]

/-- Words after a test that do not open an argument of it. -/
def endsTest (t : Token) : Bool :=
  t ∈ [Token.name "else", Token.name "or", Token.name "and"]

/-- Tokens that open an argument of a test. -/
def opensArgument (t : Token) : Bool :=
  match t with
  | .name _ | .string _ | .integer _ | .float _ => true
  | .operator op => op ∈ [Operator.parenL, .bracketL, .braceL]
  | _ => false

mutual

/-- A tuple, or a single expression where no comma stands. -/
def tuple (form : TupleForm) : Nat → Reader Expr
  | 0 => do fail (.noExpression (← peek))
  | fuel + 1 => do
    let item := if form.simple then primary fuel else expression form.choices fuel
    let (items, isTuple) ← tupleItems form.stops item true fuel
    if isTuple then
      return .tuple items
    match items with
    | x :: _ => return x
    | [] =>
      if form.parentheses then
        return .tuple []
      fail (.noExpression (← peek))

def expression (choices : Bool) : Nat → Reader Expr
  | 0 => do fail (.unexpected (← peek))
  | fuel + 1 => do
    let line := (← peekPlaced).line
    let first ← disjunction fuel
    if choices then choiceChain line first fuel else return first

/-- Choices behind an expression. -/
def choiceChain (line : Nat) (yes : Expr) : Nat → Reader Expr
  | 0 => return yes
  | fuel + 1 => do
    if ← skipWord "if" then
      let test ← disjunction fuel
      let next ←
        if ← skipWord "else" then do
          let no ← expression true fuel
          pure (Expr.choice test yes no)
        else pure (Expr.only test yes line)
      choiceChain (← peekPlaced).line next fuel
    else
      return yes

def disjunction : Nat → Reader Expr
  | 0 => do fail (.unexpected (← peek))
  | fuel + 1 => do
    let first ← conjunction fuel
    wordChain "or" .or (conjunction fuel) first fuel

def conjunction : Nat → Reader Expr
  | 0 => do fail (.unexpected (← peek))
  | fuel + 1 => do
    let first ← negation fuel
    wordChain "and" .and (negation fuel) first fuel

def negation : Nat → Reader Expr
  | 0 => do fail (.unexpected (← peek))
  | fuel + 1 => do
    if ← skipWord "not" then
      return .not (← negation fuel)
    comparison fuel

def comparison : Nat → Reader Expr
  | 0 => do fail (.unexpected (← peek))
  | fuel + 1 => do
    let first ← sum fuel
    match ← comparisons (sum fuel) fuel with
    | [] => return first
    | rest => return .compare first rest

def sum : Nat → Reader Expr
  | 0 => do fail (.unexpected (← peek))
  | fuel + 1 => do
    let first ← joined fuel
    leftChain sumOp? (joined fuel) first fuel

def joined : Nat → Reader Expr
  | 0 => do fail (.unexpected (← peek))
  | fuel + 1 => do
    let first ← product fuel
    match ← tildeChain (product fuel) fuel with
    | [] => return first
    | rest => return .concat (first :: rest)

def product : Nat → Reader Expr
  | 0 => do fail (.unexpected (← peek))
  | fuel + 1 => do
    let first ← power fuel
    leftChain productOp? (power fuel) first fuel

def power : Nat → Reader Expr
  | 0 => do fail (.unexpected (← peek))
  | fuel + 1 => do
    let first ← unary true fuel
    leftChain powerOp? (unary true fuel) first fuel

/-- A signed or plain operand with its postfixes, and its filters if they bind here. -/
def unary (withFilters : Bool) : Nat → Reader Expr
  | 0 => do fail (.unexpected (← peek))
  | fuel + 1 => do
    let operand ←
      if ← skipOp .sub then do pure (Expr.neg (← unary false fuel))
      else if ← skipOp .add then do pure (Expr.pos (← unary false fuel))
      else primary fuel
    let operand ← postfixes operand fuel
    if withFilters then filtersAndTests operand fuel else return operand

def primary : Nat → Reader Expr
  | 0 => do fail (.unexpected (← peek))
  | fuel + 1 => do
    let t ← peek
    match t with
    | .name word =>
      skip
      if isBoolWord word then
        return .constant (.bool (word ∈ ["true", "True"]))
      else if word ∈ ["none", "None"] then
        return .constant .none
      else
        return .name word
    | .string value =>
      skip
      return .constant (.str (← adjacentStrings value fuel))
    | .integer n =>
      skip
      return .constant (.int n)
    | .float x =>
      skip
      return .constant (.float x)
    | .operator .parenL =>
      skip
      let inner ← tuple { parentheses := true } fuel
      expectOp .parenR
      return inner
    | .operator .bracketL =>
      skip
      return .list (← itemsUntil .bracketR (expression true fuel) true fuel)
    | .operator .braceL =>
      skip
      let entry : Reader (Expr × Expr) := do
        let key ← expression true fuel
        expectOp .colon
        return (key, ← expression true fuel)
      return .dict (← itemsUntil .braceR entry true fuel)
    | _ => fail (.unexpected t)

/-- Attributes, subscripts and calls behind an operand. -/
def postfixes (operand : Expr) : Nat → Reader Expr
  | 0 => return operand
  | fuel + 1 => do
    match ← peek with
    | .operator .dot =>
      skip
      let t ← peek
      skip
      let _ ← peek
      match t with
      | .name key => postfixes (.attribute operand key) fuel
      | .integer n => postfixes (.item operand (.constant (.int n))) fuel
      | _ => fail .nameOrNumberExpected
    | .operator .bracketL =>
      skip
      match ← itemsUntil .bracketR (subscript (expression true fuel)) true fuel with
      | [.index e] => postfixes (.item operand e) fuel
      | [.slice first last step] => postfixes (.slice operand first last step) fuel
      | parts =>
        let indices := parts.map fun
          | .index e => e
          | .slice first last step => .tuple [first, last, step]
        postfixes (.item operand (.tuple indices)) fuel
    | .operator .parenL =>
      skip
      let (args, named) ← callArguments (expression true fuel) true [] fuel
      postfixes (.call operand args named) fuel
    | _ => return operand

/-- Filters, tests and calls behind an operand. -/
def filtersAndTests (operand : Expr) : Nat → Reader Expr
  | 0 => return operand
  | fuel + 1 => do
    match ← peek with
    | .operator .pipe => do
      let e ← filters operand fuel
      filtersAndTests e fuel
    | .name "is" => do
      let e ← test operand fuel
      filtersAndTests e fuel
    | .operator .parenL =>
      skip
      let (args, named) ← callArguments (expression true fuel) true [] fuel
      filtersAndTests (.call operand args named) fuel
    | _ => return operand

/-- Filters behind an operand. -/
def filters (operand : Expr) : Nat → Reader Expr
  | 0 => return operand
  | fuel + 1 => do
    if ← skipOp .pipe then
      let key ← dottedName (← expectName) fuel
      if ← skipOp .parenL then
        let (args, named) ← callArguments (expression true fuel) true [] fuel
        filters (.filter operand key args named) fuel
      else
        filters (.filter operand key [] []) fuel
    else
      return operand

/-- A test behind an operand. -/
def test (operand : Expr) : Nat → Reader Expr
  | 0 => return operand
  | fuel + 1 => do
    skip
    let negated ← skipWord "not"
    let key ← dottedName (← expectName) fuel
    let t ← peek
    let (args, named) ←
      if t = .operator .parenL then do
        skip
        callArguments (expression true fuel) true [] fuel
      else if opensArgument t && !endsTest t then do
        if t = .name "is" then
          fail .chainedTests
        let x ← primary fuel
        pure ([← postfixes x fuel], [])
      else pure ([], [])
    let e := Expr.test operand key args named
    return if negated then .not e else e

end

/-- What an expression that cannot be assigned to is called. -/
def kindName : Expr → String
  | .constant _ => "const"
  | .list _ => "list"
  | .dict _ => "dict"
  | .tuple _ => "tuple"
  | _ => "expr"

mutual

/-- An expression as a target. -/
def target? : Expr → Option Target
  | .name key => some (.name key)
  | .attribute (.name key) part => some (.attribute key part)
  | .tuple items => (targets? items).map .tuple
  | _ => none

def targets? : List Expr → Option (List Target)
  | [] => some []
  | e :: rest => do return (← target? e) :: (← targets? rest)

end

def asTarget (e : Expr) : Reader Target :=
  match target? e with
  | some t => return t
  | none => fail (.notAssignable (kindName e))

/-- A target of an assignment: names, and in an assignment also attributes of names. -/
def assignTarget (fuel : Nat) : Reader Target := do
  let item : Reader Expr := do
    match ← peek with
    | .name word =>
      if !isBoolWord word && word ∉ ["none", "None"] && (← peekSecond) = .operator .dot then
        skip
        skip
        return .attribute (.name word) (← expectName)
      else
        primary fuel
    | _ => primary fuel
  let (items, isTuple) ← tupleItems [] item true fuel
  match items, isTuple with
  | [x], false => asTarget x
  | [], false => fail (.noExpression (← peek))
  | items, _ => asTarget (.tuple items)

/-- Takes the end of a tag that opens a body; a colon may stand before it. -/
def openBody : Reader Unit := do
  let _ ← skipOp .colon
  expectBlockEnd

/-- The tags of the enclosing statements are kept while a statement is read. -/
def within {α : Type} (tag : String) (read : Reader α) : Reader α := do
  modify fun s => { s with tags := s.tags ++ [tag] }
  let x ← read
  modify fun s => { s with tags := s.tags.dropLast }
  return x

mutual

/-- Statements up to the end of the template, or up to a tag with one of the given words, which is
next after the opening of its tag. -/
def statements (ends : List String) : Nat → Reader (List Stmt)
  | 0 => return []
  | fuel + 1 => do
    match ← peek with
    | .endOfTemplate => return []
    | .data text =>
      skip
      return .text text :: (← statements ends fuel)
    | .outputBegin =>
      skip
      let e ← tuple {} fuel
      expectToken Token.outputEnd.description .outputEnd
      return .output e :: (← statements ends fuel)
    | .blockBegin =>
      skip
      match ← peek with
      | .name word =>
        if word ∈ ends then
          return []
        let s ← within word (statement word fuel)
        expectBlockEnd
        return s :: (← statements ends fuel)
      | _ => fail .tagNameExpected
    | found => fail (.unexpected found)

/-- A body that one of the given tags ends; the word of the tag stays. -/
def body (ends : List String) : Nat → Reader (List Stmt)
  | 0 => return []
  | fuel + 1 => do
    openBody
    modify fun s => { s with wanted := s.wanted ++ [ends] }
    let inner ← statements ends fuel
    modify fun s => { s with wanted := s.wanted.dropLast }
    if (← peek) = .endOfTemplate then
      let s ← get
      fail (.unclosedBlock (s.wanted ++ [ends]) s.tags.getLast?)
    return inner

/-- The rest of a conditional from its condition on. -/
def conditional : Nat → Reader Stmt
  | 0 => fail .tagNameExpected
  | fuel + 1 => do
    let condition ← tuple { choices := false } fuel
    let yes ← body ["elif", "else", "endif"] fuel
    let t ← peek
    skip
    if t = .name "elif" then
      return .branch condition yes [← conditional fuel]
    else if t = .name "else" then
      let no ← body ["endif"] fuel
      skip
      return .branch condition yes no
    else
      return .branch condition yes []

/-- A statement from its word on. -/
def statement (word : String) : Nat → Reader Stmt
  | 0 => fail .tagNameExpected
  | fuel + 1 => do
    match word with
    | "if" =>
      skip
      conditional fuel
    | "for" =>
      skip
      let pattern ← tuple { simple := true, stops := ["in"] } fuel
      let pattern ← asTarget pattern
      expectWord "in"
      let items ← tuple { choices := false, stops := ["recursive"] } fuel
      let condition? ← if ← skipWord "if" then do pure (some (← expression true fuel)) else pure none
      let _ ← skipWord "recursive"
      let inner ← body ["endfor", "else"] fuel
      let t ← peek
      skip
      if t = .name "endfor" then
        return .loop pattern items condition? inner []
      let otherwise ← body ["endfor"] fuel
      skip
      return .loop pattern items condition? inner otherwise
    | "set" =>
      skip
      let pattern ← assignTarget fuel
      if ← skipOp .assign then
        return .assign pattern (← tuple {} fuel)
      let value ← filters .captured fuel
      let inner ← body ["endset"] fuel
      skip
      return .capture pattern value inner
    | "include" =>
      skip
      let e ← expression true fuel
      let ignoreMissing ←
        if (← isWord "ignore") then do
          if (← peekSecond) = .name "missing" then
            skip
            skip
            pure true
          else pure false
        else pure false
      let t ← peek
      if t = .name "with" ∨ t = .name "without" then
        if (← peekSecond) = .name "context" then
          skip
          skip
          return .include e ignoreMissing (t = .name "with")
      return .include e ignoreMissing true
    | _ =>
      let s ← get
      fail (.unknownTag word s.wanted s.tags.dropLast.getLast?)

end

end Reader

/-- The statements of a template. -/
def parse (source : String) : Except SyntaxFault (List Stmt) :=
  let ls := lexemes source
  (Reader.statements [] (20 * ls.length + 20) { rest := ls }).map (·.1)

end ResolverGen.Template
