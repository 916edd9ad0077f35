import ResolverGen.Template.Token

/-!
# Template syntax

Expressions and statements of templates.
-/
namespace ResolverGen.Template

inductive BinaryOp where
  | add
  | sub
  | mul
  | div
  | floorDiv
  | mod
  | pow
deriving DecidableEq, Repr

def BinaryOp.text : BinaryOp → String
  | add => "+"
  | sub => "-"
  | mul => "*"
  | div => "/"
  | floorDiv => "//"
  | mod => "%"
  | pow => "** or pow()"

inductive CompareOp where
  | eq
  | ne
  | lt
  | le
  | gt
  | ge
  | isIn
  | notIn
deriving DecidableEq, Repr

inductive Constant where
  | none
  | bool (value : Bool)
  | int (value : Nat)
  | float (value : Binary64)
  | str (value : String)
deriving DecidableEq, Repr

inductive Expr where
  | constant (c : Constant)
  | name (name : String)
  /-- The text that the enclosing block assignment has caught. -/
  | captured
  | tuple (items : List Expr)
  | list (items : List Expr)
  | dict (entries : List (Expr × Expr))
  | attribute (object : Expr) (name : String)
  | item (object index : Expr)
  /-- A part of a sequence; a bound that is not given is the constant none. -/
  | slice (object first last step : Expr)
  | call (callee : Expr) (args : List Expr) (named : List (String × Expr))
  | filter (input : Expr) (name : String) (args : List Expr) (named : List (String × Expr))
  | test (input : Expr) (name : String) (args : List Expr) (named : List (String × Expr))
  | neg (operand : Expr)
  | pos (operand : Expr)
  | not (operand : Expr)
  | binary (op : BinaryOp) (left right : Expr)
  | concat (items : List Expr)
  | compare (first : Expr) (rest : List (CompareOp × Expr))
  | and (left right : Expr)
  | or (left right : Expr)
  | choice (test yes no : Expr)
  /-- A choice without alternative, with the line it stands on. -/
  | only (test yes : Expr) (line : Nat)
deriving Repr, BEq, Inhabited

def Expr.absent : Expr := .constant .none

/-- What values can be assigned to. -/
inductive Target where
  | name (name : String)
  | attribute (name key : String)
  | tuple (items : List Target)
deriving Repr, BEq

inductive Stmt where
  | text (s : String)
  | output (e : Expr)
  | branch (test : Expr) (yes no : List Stmt)
  | loop (target : Target) (items : Expr) (condition? : Option Expr) (body otherwise : List Stmt)
  | assign (target : Target) (value : Expr)
  /-- Assigns the text of a body, as a filter of `captured`. -/
  | capture (target : Target) (value : Expr) (body : List Stmt)
  | include (name : Expr) (ignoreMissing withContext : Bool)
deriving Repr, BEq

mutual

/-- Whether an expression refers to a name. -/
def Expr.mentions (x : String) : Expr → Bool
  | .constant _ | .captured => false
  | .name y => x = y
  | .tuple items | .list items | .concat items => mentionsAny x items
  | .dict entries => mentionsPairs x entries
  | .attribute object _ => object.mentions x
  | .item object index => object.mentions x || index.mentions x
  | .slice object first last step =>
    object.mentions x || first.mentions x || last.mentions x || step.mentions x
  | .call input args named | .filter input _ args named | .test input _ args named =>
    input.mentions x || mentionsAny x args || mentionsNamed x named
  | .neg e | .pos e | .not e => e.mentions x
  | .binary _ a b | .and a b | .or a b => a.mentions x || b.mentions x
  | .compare first rest => first.mentions x || mentionsCompared x rest
  | .choice test yes no => test.mentions x || yes.mentions x || no.mentions x
  | .only test yes _ => test.mentions x || yes.mentions x

def mentionsAny (x : String) : List Expr → Bool
  | [] => false
  | e :: rest => e.mentions x || mentionsAny x rest

def mentionsPairs (x : String) : List (Expr × Expr) → Bool
  | [] => false
  | (key, value) :: rest => key.mentions x || value.mentions x || mentionsPairs x rest

def mentionsNamed (x : String) : List (String × Expr) → Bool
  | [] => false
  | (_, e) :: rest => e.mentions x || mentionsNamed x rest

def mentionsCompared (x : String) : List (CompareOp × Expr) → Bool
  | [] => false
  | (_, e) :: rest => e.mentions x || mentionsCompared x rest

end

mutual

/-- Whether a statement refers to a name. -/
def Stmt.mentions (x : String) : Stmt → Bool
  | .text _ => false
  | .output e => e.mentions x
  | .branch test yes no => test.mentions x || bodyMentions x yes || bodyMentions x no
  | .loop _ items none body otherwise =>
    items.mentions x || bodyMentions x body || bodyMentions x otherwise
  | .loop _ items (some condition) body otherwise =>
    items.mentions x || condition.mentions x || bodyMentions x body || bodyMentions x otherwise
  | .assign _ value => value.mentions x
  | .capture _ value body => value.mentions x || bodyMentions x body
  | .include name _ _ => name.mentions x

def bodyMentions (x : String) : List Stmt → Bool
  | [] => false
  | s :: rest => s.mentions x || bodyMentions x rest

end

/-- The name under which a loop tells about its place. -/
def placeName : String := "loop"

mutual

/-- Whether a target gives a name a value. -/
def Target.binds (x : String) : Target → Bool
  | .name y => x = y
  | .attribute .. => false
  | .tuple items => anyBinds x items

def anyBinds (x : String) : List Target → Bool
  | [] => false
  | t :: rest => t.binds x || anyBinds x rest

end

mutual

/-- Whether a statement gives a name a value. -/
def Stmt.binds (x : String) : Stmt → Bool
  | .text _ | .output _ | .include .. => false
  | .branch _ yes no => bodyBinds x yes || bodyBinds x no
  | .loop target _ _ body otherwise =>
    target.binds x || bodyBinds x body || bodyBinds x otherwise
  | .assign target _ => target.binds x
  | .capture target _ body => target.binds x || bodyBinds x body

def bodyBinds (x : String) : List Stmt → Bool
  | [] => false
  | s :: rest => s.binds x || bodyBinds x rest

end

end ResolverGen.Template
