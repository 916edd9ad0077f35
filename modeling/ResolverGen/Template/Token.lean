import ResolverGen.Decimal.Binary64

/-!
# Template tokens

Tokens of templates, how messages call them, and what can be wrong with a template.
-/
namespace ResolverGen.Template

inductive Operator where
  | add
  | sub
  | div
  | floorDiv
  | mul
  | mod
  | pow
  | tilde
  | bracketL
  | bracketR
  | parenL
  | parenR
  | braceL
  | braceR
  | eq
  | ne
  | gt
  | ge
  | lt
  | le
  | assign
  | dot
  | colon
  | pipe
  | comma
  | semicolon
deriving DecidableEq, Repr

def Operator.text : Operator → String
  | add => "+"
  | sub => "-"
  | div => "/"
  | floorDiv => "//"
  | mul => "*"
  | mod => "%"
  | pow => "**"
  | tilde => "~"
  | bracketL => "["
  | bracketR => "]"
  | parenL => "("
  | parenR => ")"
  | braceL => "\x7b"
  | braceR => "\x7d"
  | eq => "=="
  | ne => "!="
  | gt => ">"
  | ge => ">="
  | lt => "<"
  | le => "<="
  | assign => "="
  | dot => "."
  | colon => ":"
  | pipe => "|"
  | comma => ","
  | semicolon => ";"

/-- The operator that a text opens with, the longest one, and what follows it. -/
def Operator.read? : List Char → Option (Operator × List Char)
  | '/' :: '/' :: rest => some (floorDiv, rest)
  | '*' :: '*' :: rest => some (pow, rest)
  | '=' :: '=' :: rest => some (eq, rest)
  | '!' :: '=' :: rest => some (ne, rest)
  | '>' :: '=' :: rest => some (ge, rest)
  | '<' :: '=' :: rest => some (le, rest)
  | '+' :: rest => some (add, rest)
  | '-' :: rest => some (sub, rest)
  | '/' :: rest => some (div, rest)
  | '*' :: rest => some (mul, rest)
  | '%' :: rest => some (mod, rest)
  | '~' :: rest => some (tilde, rest)
  | '[' :: rest => some (bracketL, rest)
  | ']' :: rest => some (bracketR, rest)
  | '(' :: rest => some (parenL, rest)
  | ')' :: rest => some (parenR, rest)
  | '\x7b' :: rest => some (braceL, rest)
  | '\x7d' :: rest => some (braceR, rest)
  | '>' :: rest => some (gt, rest)
  | '<' :: rest => some (lt, rest)
  | '=' :: rest => some (assign, rest)
  | '.' :: rest => some (dot, rest)
  | ':' :: rest => some (colon, rest)
  | '|' :: rest => some (pipe, rest)
  | ',' :: rest => some (comma, rest)
  | ';' :: rest => some (semicolon, rest)
  | _ => none

inductive Token where
  | data (text : String)
  | outputBegin
  | outputEnd
  | blockBegin
  | blockEnd
  | name (text : String)
  | string (value : String)
  | integer (value : Nat)
  | float (value : Binary64)
  | operator (op : Operator)
  | endOfTemplate
deriving DecidableEq, Repr

/-- What a message calls a token: a name by itself, others by their kind. -/
def Token.description : Token → String
  | data _ => "template data / text"
  | outputBegin => "begin of print statement"
  | outputEnd => "end of print statement"
  | blockBegin => "begin of statement block"
  | blockEnd => "end of statement block"
  | name text => text
  | string _ => "string"
  | integer _ => "integer"
  | float _ => "float"
  | operator op => op.text
  | endOfTemplate => "end of template"

/-- A token with the line it begins on. -/
structure Placed where
  token : Token
  line : Nat
deriving DecidableEq, Repr

/-- Why a template cannot be read. -/
inductive SyntaxFault where
  | unexpectedCharacter (c : Char) (position : Nat)
  | unexpectedBracket (found : Char)
  | mismatchedBracket (found expected : Char)
  | unclosedComment
  | unclosedRaw
  | notIdentifier
  | badEscape (reason : String)
  | unexpected (found : Token)
  | noExpression (found : Token)
  | expected (what : String) (found : Token)
  | tagNameExpected
  | nameOrNumberExpected
  | badCall
  | notAssignable (kind : String)
  | chainedTests
  /-- An assignment to what a loop knows about its place. -/
  | placeAssigned
  /-- A tag that is no statement, with the tags looked for in the enclosing blocks, innermost last, and
  the tag of the innermost block. -/
  | unknownTag (name : String) (wanted : List (List String)) (within? : Option String)
  | unclosedBlock (wanted : List (List String)) (within? : Option String)
  /-- A filter or test that does not exist. -/
  | unknownFilter (name : String)
  | unknownTest (name : String)
deriving DecidableEq, Repr

end ResolverGen.Template
