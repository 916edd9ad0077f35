import ResolverGen.Template.Token
import ResolverGen.Text.Quoted
import ResolverGen.Text.Utf8

/-!
# Template faults

Why a template cannot be rendered, and the wording of each cause.
-/
namespace ResolverGen.Template

inductive Fault where
  | malformed (fault : SyntaxFault)
  /-- A missing value was used; the message says what is missing. -/
  | missing (message : String)
  | noFilter (name : String)
  | noTest (name : String)
  | noTemplate (name : String)
  | noTemplateOf (names : List String)
  | noTemplateNames
  | noLoader
  | undecodable (cause : Text.Undecodable)
  | tooDeep
  /-- An integer with more digits than are written out. -/
  | tooManyDigits (limit : Nat)
  | operands (op left right : String)
  | sign (op kind : String)
  | concatenation (kind other : String)
  | repetition (kind : String)
  | order (op left right : String)
  | notIterable (kind : String)
  | notContainer (kind : String)
  | notReversible (kind : String)
  | notCallable (kind : String)
  | notSubscriptable (kind : String)
  | noLength (kind : String)
  | notInteger (kind : String)
  | unhashable (kind : String)
  | notTextMember (kind : String)
  | notUnpackable (kind : String)
  | tooFewValues (wanted got : Nat)
  | tooManyValues (wanted : Nat)
  | sliceBound
  | sliceStep
  | rangeStep
  | notNamespace
  /-- Division by zero, in the words of the operation. -/
  | division (message : String)
  | tooManyArguments (function : String) (least most given : Nat)
  | missingArguments (function : String) (names : List String)
  | unknownArgument (function name : String)
  | repeatedArgument (function name : String)
  /-- A number or text that an operation does not take. -/
  | badValue (message : String)
deriving DecidableEq, Repr

def quotedName (name : String) : String := String.ofList (Text.quoted name.toList)

/-- Tags as a list of alternatives. -/
def tagList (tags : List String) : String := " or ".intercalate (tags.map fun t => "'" ++ t ++ "'")

def innermost : Option String → String
  | none => ""
  | some tag =>
    " The innermost block that needs to be closed is " ++ quotedName tag ++ "."

def SyntaxFault.message : SyntaxFault → String
  | unexpectedCharacter c position =>
    "unexpected char " ++ quotedName c.toString ++ " at " ++ toString position
  | unexpectedBracket found => "unexpected '" ++ found.toString ++ "'"
  | mismatchedBracket found wanted =>
    "unexpected '" ++ found.toString ++ "', expected '" ++ wanted.toString ++ "'"
  | unclosedComment => "Missing end of comment tag"
  | unclosedRaw => "Missing end of raw directive"
  | notIdentifier => "Invalid character in identifier"
  | badEscape reason => reason
  | unexpected found => "unexpected " ++ quotedName found.description
  | noExpression found => "Expected an expression, got " ++ quotedName found.description
  | expected what found =>
    if found = .endOfTemplate then
      "unexpected end of template, expected " ++ quotedName what ++ "."
    else
      "expected token " ++ quotedName what ++ ", got " ++ quotedName found.description
  | tagNameExpected => "tag name expected"
  | nameOrNumberExpected => "expected name or number"
  | badCall => "invalid syntax for function call expression"
  | notAssignable kind => "can't assign to " ++ quotedName kind
  | chainedTests => "You cannot chain multiple tests with is"
  | placeAssigned => "Can't assign to special loop variable in for-loop"
  | unknownTag name wanted within? =>
    "Encountered unknown tag " ++ quotedName name ++ "." ++
      (match wanted.getLast? with
        | none => ""
        | some tags =>
          if name ∈ wanted.flatten then
            " You probably made a nesting mistake. Jinja is expecting this tag, but currently looking for "
              ++ tagList tags ++ "."
          else " Jinja was looking for the following tags: " ++ tagList tags ++ ".") ++
      innermost within?
  | unclosedBlock wanted within? =>
    "Unexpected end of template." ++
      (match wanted.getLast? with
        | none => ""
        | some tags => " Jinja was looking for the following tags: " ++ tagList tags ++ ".") ++
      innermost within?
  | unknownFilter name => "No filter named " ++ quotedName name ++ "."
  | unknownTest name => "No test named " ++ quotedName name ++ "."

/-- Names put together: the last after the word and. -/
def nameList (names : List String) : String :=
  match names.map quotedName with
  | [] => ""
  | [a] => a
  | [a, b] => a ++ " and " ++ b
  | all => ", ".intercalate all.dropLast ++ ", and " ++ all.getLast?.getD ""

def plural (n : Nat) : String := if n = 1 then "" else "s"

def Fault.message : Fault → String
  | malformed fault => fault.message
  | missing message => message
  | noFilter name => "No filter named " ++ quotedName name ++ " found."
  | noTest name => "No test named " ++ quotedName name ++ " found."
  | noTemplate name => name
  | noTemplateOf names => "none of the templates given were found: " ++ ", ".intercalate names
  | noTemplateNames => "Tried to select from an empty list of templates."
  | noLoader => "no loader for this environment specified"
  | undecodable cause => cause.message
  | tooDeep => "maximum recursion depth exceeded"
  | tooManyDigits limit =>
    "Exceeds the limit (" ++ toString limit ++ " digits) for integer string conversion; use sys.set_int_max_str_digits() to increase the limit"
  | operands op left right =>
    "unsupported operand type(s) for " ++ op ++ ": '" ++ left ++ "' and '" ++ right ++ "'"
  | sign op kind => "bad operand type for unary " ++ op ++ ": '" ++ kind ++ "'"
  | concatenation kind other =>
    "can only concatenate " ++ kind ++ " (not \"" ++ other ++ "\") to " ++ kind
  | repetition kind => "can't multiply sequence by non-int of type '" ++ kind ++ "'"
  | order op left right =>
    "'" ++ op ++ "' not supported between instances of '" ++ left ++ "' and '" ++ right ++ "'"
  | notIterable kind => "'" ++ kind ++ "' object is not iterable"
  | notContainer kind => "argument of type '" ++ kind ++ "' is not iterable"
  | notReversible kind => "'" ++ kind ++ "' object is not reversible"
  | notCallable kind => "'" ++ kind ++ "' object is not callable"
  | notSubscriptable kind => "'" ++ kind ++ "' object is not subscriptable"
  | noLength kind => "object of type '" ++ kind ++ "' has no len()"
  | notInteger kind => "'" ++ kind ++ "' object cannot be interpreted as an integer"
  | unhashable kind => "unhashable type: '" ++ kind ++ "'"
  | notTextMember kind => "'in <string>' requires string as left operand, not " ++ kind
  | notUnpackable kind => "cannot unpack non-iterable " ++ kind ++ " object"
  | tooFewValues wanted got =>
    "not enough values to unpack (expected " ++ toString wanted ++ ", got " ++ toString got ++ ")"
  | tooManyValues wanted => "too many values to unpack (expected " ++ toString wanted ++ ")"
  | sliceBound => "slice indices must be integers or None or have an __index__ method"
  | sliceStep => "slice step cannot be zero"
  | rangeStep => "range() arg 3 must not be zero"
  | notNamespace => "cannot assign attribute on non-namespace object"
  | division message => message
  | tooManyArguments function least most given =>
    function ++ "() takes " ++
      (if least = most then toString most ++ " positional argument" ++ plural most
        else "from " ++ toString least ++ " to " ++ toString most ++ " positional arguments") ++
      " but " ++ toString given ++ (if given = 1 then " was given" else " were given")
  | missingArguments function names =>
    function ++ "() missing " ++ toString names.length ++ " required positional argument" ++
      plural names.length ++ ": " ++ nameList names
  | unknownArgument function name =>
    function ++ "() got an unexpected keyword argument '" ++ name ++ "'"
  | repeatedArgument function name =>
    function ++ "() got multiple values for argument '" ++ name ++ "'"
  | badValue message => message

end ResolverGen.Template
