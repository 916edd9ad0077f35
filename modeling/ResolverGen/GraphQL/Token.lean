import ResolverGen.Text.Case
import ResolverGen.Text.Quoted

/-!
# Tokens of schema documents

Tokens, the faults of a document's syntax, and their wording.
-/
namespace ResolverGen.GraphQL

inductive Punctuator where
  | bang
  | dollar
  | amp
  | parenL
  | parenR
  | spread
  | colon
  | equals
  | at
  | bracketL
  | bracketR
  | braceL
  | pipe
  | braceR
deriving DecidableEq, Repr

def Punctuator.text : Punctuator → String
  | bang => "!"
  | dollar => "$"
  | amp => "&"
  | parenL => "("
  | parenR => ")"
  | spread => "..."
  | colon => ":"
  | equals => "="
  | .at => "@"
  | bracketL => "["
  | bracketR => "]"
  | braceL => "\x7b"
  | pipe => "|"
  | braceR => "\x7d"

/-- Punctuators of one character. -/
def Punctuator.ofChar? : Char → Option Punctuator
  | '!' => some bang
  | '$' => some dollar
  | '&' => some amp
  | '(' => some parenL
  | ')' => some parenR
  | ':' => some colon
  | '=' => some equals
  | '@' => some .at
  | '[' => some bracketL
  | ']' => some bracketR
  | '\x7b' => some braceL
  | '|' => some pipe
  | '\x7d' => some braceR
  | _ => none

inductive Token where
  | punctuator (p : Punctuator)
  | name (text : String)
  | int (text : String)
  | float (text : String)
  | string (value : String)
  | blockString (value : String)
  | endOfFile
deriving DecidableEq, Repr

namespace Token

/-- The text a token carries besides its kind; an empty one counts as none. -/
def value? : Token → Option String
  | name text | int text | float text | string text | blockString text =>
    if text = "" then none else some text
  | _ => none

def kindText : Token → String
  | punctuator p => "'" ++ p.text ++ "'"
  | name _ => "Name"
  | int _ => "Int"
  | float _ => "Float"
  | string _ => "String"
  | blockString _ => "BlockString"
  | endOfFile => "<EOF>"

def description (t : Token) : String :=
  match t.value? with
  | some value => t.kindText ++ " '" ++ value ++ "'"
  | none => t.kindText

end Token

/-- What is wrong with the syntax of a document. -/
inductive SyntaxFault where
  | unexpectedCharacter (c : Char)
  | singleQuote
  | digitAfterZero (found : Char)
  | expectedDigit (found? : Option Char)
  | unterminatedString
  | invalidEscape (text : String)
  | invalidUnicodeEscape (text : String)
  /-- An escape of which the end of the document cuts off a part. -/
  | escapeCutOff
  | unexpected (found : Token)
  | expected (what : String) (found : Token)
  | strayDescription
  | reservedEnumValue (found : Token)
  | constVariable (name : String)
deriving DecidableEq, Repr

/-- A character as a message shows it; none stands for the end of the document. -/
def characterText : Option Char → String
  | none => "<EOF>"
  | some c =>
    if 0x20 ≤ c.toNat ∧ c.toNat ≤ 0x7E then "'" ++ c.toString ++ "'"
    else
      let digits := Nat.toDigits 16 c.toNat
      let padded := List.replicate (4 - digits.length) '0' ++ digits
      "U+" ++ String.ofList (padded.map Char.toUpper)

def SyntaxFault.message : SyntaxFault → String
  | unexpectedCharacter c => "Unexpected character: " ++ characterText (some c) ++ "."
  | singleQuote =>
    "Unexpected single quote character ('), did you mean to use a double quote (\")?"
  | digitAfterZero found =>
    "Invalid number, unexpected digit after 0: " ++ characterText (some found) ++ "."
  | expectedDigit found? =>
    "Invalid number, expected digit but got: " ++ characterText found? ++ "."
  | unterminatedString => "Unterminated string."
  | invalidEscape text => "Invalid character escape sequence: '" ++ text ++ "'."
  | invalidUnicodeEscape text => "Invalid Unicode escape sequence: '" ++ text ++ "'."
  | escapeCutOff => "Escape cut off by the end of the document."
  | unexpected found => "Unexpected " ++ found.description ++ "."
  | expected what found => "Expected " ++ what ++ ", found " ++ found.description ++ "."
  | strayDescription =>
    "Unexpected description, only GraphQL definitions support descriptions."
  | reservedEnumValue found =>
    found.description ++ " is reserved and cannot be used for an enum value."
  | constVariable name => "Unexpected variable '$" ++ name ++ "' in constant value."

end ResolverGen.GraphQL
