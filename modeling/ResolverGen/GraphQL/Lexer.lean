import ResolverGen.GraphQL.BlockString
import ResolverGen.GraphQL.Token
import ResolverGen.Json.Parser

/-!
# Reading tokens

The tokens of a document in order. A fault stands in the list at its place, so that what comes
before it can still be read.
-/
namespace ResolverGen.GraphQL

/-- A token, or the fault at which reading stops. -/
inductive Lexeme where
  | token (t : Token)
  | fault (f : SyntaxFault)
deriving DecidableEq, Repr

def isNameStart (c : Char) : Bool := c.isAlpha || c = '_'

def isNameRest (c : Char) : Bool := c.isAlphanum || c = '_'

/-- Blanks between tokens. -/
def isIgnored (c : Char) : Bool :=
  c = ' ' || c = '\t' || c = ',' || c = '\ufeff' || c = '\n' || c = '\r'

/-- A digit and all that follow it. -/
def digits (s : List Char) : Except SyntaxFault (List Char × List Char) :=
  match s.takeWhile Char.isDigit with
  | [] => .error (.expectedDigit s.head?)
  | ds => .ok (ds, s.dropWhile Char.isDigit)

/-- The whole part of a number after its sign. -/
def wholePart (s : List Char) : Except SyntaxFault (List Char × List Char) :=
  match s with
  | '0' :: rest =>
    match rest with
    | d :: _ => if d.isDigit then .error (.digitAfterZero d) else .ok (['0'], rest)
    | [] => .ok (['0'], rest)
  | _ => digits s

/-- A point with its digits, if there is a point. -/
def fractionPart (s : List Char) : Except SyntaxFault (List Char × List Char) :=
  match s with
  | '.' :: rest => do
    let (ds, rest) ← digits rest
    return ('.' :: ds, rest)
  | _ => .ok ([], s)

/-- An exponent with its digits, if there is one. -/
def exponentPart (s : List Char) : Except SyntaxFault (List Char × List Char) :=
  match s with
  | e :: rest =>
    if e = 'e' || e = 'E' then
      match rest with
      | sign :: after =>
        if sign = '+' || sign = '-' then do
          let (ds, rest) ← digits after
          return (e :: sign :: ds, rest)
        else do
          let (ds, rest) ← digits rest
          return (e :: ds, rest)
      | [] => .error (.expectedDigit none)
    else .ok ([], s)
  | [] => .ok ([], s)

/-- A number; neither a point nor a name may follow it. -/
def number (s : List Char) : Except SyntaxFault (Token × List Char) := do
  let (sign, rest) := match s with
    | '-' :: rest => (['-'], rest)
    | _ => ([], s)
  let (whole, rest) ← wholePart rest
  let (fraction, rest) ← fractionPart rest
  let (exponent, rest) ← exponentPart rest
  let token := if fraction = [] ∧ exponent = []
    then Token.int (String.ofList (sign ++ whole))
    else Token.float (String.ofList (sign ++ whole ++ fraction ++ exponent))
  match rest with
  | c :: _ => if c = '.' || isNameStart c then .error (.expectedDigit c) else .ok (token, rest)
  | [] => .ok (token, rest)

/-- A code point in braces, from after the brace on: its number and how many characters were read.
None where it cannot be read, again with their count. -/
def bracedCodePoint (size point : Nat) : List Char → Except Nat (Nat × Nat)
  | [] => .error size
  | c :: rest =>
    if 12 ≤ size then .error size
    else if c = '\x7d' then
      if size + 1 < 5 || !(point < 0xD800 || (0xE000 ≤ point && point < 0x110000)) then
        .error (size + 1)
      else .ok (point, size + 1)
    else match Json.hexValue? c with
      | none => .error (size + 1)
      | some d => bracedCodePoint (size + 1) (point * 16 + d) rest

/-- The number that the first four characters write. -/
def fixedUnit (s : List Char) : Except SyntaxFault (Option Nat) :=
  if s.length < 4 then .error .escapeCutOff else .ok (Json.hexUnit? (s.take 4))

/-- The character of a `\u` escape, which begins the text `s`. -/
def unicodeEscape (s : List Char) : Except SyntaxFault (Char × List Char) :=
  let refuse (size : Nat) : Except SyntaxFault (Char × List Char) :=
    .error (.invalidUnicodeEscape (String.ofList (s.take size)))
  match s.drop 2 with
  | '\x7b' :: body =>
    match bracedCodePoint 3 0 body with
    | .ok (point, size) => .ok (Char.ofNat point, s.drop size)
    | .error size => refuse size
  | body => do
    match ← fixedUnit body with
    | none => refuse 6
    | some unit =>
      if Json.isHighSurrogate unit && (s.drop 6).take 2 = ['\\', 'u'] then
        match ← fixedUnit (s.drop 8) with
        | some low =>
          if Json.isLowSurrogate low then
            return (Char.ofNat (Json.joinSurrogates unit low), s.drop 12)
          else refuse 6
        | none => refuse 6
      else if Json.isHighSurrogate unit || Json.isLowSurrogate unit then refuse 6
      else return (Char.ofNat unit, s.drop 6)

/-- A string after its opening mark: its value and what follows its closing mark. The fuel is more
than the length of the text. -/
def stringBody : Nat → List Char → Except SyntaxFault (List Char × List Char)
  | 0, _ => .error .unterminatedString
  | _ + 1, [] => .error .unterminatedString
  | fuel + 1, c :: rest =>
    if c = '"' then .ok ([], rest)
    else if c = '\n' || c = '\r' then .error .unterminatedString
    else if c = '\\' then
      match rest with
      | [] => .error .escapeCutOff
      | 'u' :: _ => do
        let (d, rest) ← unicodeEscape (c :: rest)
        let (body, rest) ← stringBody fuel rest
        return (d :: body, rest)
      | e :: after =>
        match Json.shortEscape? e with
        | none => .error (.invalidEscape (String.ofList [c, e]))
        | some d => do
          let (body, rest) ← stringBody fuel after
          return (d :: body, rest)
    else do
      let (body, rest) ← stringBody fuel rest
      return (c :: body, rest)

/-- A block string after its opening marks, line endings read as newlines. -/
def blockBody : List Char → Except SyntaxFault (List Char × List Char)
  | [] => .error .unterminatedString
  | '"' :: '"' :: '"' :: rest => .ok ([], rest)
  | '\\' :: '"' :: '"' :: '"' :: rest => do
    let (body, rest) ← blockBody rest
    return ('"' :: '"' :: '"' :: body, rest)
  | '\r' :: '\n' :: rest => do
    let (body, rest) ← blockBody rest
    return ('\n' :: body, rest)
  | c :: rest => do
    let (body, rest) ← blockBody rest
    return ((if c = '\r' then '\n' else c) :: body, rest)

/-- The token that a text opens with. -/
def token (s : List Char) (c : Char) (rest : List Char) :
    Except SyntaxFault (Token × List Char) :=
  match Punctuator.ofChar? c with
  | some p => .ok (.punctuator p, rest)
  | none =>
    if c = '"' then
      match rest with
      | '"' :: '"' :: body => do
        let (raw, rest) ← blockBody body
        return (.blockString (String.ofList (blockValue raw)), rest)
      | _ => do
        let (value, rest) ← stringBody (rest.length + 1) rest
        return (.string (String.ofList value), rest)
    else if c.isDigit || c = '-' then number s
    else if isNameStart c then
      .ok (.name (String.ofList (s.takeWhile isNameRest)), s.dropWhile isNameRest)
    else if c = '.' && rest.take 2 = ['.', '.'] then .ok (.punctuator .spread, rest.drop 2)
    else if c = '\'' then .error .singleQuote
    else .error (.unexpectedCharacter c)

def isLineEnd (c : Char) : Bool := c = '\n' || c = '\r'

/-- The tokens of a text up to its end or its first fault. The fuel is more than its length. -/
def lexemesFrom : Nat → List Char → List Lexeme
  | 0, _ => []
  | _ + 1, [] => []
  | fuel + 1, c :: rest =>
    if isIgnored c then lexemesFrom fuel rest
    else if c = '#' then lexemesFrom fuel (rest.dropWhile (!isLineEnd ·))
    else match token (c :: rest) c rest with
      | .ok (t, rest) => .token t :: lexemesFrom fuel rest
      | .error f => [.fault f]

def lexemes (document : List Char) : List Lexeme := lexemesFrom (document.length + 1) document

end ResolverGen.GraphQL
