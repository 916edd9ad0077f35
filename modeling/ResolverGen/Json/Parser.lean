import ResolverGen.Json.Value

/-!
# JSON text

A reader of JSON text. What it refuses it refuses at a place: the first at which the text can no
longer be continued to a value. Besides the standard it takes `NaN` and the infinities; integers are
read up to a number of digits.
-/
namespace ResolverGen.Json

/-- Why a text is not JSON. -/
inductive Misfit where
  | expectedValue
  | expectedKey
  | expectedColon
  | expectedComma
  | unterminatedString
  | controlCharacter
  | invalidEscape
  | invalidUnicodeEscape
  | extraData
  | byteOrderMark
  /-- An integer with more digits than are read; the syntax allows it. -/
  | tooManyDigits
deriving DecidableEq, Repr

/-- The most digits of an integer that are read. -/
def digitLimit : Nat := 4300

def Misfit.text : Misfit → String
  | expectedValue => "Expecting value"
  | expectedKey => "Expecting property name enclosed in double quotes"
  | expectedColon => "Expecting ':' delimiter"
  | expectedComma => "Expecting ',' delimiter"
  | unterminatedString => "Unterminated string starting at"
  | controlCharacter => "Invalid control character at"
  | invalidEscape => "Invalid \\escape"
  | invalidUnicodeEscape => "Invalid \\uXXXX escape"
  | extraData => "Extra data"
  | byteOrderMark => "Unexpected UTF-8 BOM (decode using utf-8-sig)"
  | tooManyDigits =>
    "Exceeds the limit (" ++ toString digitLimit ++ " digits) for integer string conversion"

/-- A misfit with the number of characters from its place to the end of the text. -/
structure Refusal where
  cause : Misfit
  remaining : Nat
deriving DecidableEq, Repr

def refuse {α : Type} (cause : Misfit) (place : List Char) : Except Refusal α :=
  .error ⟨cause, place.length⟩

def isSpace (c : Char) : Bool := c = ' ' || c = '\t' || c = '\n' || c = '\r'

def skipSpace (s : List Char) : List Char := s.dropWhile isSpace

def hexValue? (c : Char) : Option Nat :=
  if c.isDigit then some (c.toNat - 48)
  else if 'a' ≤ c && c ≤ 'f' then some (c.toNat - 87)
  else if 'A' ≤ c && c ≤ 'F' then some (c.toNat - 55)
  else none

/-- The number that four hexadecimal digits write. -/
def hexUnit? : List Char → Option Nat
  | [a, b, c, d] => do
    let a ← hexValue? a
    let b ← hexValue? b
    let c ← hexValue? c
    let d ← hexValue? d
    return ((a * 16 + b) * 16 + c) * 16 + d
  | _ => none

def isHighSurrogate (n : Nat) : Bool := 0xD800 ≤ n && n < 0xDC00

def isLowSurrogate (n : Nat) : Bool := 0xDC00 ≤ n && n < 0xE000

def joinSurrogates (high low : Nat) : Nat := 0x10000 + (high - 0xD800) * 0x400 + (low - 0xDC00)

/-- The character of a code unit; a surrogate without its partner becomes the replacement
character. -/
def unitChar (n : Nat) : Char := if 0xD800 ≤ n && n < 0xE000 then '\ufffd' else Char.ofNat n

/-- The character of an escape by one letter. -/
def shortEscape? (c : Char) : Option Char :=
  match c with
  | '"' => some '"'
  | '\\' => some '\\'
  | '/' => some '/'
  | 'b' => some '\x08'
  | 'f' => some '\x0c'
  | 'n' => some '\n'
  | 'r' => some '\r'
  | 't' => some '\t'
  | _ => none

/-- The character of a `\u` escape from its digits on; two escapes may stand for one character. -/
def unicodeEscape (digits : List Char) : Except Refusal (Char × List Char) :=
  if digits.length ≤ 4 then .error ⟨.invalidUnicodeEscape, digits.length + 1⟩
  else match hexUnit? (digits.take 4) with
    | none => .error ⟨.invalidUnicodeEscape, digits.length + 1⟩
    | some unit =>
      let rest := digits.drop 4
      if isHighSurrogate unit && 6 < rest.length && rest.take 2 = ['\\', 'u'] then
        match hexUnit? ((rest.drop 2).take 4) with
        | none => .error ⟨.invalidUnicodeEscape, rest.length - 1⟩
        | some low =>
          if isLowSurrogate low then .ok (Char.ofNat (joinSurrogates unit low), rest.drop 6)
          else .ok (unitChar unit, rest)
      else .ok (unitChar unit, rest)

/-- The rest of a string after its opening mark, which stood `opening` characters before the end.
The fuel is at least the length of the text. -/
def stringBody (opening : Nat) : Nat → List Char → Except Refusal (List Char × List Char)
  | 0, _ => .error ⟨.unterminatedString, opening⟩
  | _ + 1, [] => .error ⟨.unterminatedString, opening⟩
  | fuel + 1, c :: rest =>
    if c = '"' then .ok ([], rest)
    else if c = '\\' then
      match rest with
      | [] => .error ⟨.unterminatedString, opening⟩
      | 'u' :: digits => do
        let (d, rest) ← unicodeEscape digits
        let (body, rest) ← stringBody opening fuel rest
        return (d :: body, rest)
      | e :: rest' =>
        match shortEscape? e with
        | none => refuse .invalidEscape (c :: rest)
        | some d => do
          let (body, rest) ← stringBody opening fuel rest'
          return (d :: body, rest)
    else if c.toNat ≤ 0x1f then refuse .controlCharacter (c :: rest)
    else do
      let (body, rest) ← stringBody opening fuel rest
      return (c :: body, rest)

/-- A string from its opening mark on. -/
def string (s : List Char) (body : List Char) : Except Refusal (String × List Char) := do
  let (chars, rest) ← stringBody s.length (body.length + 1) body
  return (String.ofList chars, rest)

/-- The value of a run of decimal digits. -/
def digitsValue (digits : List Char) : Nat :=
  digits.foldl (fun n c => n * 10 + (c.toNat - 48)) 0

/-- A fraction: a point and at least one digit. -/
def fraction (s : List Char) : List Char × List Char :=
  match s with
  | '.' :: rest =>
    match rest.takeWhile Char.isDigit with
    | [] => ([], s)
    | digits => (digits, rest.dropWhile Char.isDigit)
  | _ => ([], s)

/-- An exponent: a letter, perhaps a sign, and at least one digit. -/
def exponent? (s : List Char) : Option (Int × List Char) :=
  match s with
  | e :: rest =>
    if e = 'e' || e = 'E' then
      let (negative, rest) := match rest with
        | '-' :: rest => (true, rest)
        | '+' :: rest => (false, rest)
        | rest => (false, rest)
      match rest.takeWhile Char.isDigit with
      | [] => none
      | digits =>
        let n : Int := digitsValue digits
        some (if negative then -n else n, rest.dropWhile Char.isDigit)
    else none
  | [] => none

/-- The digits before the point: a single zero, or a run that does not open with zero. -/
def integerDigits (s : List Char) : List Char × List Char :=
  match s with
  | '0' :: rest => (['0'], rest)
  | _ => (s.takeWhile Char.isDigit, s.dropWhile Char.isDigit)

/-- A number that opens at `start`, whose digits are `s`. -/
def number (negative : Bool) (start s : List Char) : Except Refusal (Json × List Char) :=
  match integerDigits s with
  | ([], _) => refuse .expectedValue start
  | (whole, rest) =>
    let (part, rest) := fraction rest
    match part, exponent? rest with
    | [], none =>
      let n : Int := digitsValue whole
      if digitLimit < whole.length then refuse .tooManyDigits start
      else .ok (.int (if negative then -n else n), rest)
    | part, scale =>
      let (e, rest) := scale.getD (0, rest)
      .ok (.float (Binary64.ofDecimal negative (digitsValue (whole ++ part))
        (e - part.length)), rest)

mutual

/-- A value; the fuel is more than the length of the text. -/
def value : Nat → List Char → Except Refusal (Json × List Char)
  | 0, s => refuse .expectedValue s
  | fuel + 1, s =>
    match s with
    | '"' :: rest => do
      let (text, rest) ← string s rest
      return (.str text, rest)
    | '\x7b' :: rest =>
      match skipSpace rest with
      | '\x7d' :: rest => .ok (.obj [], rest)
      | rest => do
        let (entries, rest) ← members fuel [] rest
        return (.obj entries, rest)
    | '[' :: rest =>
      match skipSpace rest with
      | ']' :: rest => .ok (.arr [], rest)
      | rest => do
        let (items, rest) ← elements fuel rest
        return (.arr items, rest)
    | 'n' :: 'u' :: 'l' :: 'l' :: rest => .ok (.null, rest)
    | 't' :: 'r' :: 'u' :: 'e' :: rest => .ok (.bool true, rest)
    | 'f' :: 'a' :: 'l' :: 's' :: 'e' :: rest => .ok (.bool false, rest)
    | 'N' :: 'a' :: 'N' :: rest => .ok (.float Binary64.nan, rest)
    | 'I' :: 'n' :: 'f' :: 'i' :: 'n' :: 'i' :: 't' :: 'y' :: rest =>
      .ok (.float Binary64.infinity, rest)
    | '-' :: 'I' :: 'n' :: 'f' :: 'i' :: 'n' :: 'i' :: 't' :: 'y' :: rest =>
      .ok (.float Binary64.infinity.neg, rest)
    | '-' :: rest => number true s rest
    | _ => number false s s

/-- The entries of an object from a key on; of one key the last value stays, in the first place. -/
def members : Nat → Table Json → List Char → Except Refusal (Table Json × List Char)
  | 0, _, s => refuse .expectedKey s
  | fuel + 1, entries, s =>
    match s with
    | '"' :: body => do
      let (key, rest) ← string s body
      match skipSpace rest with
      | ':' :: rest => do
        let (item, rest) ← value fuel (skipSpace rest)
        let entries := entries.put key item
        match skipSpace rest with
        | '\x7d' :: rest => return (entries, rest)
        | ',' :: rest => members fuel entries (skipSpace rest)
        | rest => refuse .expectedComma rest
      | rest => refuse .expectedColon rest
    | _ => refuse .expectedKey s

/-- The items of an array from a value on. -/
def elements : Nat → List Char → Except Refusal (List Json × List Char)
  | 0, s => refuse .expectedValue s
  | fuel + 1, s => do
    let (item, rest) ← value fuel s
    match skipSpace rest with
    | ']' :: rest => return ([item], rest)
    | ',' :: rest => do
      let (items, rest) ← elements fuel (skipSpace rest)
      return (item :: items, rest)
    | rest => refuse .expectedComma rest

end

/-- A place in a text, counted from one, with its distance from the start. -/
structure Place where
  line : Nat
  column : Nat
  offset : Nat
deriving DecidableEq, Repr

/-- The place that stands `remaining` characters before the end. -/
def Place.before (s : List Char) (remaining : Nat) : Place :=
  let offset := s.length - remaining
  let passed := s.take offset
  { line := passed.count '\n' + 1
    column := (passed.reverse.takeWhile (· ≠ '\n')).length + 1
    offset }

/-- A refusal with its place. -/
structure SyntaxError where
  cause : Misfit
  place : Place
deriving DecidableEq, Repr

def SyntaxError.message (e : SyntaxError) : String :=
  e.cause.text ++ ": line " ++ toString e.place.line ++ " column " ++ toString e.place.column ++
    " (char " ++ toString e.place.offset ++ ")"

/-- A whole text as one value with blanks around it. -/
def document (s : List Char) : Except Refusal Json :=
  match s with
  | '\ufeff' :: _ => refuse .byteOrderMark s
  | _ => do
    let s := skipSpace s
    let (result, rest) ← value (s.length + 1) s
    match skipSpace rest with
    | [] => return result
    | rest => refuse .extraData rest

def parse (text : String) : Except SyntaxError Json :=
  (document text.toList).mapError fun r => ⟨r.cause, Place.before text.toList r.remaining⟩

end ResolverGen.Json
