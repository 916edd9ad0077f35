import ResolverGen.Json.Parser
import ResolverGen.Template.Token
import ResolverGen.Text.Lines
import ResolverGen.Text.Word

/-!
# Reading template tokens

Text between tags stays as it is, but for the blanks that tags take away: a minus sign at a tag
takes all blanks on its side, a block or comment on a line of its own takes the indentation before
it and the newline after it.
-/
namespace ResolverGen.Template

/-- A token, or the fault at which reading stops. -/
inductive Lexeme where
  | token (t : Placed)
  | fault (f : SyntaxFault)
deriving DecidableEq, Repr

/-- The sign at the opening of a tag. -/
inductive Sign where
  | none
  | minus
  | plus
deriving DecidableEq, Repr

def Sign.read : List Char → Sign × List Char
  | '-' :: rest => (.minus, rest)
  | '+' :: rest => (.plus, rest)
  | rest => (.none, rest)

/-- What a tag opens. -/
inductive Opening where
  | output
  | block
  | comment
  | raw
deriving DecidableEq, Repr

def dropBlanks (s : List Char) : List Char := s.dropWhile Text.isBlank

/-- What follows a raw tag, given what follows the braces and the sign. -/
def afterRaw? (s : List Char) : Option (List Char) :=
  match dropBlanks s with
  | 'r' :: 'a' :: 'w' :: rest =>
    match dropBlanks rest with
    | '-' :: '%' :: '\x7d' :: rest => some (dropBlanks rest)
    | '%' :: '\x7d' :: rest => some rest
    | _ => none
  | _ => none

/-- The tag that a text opens with, with its sign and what follows. -/
def Opening.read? : List Char → Option (Opening × Sign × List Char)
  | '\x7b' :: '\x7b' :: rest => some (.output, Sign.read rest)
  | '\x7b' :: '#' :: rest => some (.comment, Sign.read rest)
  | '\x7b' :: '%' :: rest =>
    let (sign, rest) := Sign.read rest
    match afterRaw? rest with
    | some rest => some (.raw, sign, rest)
    | none => some (.block, sign, rest)
  | _ => none

/-- The text before the first tag, and that tag. -/
def splitAtTag : List Char → List Char × Option (Opening × Sign × List Char)
  | [] => ([], none)
  | c :: rest =>
    match Opening.read? (c :: rest) with
    | some tag => ([], some tag)
    | none =>
      let (text, tag?) := splitAtTag rest
      (c :: text, tag?)

/-- A text before a block without the blanks after its last newline, if nothing else stands there.
A text without newline counts as a line only where one begins. -/
def dropIndent (lineStart : Bool) (text : List Char) : List Char :=
  let tail := text.reverse.takeWhile (· ≠ '\n')
  if ('\n' ∈ text || lineStart) && tail.all Text.isBlank then text.take (text.length - tail.length)
  else text

/-- The text before a tag as the tag leaves it. -/
def trimBefore (opening : Opening) (sign : Sign) (lineStart : Bool) (text : List Char) :
    List Char :=
  match sign with
  | .minus => Text.stripRight text
  | .plus => text
  | .none => if opening = .output then text else dropIndent lineStart text

/-- What follows the end of a block or comment, whose last characters are given; at most one newline
is taken along. -/
def blockEnd? (mark : Char) : List Char → Option (List Char)
  | '+' :: c :: '\x7d' :: rest => if c = mark then some rest else none
  | '-' :: c :: '\x7d' :: rest => if c = mark then some (dropBlanks rest) else none
  | c :: '\x7d' :: '\n' :: rest => if c = mark then some rest else none
  | c :: '\x7d' :: rest => if c = mark then some rest else none
  | _ => none

/-- What follows the end of an output tag. -/
def outputEnd? : List Char → Option (List Char)
  | '-' :: '\x7d' :: '\x7d' :: rest => some (dropBlanks rest)
  | '\x7d' :: '\x7d' :: rest => some rest
  | _ => none

/-- What follows a comment. -/
def afterComment? : List Char → Option (List Char)
  | [] => none
  | c :: rest =>
    match blockEnd? '#' (c :: rest) with
    | some after => some after
    | none => afterComment? rest

/-- What follows the tag that ends a raw part, given the text at it. -/
def rawEnd? : List Char → Option (Sign × List Char)
  | '\x7b' :: '%' :: rest =>
    let (sign, rest) := Sign.read rest
    match dropBlanks rest with
    | 'e' :: 'n' :: 'd' :: 'r' :: 'a' :: 'w' :: rest =>
      (blockEnd? '%' (dropBlanks rest)).map (sign, ·)
    | _ => none
  | _ => none

/-- The text of a raw part, the sign at its end and what follows. -/
def splitAtRawEnd : List Char → Option (List Char × Sign × List Char)
  | [] => none
  | c :: rest =>
    match rawEnd? (c :: rest) with
    | some (sign, after) => some ([], sign, after)
    | none => (splitAtRawEnd rest).map fun r => (c :: r.1, r.2)

/-- Whether the characters that were read to come from `before` to `after` end with a newline. -/
def endsLine (before after : List Char) : Bool :=
  (before.take (before.length - after.length)).getLast? = some '\n'

def lineCount (before after : List Char) : Nat :=
  (before.take (before.length - after.length)).count '\n'

/-- A run of digits in which single underscores may stand between digits. -/
def digitRun (isDigit : Char → Bool) : List Char → List Char × List Char
  | [] => ([], [])
  | c :: rest =>
    if isDigit c then
      let (ds, rest) := digitRun isDigit rest
      (c :: ds, rest)
    else match c, rest with
      | '_', d :: more =>
        if isDigit d then
          let (ds, rest) := digitRun isDigit (d :: more)
          (ds, rest)
        else ([], '_' :: d :: more)
      | _, _ => ([], c :: rest)

/-- A digit run that opens with a digit. -/
def digitRun? (isDigit : Char → Bool) (s : List Char) : Option (List Char × List Char) :=
  match s with
  | c :: _ => if isDigit c then some (digitRun isDigit s) else none
  | [] => none

/-- An exponent: its sign, digits and what follows. -/
def exponent? : List Char → Option (Int × List Char)
  | e :: rest =>
    if e = 'e' || e = 'E' then
      let (negative, rest) := match rest with
        | '-' :: rest => (true, rest)
        | '+' :: rest => (false, rest)
        | rest => (false, rest)
      (digitRun? Char.isDigit rest).map fun (ds, rest) =>
        let n : Int := Json.digitsValue ds
        (if negative then -n else n, rest)
    else none
  | [] => none

/-- A number with a fraction or an exponent. -/
def float? (s : List Char) : Option (Binary64 × List Char) := do
  let (whole, rest) ← digitRun? Char.isDigit s
  let (part, rest) := match rest with
    | '.' :: more => (digitRun? Char.isDigit more).getD ([], rest)
    | _ => ([], rest)
  match part, exponent? rest with
  | [], none => none
  | part, scale? =>
    let (e, rest) := scale?.getD (0, rest)
    some (Binary64.ofDecimal false (Json.digitsValue (whole ++ part)) (e - part.length), rest)

/-- Digits after a mark such as `0x`; an underscore may stand before each. -/
def markedInteger? (base : Nat) (isDigit : Char → Bool) (s : List Char) :
    Option (Nat × List Char) :=
  let s := match s with
    | '_' :: rest => rest
    | s => s
  (digitRun? isDigit s).map fun (ds, rest) =>
    (ds.foldl (fun n c => n * base + (Json.hexValue? c).getD 0) 0, rest)

/-- A whole number: binary, octal, hexadecimal or decimal; only zero opens with the digit zero. -/
def integer? : List Char → Option (Nat × List Char)
  | '0' :: rest =>
    let marked := match rest with
      | mark :: digits =>
        if mark = 'b' || mark = 'B' then markedInteger? 2 (fun c => c = '0' || c = '1') digits
        else if mark = 'o' || mark = 'O' then
          markedInteger? 8 (fun c => '0' ≤ c && c ≤ '7') digits
        else if mark = 'x' || mark = 'X' then
          markedInteger? 16 (fun c => (Json.hexValue? c).isSome) digits
        else none
      | [] => none
    match marked with
    | some r => some r
    | none => some (0, (digitRun (· = '0') ('0' :: rest)).2)
  | s => (digitRun? Char.isDigit s).map fun (ds, rest) => (Json.digitsValue ds, rest)

/-- What stands between quotation marks, as written, and what follows. -/
def quotedText? (mark : Char) : List Char → Option (List Char × List Char)
  | [] => none
  | '\\' :: c :: rest => (quotedText? mark rest).map fun r => ('\\' :: c :: r.1, r.2)
  | c :: rest =>
    if c = mark then some ([], rest)
    else if c = '\\' then none
    else (quotedText? mark rest).map fun r => (c :: r.1, r.2)

/-- Characters beyond ASCII written as escapes. -/
def escapeWide (s : List Char) : List Char :=
  s.flatMap fun c => if c.toNat < 0x80 then [c] else Text.codePointEscape c

/-- The number that `count` hexadecimal digits write. -/
def hexNumber? (count : Nat) (s : List Char) : Option Nat :=
  let ds := s.take count
  if ds.length = count && ds.all (fun c => (Json.hexValue? c).isSome) then
    some (ds.foldl (fun n c => n * 16 + (Json.hexValue? c).getD 0) 0)
  else none

def isOctal (c : Char) : Bool := '0' ≤ c && c ≤ '7'

/-- The character of an escape by one letter; a newline stands for nothing. -/
def letterEscape? (c : Char) : Option (List Char) :=
  match c with
  | '\n' => some []
  | '\\' => some ['\\']
  | '\'' => some ['\'']
  | '"' => some ['"']
  | 'a' => some ['\x07']
  | 'b' => some ['\x08']
  | 'f' => some ['\x0c']
  | 'n' => some ['\n']
  | 'r' => some ['\r']
  | 't' => some ['\t']
  | 'v' => some ['\x0b']
  | _ => none

/-- The text that escapes write; an unknown escape stands for itself. The fuel is the length. -/
def unescape : Nat → List Char → Except SyntaxFault (List Char)
  | 0, _ => .ok []
  | _ + 1, [] => .ok []
  | fuel + 1, '\\' :: c :: rest =>
    let coded (count : Nat) (reason : String) : Except SyntaxFault (List Char) :=
      match hexNumber? count rest with
      | none => .error (.badEscape reason)
      | some n =>
        if 0x110000 ≤ n then .error (.badEscape "illegal Unicode character")
        else (unescape fuel (rest.drop count)).map (Json.unitChar n :: ·)
    match letterEscape? c with
    | some cs => (unescape fuel rest).map (cs ++ ·)
    | none =>
      if c = 'x' then coded 2 "truncated \\xXX escape"
      else if c = 'u' then coded 4 "truncated \\uXXXX escape"
      else if c = 'U' then coded 8 "truncated \\UXXXXXXXX escape"
      else if c = 'N' then
        .error (.badEscape (if rest.head? = some '\x7b' && '\x7d' ∈ rest
          then "unknown Unicode character name" else "malformed \\N character escape"))
      else if isOctal c then
        let ds := c :: (rest.take 2).takeWhile isOctal
        let n := ds.foldl (fun n c => n * 8 + (c.toNat - 48)) 0
        (unescape fuel (rest.drop (ds.length - 1))).map (Char.ofNat n :: ·)
      else (unescape fuel rest).map ('\\' :: c :: ·)
  | fuel + 1, c :: rest => (unescape fuel rest).map (c :: ·)

/-- The value of a string as written between its marks. -/
def stringValue (written : List Char) : Except SyntaxFault String :=
  let s := escapeWide written
  (unescape (s.length + 1) s).map String.ofList

def closerOf? : Operator → Option Char
  | .braceL => some '\x7d'
  | .parenL => some ')'
  | .bracketL => some ']'
  | _ => none

def closing? : Operator → Option Char
  | .braceR => some '\x7d'
  | .parenR => some ')'
  | .bracketR => some ']'
  | _ => none

/-- The brackets still open after an operator, innermost first. -/
def balance (op : Operator) (opened : List Char) : Except SyntaxFault (List Char) :=
  match closerOf? op, closing? op with
  | some closer, _ => .ok (closer :: opened)
  | none, some found =>
    match opened with
    | [] => .error (.unexpectedBracket found)
    | expected :: rest =>
      if expected = found then .ok rest else .error (.mismatchedBracket found expected)
  | none, none => .ok opened

/-- The token that a text within a tag opens with. -/
def tagToken (afterDot : Bool) (position : Nat) (s : List Char) (c : Char) :
    Except SyntaxFault (Token × List Char) :=
  match (if afterDot then none else float? s) with
  | some (x, rest) => .ok (.float x, rest)
  | none =>
    match integer? s with
    | some (n, rest) => .ok (.integer n, rest)
    | none =>
      if Text.isWordChar c then
        let word := s.takeWhile Text.isWordChar
        if Text.isIdentifier word then
          .ok (.name (String.ofList word), s.dropWhile Text.isWordChar)
        else .error .notIdentifier
      else
        let string? := if c = '\'' || c = '"' then quotedText? c s.tail else none
        match string? with
        | some (written, rest) => (stringValue written).map fun value => (.string value, rest)
        | none =>
          match Operator.read? s with
          | some (op, rest) => .ok (.operator op, rest)
          | none => .error (.unexpectedCharacter c position)

/-- Where reading stands: between tags, or within an output or block tag with the brackets that are
open in it and whether a dot was just read. -/
inductive Mode where
  | text (lineStart : Bool)
  | tag (isOutput : Bool) (opened : List Char) (afterDot : Bool)
deriving DecidableEq, Repr

def dataLexeme (text : List Char) (line : Nat) : List Lexeme :=
  if text.isEmpty then [] else [.token ⟨.data (String.ofList text), line⟩]

/-- The lexemes of the rest `s` of a template of `size` characters. The fuel is more than the length
of the rest. -/
def lexemesFrom (size : Nat) : Nat → Mode → Nat → List Char → List Lexeme
  | 0, _, _, _ => []
  | _ + 1, _, _, [] => []
  | fuel + 1, .text lineStart, line, s =>
    match splitAtTag s with
    | (text, none) => dataLexeme text line
    | (text, some (opening, sign, rest)) =>
      let data := dataLexeme (trimBefore opening sign lineStart text) line
      let tagLine := line + text.count '\n'
      let next := line + lineCount s rest
      data ++ match opening with
        | .output =>
          .token ⟨.outputBegin, tagLine⟩ :: lexemesFrom size fuel (.tag true [] false) next rest
        | .block =>
          .token ⟨.blockBegin, tagLine⟩ :: lexemesFrom size fuel (.tag false [] false) next rest
        | .comment =>
          match afterComment? rest with
          | some after =>
            lexemesFrom size fuel (.text (endsLine s after)) (line + lineCount s after) after
          | none => if rest.isEmpty then [] else [.fault .unclosedComment]
        | .raw =>
          match splitAtRawEnd rest with
          | some (raw, sign, after) =>
            dataLexeme (trimBefore .raw sign (endsLine s rest) raw) next ++
              lexemesFrom size fuel (.text (endsLine s after)) (line + lineCount s after) after
          | none => if rest.isEmpty then [] else [.fault .unclosedRaw]
  | fuel + 1, .tag isOutput opened afterDot, line, c :: rest =>
    let s := c :: rest
    let end? := if opened.isEmpty then (if isOutput then outputEnd? s else blockEnd? '%' s) else none
    match end? with
    | some after =>
      .token ⟨if isOutput then .outputEnd else .blockEnd, line⟩ ::
        lexemesFrom size fuel (.text (endsLine s after)) (line + lineCount s after) after
    | none =>
      if Text.isBlank c then
        lexemesFrom size fuel (.tag isOutput opened false) (if c = '\n' then line + 1 else line) rest
      else match tagToken afterDot (size - s.length) s c with
        | .error f => [.fault f]
        | .ok (t, after) =>
          let opened' := match t with
            | .operator op => balance op opened
            | _ => .ok opened
          match opened' with
          | .error f => [.fault f]
          | .ok opened =>
            .token ⟨t, line⟩ ::
              lexemesFrom size fuel (.tag isOutput opened (t == .operator .dot))
                (line + lineCount s after) after

/-- The lexemes of a template. -/
def lexemes (source : String) : List Lexeme :=
  let s := Text.newlines source.toList
  lexemesFrom s.length (s.length + 1) (.text true) 1 s

end ResolverGen.Template
