import ResolverGen.Template.Fault
import ResolverGen.Template.Syntax
import ResolverGen.Template.Value

/-!
# Arithmetic on values

The operators on numbers, texts and sequences. Integers are exact; with a floating point number on
either side both count as such.
-/
namespace ResolverGen.Template

open Value

/-- The message of a missing value. -/
def Value.missing? : Value → Option String
  | .undefined _ message => some message
  | _ => none

/-- An integer as a floating point number. -/
def intAsFloat (n : Int) : Except Fault Binary64 :=
  match Binary64.ofInt? n with
  | some x => .ok x
  | none => .error (.badValue "int too large to convert to float")

def Number.asFloat : Number → Except Fault Binary64
  | .int n => intAsFloat n
  | .float x => .ok x

/-- A power of floating point numbers; that of finite ones has to be finite. -/
def floatPower (x y : Binary64) : Except Fault Value :=
  let power := x.pow y
  if x.isZero && y.isNegative && !y.isZero then
    .error (.division "0.0 cannot be raised to a negative power")
  else if x.isFinite && y.isFinite && power.isInfinite then
    .error (.badValue "(34, 'Numerical result out of range')")
  else .ok (.float power)

/-- A power of integers, a floating point number if the exponent is negative. -/
def intPower (m n : Int) : Except Fault Value :=
  if 0 ≤ n then .ok (.int (Int.pow m n.toNat))
  else do floatPower (← intAsFloat m) (← intAsFloat n)

def intOperation (op : BinaryOp) (m n : Int) : Except Fault Value :=
  match op with
  | .add => .ok (.int (m + n))
  | .sub => .ok (.int (m - n))
  | .mul => .ok (.int (m * n))
  | .div =>
    if n = 0 then .error (.division "division by zero") else .ok (.float (Binary64.ofQuotient m n))
  | .floorDiv =>
    if n = 0 then .error (.division "integer division or modulo by zero")
    else .ok (.int (m.fdiv n))
  | .mod =>
    if n = 0 then .error (.division "integer modulo by zero") else .ok (.int (m.fmod n))
  | .pow => intPower m n

def floatOperation (op : BinaryOp) (x y : Binary64) : Except Fault Value :=
  match op with
  | .add => .ok (.float (x.add y))
  | .sub => .ok (.float (x.sub y))
  | .mul => .ok (.float (x.mul y))
  | .div =>
    if y.isZero then .error (.division "float division by zero") else .ok (.float (x.div y))
  | .floorDiv =>
    if y.isZero then .error (.division "float floor division by zero")
    else .ok (.float (x.floorDiv y))
  | .mod => if y.isZero then .error (.division "float modulo") else .ok (.float (x.floorMod y))
  | .pow => floatPower x y

def numberOperation (op : BinaryOp) (a b : Number) : Except Fault Value :=
  match a, b with
  | .int m, .int n => intOperation op m n
  | a, b => do floatOperation op (← a.asFloat) (← b.asFloat)

/-- A list put after itself a number of times. -/
def repeatList {α : Type} (xs : List α) (n : Int) : List α := (List.replicate n.toNat xs).flatten

/-- Repetition of a sequence. -/
def repeated? (v : Value) (n : Int) : Option Value :=
  match v with
  | .str s => some (.str (String.ofList (repeatList s.toList n)))
  | .list items => some (.list (repeatList items n))
  | .tuple items => some (.tuple (repeatList items n))
  | _ => none

def isSequence : Value → Bool
  | .str _ | .list _ | .tuple _ => true
  | _ => false

/-- The conversions of a format text carried out on values; `mapping` tells that the values were
given as one mapping, which may stay unused. -/
def formatChars (mapping : Bool) : List Char → List Value → Except Fault (List Char)
  | [], [] => .ok []
  | [], _ :: _ =>
    if mapping then .ok []
    else .error (.badValue "not all arguments converted during string formatting")
  | '%' :: '%' :: rest, values => (formatChars mapping rest values).map ('%' :: ·)
  | '%' :: c :: rest, values =>
    if c = 's' || c = 'r' || c = 'd' then
      match values with
      | [] => .error (.badValue "not enough arguments for format string")
      | value :: values =>
        match value.missing? with
        | some message => .error (.missing message)
        | none =>
          if c = 'd' && (asInt? value).isNone then
            .error (.badValue ("%d format: a real number is required, not " ++ value.kindName))
          else
            let text := if c = 'r' then value.shown else value.plainText.toList
            (formatChars mapping rest values).map (text ++ ·)
    else .error (.badValue ("unsupported format character " ++ quotedName c.toString))
  | ['%'], _ => .error (.badValue "incomplete format")
  | c :: rest, values => (formatChars mapping rest values).map (c :: ·)

/-- A format text with the values it names. -/
def formatText (s : String) (v : Value) : Except Fault Value :=
  let chars := match v with
    | .tuple items => formatChars false s.toList items
    | .dict _ | .frozen _ | .list _ => formatChars true s.toList [v]
    | v => formatChars false s.toList [v]
  chars.map fun cs => .str (String.ofList cs)

/-- What is wrong with operands that are no numbers and fit no rule. -/
def operandFault (op : BinaryOp) (a b : Value) : Fault :=
  match op, a with
  | .add, .str _ => .concatenation "str" b.kindName
  | .add, .list _ => .concatenation "list" b.kindName
  | .add, .tuple _ => .concatenation "tuple" b.kindName
  | .mul, a =>
    if isSequence a then .repetition b.kindName
    else if isSequence b then .repetition a.kindName
    else .operands op.text a.kindName b.kindName
  | _, a => .operands op.text a.kindName b.kindName

def binaryOperation (op : BinaryOp) (a b : Value) : Except Fault Value :=
  match a.missing?, b.missing? with
  | some message, _ => .error (.missing message)
  | none, some message => .error (.missing message)
  | none, none =>
    match asNumber? a, asNumber? b with
    | some m, some n => numberOperation op m n
    | _, _ =>
      match op, a, b with
      | .add, .str s, .str t => .ok (.str (s ++ t))
      | .add, .list s, .list t => .ok (.list (s ++ t))
      | .add, .tuple s, .tuple t => .ok (.tuple (s ++ t))
      | .mod, .str s, v => formatText s v
      | .mul, a, b =>
        let product? := match asInt? a, asInt? b with
          | _, some n => repeated? a n
          | some n, _ => repeated? b n
          | none, none => none
        match product? with
        | some v => .ok v
        | none => .error (operandFault .mul a b)
      | op, a, b => .error (operandFault op a b)

def negation (v : Value) : Except Fault Value :=
  match v, asNumber? v with
  | .undefined _ message, _ => .error (.missing message)
  | _, some (.int n) => .ok (.int (-n))
  | _, some (.float x) => .ok (.float x.neg)
  | v, none => .error (.sign "-" v.kindName)

def identity (v : Value) : Except Fault Value :=
  match v, asNumber? v with
  | .undefined _ message, _ => .error (.missing message)
  | _, some (.int n) => .ok (.int n)
  | _, some (.float x) => .ok (.float x)
  | v, none => .error (.sign "+" v.kindName)

end ResolverGen.Template
