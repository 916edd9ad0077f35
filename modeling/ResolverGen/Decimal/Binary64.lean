/-!
# Binary floating point numbers

A 64-bit floating point number as its bits, with the arithmetic of the machine. Two numbers are the
same when their bits are; `compare?` orders them as numbers.
-/
namespace ResolverGen

structure Binary64 where
  bits : UInt64
deriving DecidableEq, Repr, Inhabited

/-- What the bits of a number say: a finite number is `mantissa · 2 ^ exponent`. -/
inductive Binary64.Reading where
  | nan
  | infinite (negative : Bool)
  | finite (negative : Bool) (mantissa : Nat) (exponent : Int)
deriving DecidableEq, Repr

namespace Binary64

def ofFloat (x : Float) : Binary64 := ⟨x.toBits⟩

def toFloat (x : Binary64) : Float := Float.ofBits x.bits

def reading (x : Binary64) : Reading :=
  let n := x.bits.toNat
  let negative := n / Nat.pow 2 63 = 1
  let exponent : Nat := n / Nat.pow 2 52 % Nat.pow 2 11
  let fraction := n % Nat.pow 2 52
  if exponent = 2047 then (if fraction = 0 then .infinite negative else .nan)
  else if exponent = 0 then .finite negative fraction (-1074)
  else .finite negative (Nat.pow 2 52 + fraction) ((exponent : Int) - 1075)

def isNegative (x : Binary64) : Bool := x.bits.toNat / Nat.pow 2 63 = 1

def isInfinite (x : Binary64) : Bool :=
  match x.reading with
  | .infinite _ => true
  | _ => false

def isFinite (x : Binary64) : Bool :=
  match x.reading with
  | .finite .. => true
  | _ => false

def isZero (x : Binary64) : Bool := x.bits.toNat % Nat.pow 2 63 = 0

/-- The number with its sign changed. -/
def neg (x : Binary64) : Binary64 := ⟨x.bits ^^^ ((1 : UInt64) <<< 63)⟩

def add (x y : Binary64) : Binary64 := ofFloat (x.toFloat + y.toFloat)

def sub (x y : Binary64) : Binary64 := ofFloat (x.toFloat - y.toFloat)

def mul (x y : Binary64) : Binary64 := ofFloat (x.toFloat * y.toFloat)

def div (x y : Binary64) : Binary64 := ofFloat (x.toFloat / y.toFloat)

def pow (x y : Binary64) : Binary64 := ofFloat (Float.pow x.toFloat y.toFloat)

def zero : Binary64 := ⟨0⟩

def infinity : Binary64 := ⟨0x7FF0000000000000⟩

def nan : Binary64 := ⟨0x7FF8000000000000⟩

/-- The nearest number to `digits · 10 ^ exponent`. Exponents far out of range are cut short: what
they leave is zero or infinity either way. -/
def ofDecimal (negative : Bool) (digits : Nat) (exponent : Int) : Binary64 :=
  let size : Int := (Nat.toDigits 10 digits).length
  let magnitude :=
    if digits = 0 then zero
    else if exponent + size > 400 then infinity
    else if exponent + size < -400 then zero
    else if exponent < 0 then ofFloat (Float.ofScientific digits true exponent.natAbs)
    else ofFloat (Float.ofScientific digits false exponent.natAbs)
  if negative then magnitude.neg else magnitude

/-- The nearest number to an integer, or none if it is out of range. -/
def ofInt? (n : Int) : Option Binary64 :=
  let x := ofDecimal (n < 0) n.natAbs 0
  if x.bits.toNat % Nat.pow 2 63 = infinity.bits.toNat then none else some x

/-- Exact order of a finite mantissa and exponent against another. -/
def compareScaled (m : Int) (e : Int) (n : Int) (f : Int) : Ordering :=
  let low := min e f
  compare (m * Int.pow 2 (e - low).toNat) (n * Int.pow 2 (f - low).toNat)

def signed (negative : Bool) (m : Nat) : Int := if negative then -(m : Int) else m

/-- Order as numbers; a NaN has none. -/
def compare? (x y : Binary64) : Option Ordering :=
  match x.reading, y.reading with
  | .nan, _ => none
  | _, .nan => none
  | .infinite a, .infinite b => some (compare b a)
  | .infinite a, .finite .. => some (if a then .lt else .gt)
  | .finite .., .infinite b => some (if b then .gt else .lt)
  | .finite a m e, .finite b n f => some (compareScaled (signed a m) e (signed b n) f)

/-- Order of an integer against a number. -/
def compareInt? (n : Int) (y : Binary64) : Option Ordering :=
  match y.reading with
  | .nan => none
  | .infinite b => some (if b then .gt else .lt)
  | .finite b m e => some (compareScaled n 0 (signed b m) e)

/-- The nearest number to `mantissa · 2 ^ exponent`. -/
def ofScaled (negative : Bool) (mantissa : Nat) (exponent : Int) : Binary64 :=
  let x := ofFloat ((Float.ofNat mantissa).scaleB exponent)
  if negative then x.neg else x

/-- The nearest number to a quotient of integers; the divisor is not zero. -/
def ofQuotient (n d : Int) : Binary64 :=
  let shift : Int := 70 + (d.natAbs.log2 : Int) - (n.natAbs.log2 : Int)
  let top := n.natAbs * Nat.pow 2 shift.toNat
  let bottom := d.natAbs * Nat.pow 2 (-shift).toNat
  let quotient := 2 * (top / bottom) + (if top % bottom = 0 then 0 else 1)
  if n = 0 then zero else ofScaled ((n < 0) != (d < 0)) quotient (-shift - 1)

/-- What is left of `x` after taking away whole multiples of `y`, with the sign of `x`. -/
def remainder (x y : Binary64) : Binary64 :=
  match x.reading, y.reading with
  | .finite a m e, .finite _ n f =>
    if n = 0 then nan
    else
      let low := min e f
      ofScaled a (m * Nat.pow 2 (e - low).toNat % (n * Nat.pow 2 (f - low).toNat)) low
  | .finite .., .infinite _ => x
  | _, _ => nan

def withSignOf (x y : Binary64) : Binary64 := if x.isNegative = y.isNegative then x else x.neg

/-- Remainder with the sign of the divisor. -/
def floorMod (x y : Binary64) : Binary64 :=
  let r := x.remainder y
  if r.isZero then withSignOf zero y
  else if r.isNegative = y.isNegative then r else r.add y

/-- Quotient rounded down. -/
def floorDiv (x y : Binary64) : Binary64 :=
  let r := x.remainder y
  let quotient := (x.sub r).div y
  let quotient :=
    if !r.isZero && r.isNegative != y.isNegative then quotient.sub (ofFloat 1.0) else quotient
  if quotient.isZero then withSignOf zero (x.div y)
  else
    let floor := ofFloat quotient.toFloat.floor
    if quotient.toFloat - floor.toFloat > 0.5 then floor.add (ofFloat 1.0) else floor

end Binary64

end ResolverGen
