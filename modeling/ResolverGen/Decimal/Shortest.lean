import ResolverGen.Decimal.Binary64

/-!
# Shortest decimal text

The fewest decimal digits that read back as a given floating point number, and of those the ones
nearest to it.
-/
namespace ResolverGen.Decimal

/-- The number of decimal digits of a natural number; zero has none. -/
def digitCount (n : Nat) : Nat := if n = 0 then 0 else (Nat.toDigits 10 n).length

/-- A positive binary number with the bounds of what reads back as it, all three in quarters of its
last place: numerators over `denominator`. -/
structure Interval where
  low : Nat
  value : Nat
  high : Nat
  denominator : Nat
  /-- Whether the bounds themselves read back as the number. -/
  closed : Bool
deriving DecidableEq, Repr

/-- The interval of `mantissa · 2 ^ exponent`. Below a power of two the gap is half as wide. -/
def Interval.ofBinary (mantissa : Nat) (exponent : Int) : Interval :=
  let narrow := mantissa = Nat.pow 2 52 ∧ exponent > -1074
  let scale := if 0 ≤ exponent then Nat.pow 2 exponent.toNat else 1
  { low := (4 * mantissa - (if narrow then 1 else 2)) * scale
    value := 4 * mantissa * scale
    high := (4 * mantissa + 2) * scale
    denominator := if 0 ≤ exponent then 4 else 4 * Nat.pow 2 exponent.natAbs
    closed := mantissa % 2 = 0 }

/-- Whether `n / d` lies in the interval, where `d` is given as a factor of `n`'s other side. -/
def Interval.holds (i : Interval) (numerator denominator : Nat) : Bool :=
  let x := numerator * i.denominator
  let lo := i.low * denominator
  let hi := i.high * denominator
  if i.closed then lo ≤ x && x ≤ hi else lo < x && x < hi

/-- A decimal number `digits · 10 ^ exponent`. -/
structure Scientific where
  digits : Nat
  exponent : Int
deriving DecidableEq, Repr

def Scientific.numerator (s : Scientific) : Nat := s.digits * Nat.pow 10 s.exponent.toNat

def Scientific.denominator (s : Scientific) : Nat := Nat.pow 10 (-s.exponent).toNat

/-- The power of ten just above the value: the number of digits before its point. -/
def Interval.magnitude (i : Interval) : Int :=
  let guess : Int := (digitCount i.value : Int) - digitCount i.denominator
  let up := Nat.pow 10 guess.toNat
  let down := Nat.pow 10 (-guess).toNat
  if i.denominator * up ≤ i.value * down then guess + 1 else guess

/-- The better of the two neighbours of the value on the grid of spacing `10 ^ exponent`, if either
lies in the interval. -/
def Interval.onGrid? (i : Interval) (exponent : Int) : Option Scientific :=
  let up := Nat.pow 10 exponent.toNat
  let down := Nat.pow 10 (-exponent).toNat
  let floor := i.value * down / (i.denominator * up)
  let below : Scientific := ⟨floor, exponent⟩
  let above : Scientific := ⟨floor + 1, exponent⟩
  let fits (s : Scientific) : Bool := i.holds s.numerator s.denominator
  match fits below && 0 < floor, fits above with
  | true, false => some below
  | false, true => some above
  | false, false => none
  | true, true =>
    let rest := 2 * (i.value * down - floor * (i.denominator * up))
    match compare rest (i.denominator * up) with
    | .lt => some below
    | .gt => some above
    | .eq => some (if floor % 2 = 0 then below else above)

/-- Without trailing zeros. -/
def Scientific.reduce : Nat → Scientific → Scientific
  | 0, s => s
  | fuel + 1, s =>
    if s.digits ≠ 0 ∧ s.digits % 10 = 0 then reduce fuel ⟨s.digits / 10, s.exponent + 1⟩ else s

/-- The first grid, from coarse to fine, with a point in the interval. Seventeen digits always have
one. -/
def Interval.shortest (i : Interval) : Scientific :=
  let top := i.magnitude
  let found := (List.range 17).findSome? fun (k : Nat) => i.onGrid? (top - ((k : Int) + 1))
  (found.getD ⟨0, 0⟩).reduce 20

/-- How decimal text is laid out. -/
structure Layout where
  /-- Least power of ten above a number that is written with its zeros after the point. -/
  leastPositional : Int
  /-- Greatest power of ten above a number that is written out in full. -/
  greatestPositional : Int

/-- Numbers are written out between `0.0001` and `10 ^ 16`, others with an exponent. -/
def layout : Layout := ⟨-3, 16⟩

/-- An exponent with its sign and at least two digits. -/
def exponentText (e : Int) : List Char :=
  let digits := Nat.toDigits 10 e.natAbs
  'e' :: (if e < 0 then '-' else '+') :: (if digits.length < 2 then '0' :: digits else digits)

/-- Text of a positive decimal number. A whole number keeps one zero after its point. -/
def Scientific.text (s : Scientific) : List Char :=
  let digits := Nat.toDigits 10 s.digits
  let point : Int := digits.length + s.exponent
  if layout.leastPositional ≤ point ∧ point ≤ layout.greatestPositional then
    if point ≤ 0 then
      ['0', '.'] ++ List.replicate point.natAbs '0' ++ digits
    else if digits.length ≤ point.toNat then
      digits ++ List.replicate (point.toNat - digits.length) '0' ++ ['.', '0']
    else
      digits.take point.toNat ++ '.' :: digits.drop point.toNat
  else
    match digits with
    | [d] => d :: exponentText (point - 1)
    | d :: more => d :: '.' :: more ++ exponentText (point - 1)
    | [] => []

/-- Text of a floating point number. -/
def text (x : Binary64) : List Char :=
  match x.reading with
  | .nan => "nan".toList
  | .infinite negative => if negative then "-inf".toList else "inf".toList
  | .finite negative m e =>
    let magnitude := if m = 0 then "0.0".toList else (Interval.ofBinary m e).shortest.text
    if negative then '-' :: magnitude else magnitude

end ResolverGen.Decimal
