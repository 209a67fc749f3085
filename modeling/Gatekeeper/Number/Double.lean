/-!
# Double precision numbers

A finite double is a sign and a magnitude `significand * 2 ^ exponent`. Rounding
goes to the nearest double and a tie to the even one, in exact arithmetic on
natural numbers. The text of a double is the shortest decimal that reads back as
it.
-/

namespace Gatekeeper.Number

/-- The value `significand * 2 ^ exponent`. A rounded magnitude has a
significand below `2 ^ 53` and an exponent of at least `-1074`, and no smaller
exponent would do. -/
structure Magnitude where
  significand : Nat
  exponent : Int
deriving DecidableEq, Repr

structure Double where
  negative : Bool
  magnitude : Magnitude
deriving DecidableEq, Repr

namespace Magnitude

def zero : Magnitude := ⟨0, -1074⟩

/-- `numerator / denominator` with the power of two `2 ^ exponent` brought in,
as a quotient of natural numbers. -/
def scaled (numerator denominator : Nat) (exponent : Int) : Nat × Nat :=
  if 0 ≤ exponent then
    (numerator * Nat.pow 2 exponent.toNat, denominator)
  else
    (numerator, denominator * Nat.pow 2 (-exponent).toNat)

/-- The nearest natural number to a quotient, the even one of two. -/
def nearestEven (numerator denominator : Nat) : Nat :=
  let quotient := numerator / denominator
  let twice := 2 * (numerator % denominator)
  if twice < denominator then quotient
  else if denominator < twice then quotient + 1
  else if quotient % 2 = 0 then quotient
  else quotient + 1

/-- The greatest `power` with `2 ^ power ≤ numerator / denominator`, for
positive operands. -/
def floorLog2 (numerator denominator : Nat) : Int :=
  let estimate : Int := (Nat.log2 numerator : Int) - Nat.log2 denominator
  let (above, below) := scaled numerator denominator (-estimate)
  if below ≤ above then estimate else estimate - 1

/-- The double nearest to a quotient, unless it is too large for one. -/
def ofQuotient? (numerator denominator : Nat) : Option Magnitude :=
  if numerator = 0 then
    some zero
  else
    let exponent := max (floorLog2 numerator denominator - 52) (-1074)
    let (above, below) := scaled numerator denominator (-exponent)
    let significand := nearestEven above below
    let rounded : Magnitude :=
      if significand = Nat.pow 2 53 then ⟨Nat.pow 2 52, exponent + 1⟩
      else ⟨significand, exponent⟩
    if 971 < rounded.exponent then none else some rounded

def toQuotient (magnitude : Magnitude) : Nat × Nat :=
  scaled magnitude.significand 1 magnitude.exponent

/-- Round the product with a natural number. -/
def timesNat? (magnitude : Magnitude) (factor : Magnitude) : Option Magnitude :=
  let (above, below) := magnitude.toQuotient
  let (factorAbove, factorBelow) := factor.toQuotient
  ofQuotient? (above * factorAbove) (below * factorBelow)

/-- Round the quotient by a positive number. -/
def over? (magnitude : Magnitude) (divisor : Magnitude) : Option Magnitude :=
  let (above, below) := magnitude.toQuotient
  let (divisorAbove, divisorBelow) := divisor.toQuotient
  ofQuotient? (above * divisorBelow) (below * divisorAbove)

/-- The double nearest to a power of ten. -/
def tenToThe (power : Nat) : Magnitude :=
  (ofQuotient? (Nat.pow 10 power) 1).getD zero

/-- Divide by `10 ^ 308` until the power of ten that remains is in reach, then
by that. Three rounds bring every significand below the least double. -/
def scaleDown? : Nat → Magnitude → Nat → Option Magnitude
  | 0, magnitude, _ => some magnitude
  | rounds + 1, magnitude, power =>
      if power ≤ 308 then
        magnitude.over? (tenToThe power)
      else if magnitude.significand = 0 then
        some magnitude
      else
        (magnitude.over? (tenToThe 308)).bind fun smaller =>
          scaleDown? rounds smaller (power - 308)

/-- The double read for `significand * 10 ^ exponent`: the significand is
rounded first, and the result of scaling it by a rounded power of ten is rounded
again. -/
def ofDecimal? (significand : Nat) (exponent : Int) : Option Magnitude :=
  (ofQuotient? significand 1).bind fun start =>
    if exponent < 0 then
      scaleDown? 4 start (-exponent).toNat
    else if exponent ≤ 308 then
      start.timesNat? (tenToThe exponent.toNat)
    else if significand = 0 then
      some start
    else
      none

def truncated (magnitude : Magnitude) : Nat :=
  let (above, below) := magnitude.toQuotient
  above / below

/-- The nearest natural number, the greater one of two. -/
def nearestUp (magnitude : Magnitude) : Nat :=
  let (above, below) := magnitude.toQuotient
  (2 * above + below) / (2 * below)

end Magnitude

/-! ### Shortest decimal text -/

namespace Magnitude

/-- The ends of the interval of numbers that round to a double, as numerators
over the common denominator of the triple, together with the double itself. -/
def roundingInterval (magnitude : Magnitude) : Nat × Nat × Nat × Nat :=
  let lowerGap :=
    if magnitude.significand = Nat.pow 2 52 ∧ -1074 < magnitude.exponent then 1
    else 2
  let (unit, denominator) := scaled 1 4 magnitude.exponent
  (unit * (4 * magnitude.significand - lowerGap),
    unit * (4 * magnitude.significand),
    unit * (4 * magnitude.significand + 2), denominator)

/-- The decimal grid point `digits * 10 ^ power` compared with an interval that
is closed iff `closed`. -/
def gridHit (closed : Bool) (lower upper denominator digits : Nat)
    (power : Int) : Bool :=
  let (above, below) :=
    if 0 ≤ power then (digits * Nat.pow 10 power.toNat, 1)
    else (digits, Nat.pow 10 (-power).toNat)
  let point := above * denominator
  if closed then
    lower * below ≤ point && point ≤ upper * below
  else
    lower * below < point && point < upper * below

/-- The decimal neighbours of a number on a grid: the point below it, and
whether the point above it is the nearer one. -/
def gridNeighbours (value denominator : Nat) (power : Int) : Nat × Bool :=
  let (above, below) :=
    if 0 ≤ power then (value, denominator * Nat.pow 10 power.toNat)
    else (value * Nat.pow 10 (-power).toNat, denominator)
  let digits := above / below
  let twice := 2 * (above % below)
  (digits, below < twice || (below = twice && digits % 2 = 1))

/-- The greatest `power` with `10 ^ power ≤ value / denominator`, searched
downwards. -/
def floorLog10 (value denominator : Nat) : Nat → Int → Int
  | 0, power => power
  | steps + 1, power =>
      let reached :=
        if 0 ≤ power then Nat.pow 10 power.toNat * denominator ≤ value
        else denominator ≤ value * Nat.pow 10 (-power).toNat
      if reached then power else floorLog10 value denominator steps (power - 1)

/-- Try the grids of `count`, `count + 1`, … digits; the last one is taken in
any case. -/
def shortestFrom (closed : Bool) (lower value upper denominator : Nat)
    (leading : Int) :
    Nat → Nat → Nat × Int
  | 0, count =>
      let power := leading - count + 1
      let (digits, upIsNearer) := gridNeighbours value denominator power
      (if upIsNearer then digits + 1 else digits, power)
  | grids + 1, count =>
      let power := leading - count + 1
      let (digits, upIsNearer) := gridNeighbours value denominator power
      let belowHits := gridHit closed lower upper denominator digits power
      let aboveHits := gridHit closed lower upper denominator (digits + 1) power
      if belowHits && aboveHits then
        (if upIsNearer then digits + 1 else digits, power)
      else if belowHits then
        (digits, power)
      else if aboveHits then
        (digits + 1, power)
      else
        shortestFrom closed lower value upper denominator leading grids
          (count + 1)

/-- Move trailing zeros of the digits into the power. -/
def withoutTrailingZeros : Nat → Nat → Int → Nat × Int
  | 0, digits, power => (digits, power)
  | steps + 1, digits, power =>
      if digits ≠ 0 ∧ digits % 10 = 0 then
        withoutTrailingZeros steps (digits / 10) (power + 1)
      else
        (digits, power)

/-- The shortest decimal `digits * 10 ^ power` that rounds to a positive double,
and of those of its length the nearest. -/
def shortest (magnitude : Magnitude) : Nat × Int :=
  let (lower, value, upper, denominator) := magnitude.roundingInterval
  let leading := floorLog10 value denominator 700 309
  let closed := magnitude.significand % 2 = 0
  let (digits, power) :=
    shortestFrom closed lower value upper denominator leading 17 1
  withoutTrailingZeros 20 digits power

end Magnitude

namespace Double

/-- Place the point into digits worth `digits * 10 ^ power`: positional when the
leading digit stands between `10 ^ -5` and `10 ^ 15`, and with an exponent
otherwise. -/
def place (digits : List Char) (power : Int) : List Char :=
  let pointAt := (digits.length : Int) + power
  if 0 ≤ power ∧ pointAt ≤ 16 then
    digits ++ List.replicate power.toNat '0' ++ ['.', '0']
  else if 0 < pointAt ∧ pointAt ≤ 16 then
    digits.take pointAt.toNat ++ '.' :: digits.drop pointAt.toNat
  else if -5 < pointAt ∧ pointAt ≤ 0 then
    '0' :: '.' :: List.replicate (-pointAt).toNat '0' ++ digits
  else
    let exponent := (toString (pointAt - 1)).toList
    match digits with
    | [] => 'e' :: exponent
    | [digit] => digit :: 'e' :: exponent
    | digit :: rest => digit :: '.' :: rest ++ 'e' :: exponent

def render (double : Double) : List Char :=
  let body :=
    if double.magnitude.significand = 0 then
      ['0', '.', '0']
    else
      let (digits, power) := double.magnitude.shortest
      place (Nat.toDigits 10 digits) power
  if double.negative then '-' :: body else body

end Double

end Gatekeeper.Number
