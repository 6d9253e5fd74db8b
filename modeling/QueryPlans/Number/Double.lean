/-!
# Binary64 numbers, exactly

A finite double is `± mantissa · 2 ^ exponent` with integers for both, so that rounding, comparing
and cutting to an integer are integer arithmetic and can be reasoned about as such.

* `Double` — not-a-number, an infinity, or a signed integer times a power of two.
* `ofRatio` — the double nearest to a quotient; a tie goes to the even mantissa.
* `ofDecimal` — the double nearest to a decimal.
* `truncate?`, `ceiling?` — the integer towards zero, and the integer above.
* `quotient?` — the double nearest to a quotient of integers, unless that is zero-divided or too
  large.
-/

namespace QueryPlans

/-- A binary64 number. A finite one is `± mantissa · 2 ^ exponent`. -/
inductive Double where
  | nan
  | infinity (negative : Bool)
  | finite (negative : Bool) (mantissa : Nat) (exponent : Int)
  deriving DecidableEq, Repr, Inhabited

namespace Double

/-- The least exponent: that of the subnormal numbers. -/
def leastExponent : Int := -1074

/-- The greatest exponent of a finite double. -/
def greatestExponent : Int := 971

/-- Mantissas stay below this bound. -/
def mantissaBound : Nat := Nat.pow 2 53

/-- A quotient divided by `2 ^ e`, again as a quotient. -/
def unscale (num den : Nat) (e : Int) : Nat × Nat :=
  match e with
  | .ofNat k => (num, den * Nat.pow 2 k)
  | .negSucc k => (num * Nat.pow 2 (k + 1), den)

/-- Divide and round to the nearest integer, a tie to the even one. -/
def roundDiv (num den : Nat) : Nat :=
  let q := num / den
  let r := num % den
  if den < 2 * r || (2 * r == den && q % 2 == 1) then q + 1 else q

/-- The exponent `e` with `2 ^ e ≤ num / den < 2 ^ (e + 1)`, for a positive quotient. -/
def binade (num den : Nat) : Int :=
  let e : Int := (Nat.log2 num : Int) - Nat.log2 den
  let (n, d) := unscale num den e
  if n < d then e - 1 else e

/-- The double with this mantissa and exponent, after a rounding that may have carried into the
next binade. -/
def ofRounded (negative : Bool) (mantissa : Nat) (exponent : Int) : Double :=
  if mantissa = mantissaBound then
    if exponent + 1 ≤ greatestExponent then finite negative (Nat.pow 2 52) (exponent + 1)
    else infinity negative
  else if exponent ≤ greatestExponent then finite negative mantissa exponent
  else infinity negative

/-- The double nearest to `± num / den`, a tie to the even mantissa. -/
def ofRatio (negative : Bool) (num den : Nat) : Double :=
  if num = 0 || den = 0 then finite negative 0 leastExponent
  else
    let e := max (binade num den - 52) leastExponent
    let (n, d) := unscale num den e
    ofRounded negative (roundDiv n d) e

/-- The number of decimal digits of a number; one for zero. -/
def digitCount (n : Nat) : Nat := (Nat.toDigits 10 n).length

/-- The double nearest to `± digits · 10 ^ exponent`. Quotients far outside the range of a double
are settled by their size alone. -/
def ofDecimal (negative : Bool) (digits : Nat) (exponent : Int) : Double :=
  if digits = 0 then finite negative 0 leastExponent
  else
    let size : Int := exponent + digitCount digits
    if 310 < size then infinity negative
    else if size < -330 then finite negative 0 leastExponent
    else match exponent with
      | .ofNat k => ofRatio negative (digits * Nat.pow 10 k) 1
      | .negSucc k => ofRatio negative digits (Nat.pow 10 (k + 1))

/-- The double nearest to an integer. -/
def ofInt (n : Int) : Double := ofRatio (n < 0) n.natAbs 1

/-- Zero. -/
def zero : Double := finite false 0 leastExponent

/-- Whether a number is `0.0` or `-0.0`. -/
def isZero : Double → Bool
  | finite _ m _ => m == 0
  | _ => false

/-- The magnitude of a finite double as a quotient. -/
def magnitude (mantissa : Nat) (exponent : Int) : Nat × Nat :=
  match exponent with
  | .ofNat k => (mantissa * Nat.pow 2 k, 1)
  | .negSucc k => (mantissa, Nat.pow 2 (k + 1))

/-- A number with a sign. -/
def signed (negative : Bool) (n : Nat) : Int := if negative then -(n : Int) else n

/-- The integer part of a finite double: the digits after the point are dropped. -/
def truncate? : Double → Option Int
  | finite negative m e => let (n, d) := magnitude m e; some (signed negative (n / d))
  | _ => none

/-- The least integer that is not below a finite double. -/
def ceiling? : Double → Option Int
  | finite negative m e =>
    let (n, d) := magnitude m e
    some (if negative then -(n / d : Nat) else ((n + d - 1) / d : Nat))
  | _ => none

/-- Whether a finite double is an integer. -/
def isIntegral : Double → Bool
  | finite _ m e => let (n, d) := magnitude m e; n % d == 0
  | _ => false

def isBelowZero : Double → Bool
  | finite negative m _ => negative && m != 0
  | infinity negative => negative
  | nan => false

/-- The number is at most a natural number; not-a-number is not. -/
def isAtMost (bound : Nat) : Double → Bool
  | finite negative m e => negative || (let (n, d) := magnitude m e; n ≤ bound * d)
  | infinity negative => negative
  | nan => false

/-- Why a quotient of integers has no double. -/
inductive QuotientError where
  | divisionByZero
  | tooLarge
  deriving DecidableEq, Repr

/-- What is reported for a quotient without a double. -/
def QuotientError.message : QuotientError → String
  | divisionByZero => "division by zero"
  | tooLarge => "integer division result too large for a float"

/-- The double nearest to a quotient of integers. -/
def quotient? (a b : Int) : Except QuotientError Double :=
  if b = 0 then .error .divisionByZero
  else match ofRatio ((a < 0) != (b < 0)) a.natAbs b.natAbs with
    | infinity _ => .error .tooLarge
    | x => .ok x

end Double

end QueryPlans
