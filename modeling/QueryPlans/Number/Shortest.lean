import QueryPlans.Number.Double

/-!
# The shortest decimal of a double

* `Interval` — the reals that round to one double, in exact arithmetic.
* `Double.shortest` — the digits of the shortest decimal in that interval, and of those the one
  nearest to the double; a tie goes to the even digit.
* `Double.Style`, `Double.write` — the layout of the digits: positional when the exponent in
  scientific notation is at least `-4` and below `16`, with `.0` after an integer; otherwise
  scientific, with a sign and at least two digits in the exponent.
-/

namespace QueryPlans

/-- The reals that round to a double: from `low` to `high`, as multiples of `unitNum / unitDen`;
the ends belong to it when `closed`. `value` is the double itself. -/
structure Interval where
  low : Nat
  value : Nat
  high : Nat
  unitNum : Nat
  unitDen : Nat
  closed : Bool
  deriving DecidableEq, Repr

namespace Interval

/-- The interval of a positive finite double. Below a power of two the next double is half as
far away. -/
def ofDouble (mantissa : Nat) (exponent : Int) : Interval :=
  let low := if mantissa = Nat.pow 2 52 ∧ Double.leastExponent < exponent then 4 * mantissa - 1
    else 4 * mantissa - 2
  let (num, den) := Double.magnitude 1 (exponent - 2)
  { low, value := 4 * mantissa, high := 4 * mantissa + 2, unitNum := num, unitDen := den,
    closed := mantissa % 2 == 0 }

/-- Whether the decimal `num / den` lies in the interval. -/
def contains (i : Interval) (num den : Nat) : Bool :=
  let x := num * i.unitDen
  let a := i.low * i.unitNum * den
  let b := i.high * i.unitNum * den
  if i.closed then a ≤ x && x ≤ b else a < x && x < b

/-- The exponent `k` with `10 ^ (k - 1) ≤ value < 10 ^ k`. -/
def decimalPoint (i : Interval) : Int :=
  let num := i.value * i.unitNum
  if i.unitDen ≤ num then Double.digitCount (num / i.unitDen)
  else
    let t := Double.digitCount (i.unitDen / num)
    if num * Nat.pow 10 (t - 1) = i.unitDen then 2 - (t : Int) else 1 - (t : Int)

/-- The decimals around the value on the grid `10 ^ g`: the digits below it, the digits above it,
and how the distances compare. -/
structure Neighbours where
  below : Nat
  belowFits : Bool
  aboveFits : Bool
  nearer : Ordering

/-- The two neighbours of the value among the multiples of `10 ^ g`. -/
def neighbours (i : Interval) (g : Int) : Neighbours :=
  let (gn, gd) := match g with
    | .ofNat k => (Nat.pow 10 k, 1)
    | .negSucc k => (1, Nat.pow 10 (k + 1))
  let num := i.value * i.unitNum * gd
  let den := i.unitDen * gn
  let d := num / den
  let r := num % den
  { below := d
    belowFits := i.contains (d * gn) gd
    aboveFits := i.contains ((d + 1) * gn) gd
    nearer := compare (2 * r) den }

/-- Of the neighbours that fit, the nearer one; a tie goes to the even digits. -/
def Neighbours.choose? (n : Neighbours) : Option Nat :=
  match n.belowFits, n.aboveFits with
  | false, false => none
  | true, false => some n.below
  | false, true => some (n.below + 1)
  | true, true =>
    match n.nearer with
    | .lt => some n.below
    | .gt => some (n.below + 1)
    | .eq => some (if n.below % 2 = 0 then n.below else n.below + 1)

/-- Search the grids with `count`, `count + 1`, … digits. Seventeen digits always suffice. -/
def searchFrom (i : Interval) (point : Int) : (tries : Nat) → (count : Nat) → Nat × Int
  | 0, _ => (0, 0)
  | tries + 1, count =>
    let g := point - count
    match (i.neighbours g).choose? with
    | some d => (d, g)
    | none => searchFrom i point tries (count + 1)

end Interval

namespace Double

/-- Digits and exponent of the shortest decimal that reads back as a positive finite double. -/
def shortest (mantissa : Nat) (exponent : Int) : Nat × Int :=
  let i := Interval.ofDouble mantissa exponent
  i.searchFrom i.decimalPoint 17 1

/-- How the special values are spelled. -/
structure Style where
  nan : String
  infinity : String
  deriving DecidableEq, Repr

/-- `nan` and `inf`. -/
def shortStyle : Style := ⟨"nan", "inf"⟩

/-- `NaN` and `Infinity`. -/
def longStyle : Style := ⟨"NaN", "Infinity"⟩

/-- The digits without the zeros at the end. -/
def dropTrailingZeros (ds : List Char) : List Char := (ds.reverse.dropWhile (· == '0')).reverse

/-- At least two digits of an exponent, with its sign. -/
def exponentDigits (x : Int) : List Char :=
  let ds := Nat.toDigits 10 x.natAbs
  (if x < 0 then '-' else '+') :: (if ds.length < 2 then '0' :: ds else ds)

/-- Lay out digits whose decimal point stands after `point` of them. -/
def layOut (digits : List Char) (point : Int) : List Char :=
  let x := point - 1
  if -4 ≤ x ∧ x < 16 then
    if point ≤ 0 then
      '0' :: '.' :: (List.replicate (-point).toNat '0' ++ digits)
    else
      let whole := digits.take point.toNat
      let padding := List.replicate (point.toNat - digits.length) '0'
      let fraction := digits.drop point.toNat
      whole ++ padding ++ '.' :: (if fraction = [] then ['0'] else fraction)
  else
    match digits with
    | [] => []
    | d :: rest => d :: (if rest = [] then [] else '.' :: rest) ++ 'e' :: exponentDigits x

/-- The unsigned text of a finite double. -/
def magnitudeText (mantissa : Nat) (exponent : Int) : List Char :=
  if mantissa = 0 then ['0', '.', '0']
  else
    let (d, g) := shortest mantissa exponent
    let ds := Nat.toDigits 10 d
    layOut (dropTrailingZeros ds) (g + ds.length)

/-- The text of a double. -/
def write (style : Style) : Double → String
  | nan => style.nan
  | infinity negative => (if negative then "-" else "") ++ style.infinity
  | finite negative m e => (if negative then "-" else "") ++ String.ofList (magnitudeText m e)

end Double

end QueryPlans
