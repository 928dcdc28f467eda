/-!
# Binary floating point numbers

Settings and malformed tables may hold decimal fractions, and messages show the binary64 number that
such a fraction stands for. A magnitude is kept as `mantissa * 2 ^ exponent`; every operation rounds
the exact result to the nearest magnitude, ties to the even mantissa.
-/

namespace Relabel

/-- A finite number `mantissa * 2 ^ exponent` without its sign, with a mantissa below `2 ^ 53` and
an exponent of at least `-1074`. -/
structure Magnitude where
  mantissa : Nat
  exponent : Int
deriving DecidableEq, Repr

namespace Magnitude

def zero : Magnitude :=
  ⟨0, -1074⟩

/-- The quotient rounded to the nearest natural number, ties to the even one. -/
def roundDiv (num den : Nat) : Nat :=
  let q := num / den
  let twice := 2 * (num % den)
  if twice < den ∨ (twice = den ∧ q % 2 = 0) then q else q + 1

/-- The nearest magnitude to `num / den`; none when it is out of range. -/
def ofRatio (num den : Nat) : Option Magnitude :=
  if num = 0 then some zero
  else
    let e : Int := (Nat.log2 num : Int) - (Nat.log2 den : Int)
    let atLeast : Bool := den * Nat.pow 2 e.toNat ≤ num * Nat.pow 2 (-e).toNat
    let exponent := max (-1074) (if atLeast then e - 52 else e - 53)
    let mantissa := roundDiv (num * Nat.pow 2 (-exponent).toNat) (den * Nat.pow 2 exponent.toNat)
    let result : Magnitude :=
      if mantissa = Nat.pow 2 53 then ⟨Nat.pow 2 52, exponent + 1⟩ else ⟨mantissa, exponent⟩
    if result.exponent ≤ 971 then some result else none

def num (x : Magnitude) : Nat :=
  x.mantissa * Nat.pow 2 x.exponent.toNat

def den (x : Magnitude) : Nat :=
  Nat.pow 2 (-x.exponent).toNat

def mul (x y : Magnitude) : Option Magnitude :=
  ofRatio (x.num * y.num) (x.den * y.den)

def div (x y : Magnitude) : Option Magnitude :=
  ofRatio (x.num * y.den) (x.den * y.num)

/-- The nearest magnitude to `digits * 10 ^ exponent`; exponents far out of range are settled
without computing the power. -/
def ofDecimal (digits : Nat) (exponent : Int) : Option Magnitude :=
  let scale := exponent + (Nat.toDigits 10 digits).length
  if digits = 0 ∨ scale < -400 then some zero
  else if 400 < scale then none
  else ofRatio (digits * Nat.pow 10 exponent.toNat) (Nat.pow 10 (-exponent).toNat)

/-- The exact number of decimal digits of `n`, one for zero. -/
def digitCount (n : Nat) : Nat :=
  (Nat.toDigits 10 n).length

/-- The place of the leading decimal digit of the positive ratio `num / den`: the `k` with
`10 ^ (k - 1) ≤ num / den < 10 ^ k`. -/
def leadingPlace (num den : Nat) : Int :=
  if den ≤ num then digitCount (num / den)
  else 1 - digitCount ((den + num - 1) / num - 1)

/-- The best decimal `c * 10 ^ place` for a positive magnitude on one decimal grid, if some point of
the grid reads back as the magnitude. Only the two neighbours of the exact value are tried; the
nearer one wins, and of two equally near the one with an even last digit. -/
def onGrid? (x : Magnitude) (place : Int) : Option Nat :=
  let unit := Nat.pow 2 x.exponent.toNat
  let exact := 4 * x.mantissa * unit
  let below := if x.mantissa = Nat.pow 2 52 ∧ -1074 < x.exponent then 1 else 2
  let low := (4 * x.mantissa - below) * unit
  let high := (4 * x.mantissa + 2) * unit
  let a := 4 * x.den * Nat.pow 10 place.toNat
  let b := Nat.pow 10 (-place).toNat
  let readsBack (c : Nat) : Bool :=
    if x.mantissa % 2 = 0 then low * b ≤ c * a ∧ c * a ≤ high * b
    else low * b < c * a ∧ c * a < high * b
  let down := exact * b / a
  let up := down + 1
  match readsBack down, readsBack up with
  | false, false => none
  | true, false => some down
  | false, true => some up
  | true, true =>
      let toDown := exact * b - down * a
      let toUp := up * a - exact * b
      if toDown < toUp ∨ (toDown = toUp ∧ down % 2 = 0) then some down else some up

/-- Drops trailing zeros of `digits`, counting them into the exponent. -/
def trimZeros : Nat → Nat → Int → Nat × Int
  | 0, digits, exponent => (digits, exponent)
  | fuel + 1, digits, exponent =>
      if digits ≠ 0 ∧ digits % 10 = 0 then trimZeros fuel (digits / 10) (exponent + 1)
      else (digits, exponent)

/-- The fewest decimal digits that read back as the magnitude, as `digits * 10 ^ exponent`. -/
def shortest (x : Magnitude) : Nat × Int :=
  if x.mantissa = 0 then (0, 0)
  else
    let k := leadingPlace x.num x.den
    let tries := (List.range 17).map fun (n : Nat) => k - (n : Int) - 1
    match tries.findSome? fun place => (onGrid? x place).map (·, place) with
    | some (digits, place) => trimZeros 20 digits place
    | none => (0, 0)

end Magnitude

/-- A binary64 number. -/
inductive Binary64 where
  | nan
  | infinity (negative : Bool)
  | finite (negative : Bool) (magnitude : Magnitude)
deriving DecidableEq, Repr

namespace Binary64

def isZero : Binary64 → Bool
  | finite _ x => x.mantissa = 0
  | _ => false

/-- The number nearest to a signed decimal, infinite when out of range. -/
def ofDecimal (negative : Bool) (digits : Nat) (exponent : Int) : Binary64 :=
  match Magnitude.ofDecimal digits exponent with
  | some x => finite negative x
  | none => infinity negative

def zeros (n : Nat) : List Char :=
  List.replicate n '0'

/-- Digits with the decimal point at `point` places from their start, filled up with zeros; nothing
follows the digits of a whole number. -/
def positional (digits : List Char) (point : Int) : List Char :=
  if point ≤ 0 then '0' :: '.' :: zeros (-point).toNat ++ digits
  else if digits.length ≤ point.toNat then digits ++ zeros (point.toNat - digits.length)
  else digits.take point.toNat ++ '.' :: digits.drop point.toNat

/-- The shortest digits without an exponent, as a setting shows a number: `1.5`, `1`, `inf`. -/
def plain : Binary64 → List Char
  | nan => "NaN".toList
  | infinity negative => (if negative then "-inf" else "inf").toList
  | finite negative x =>
      let (digits, exponent) := x.shortest
      let ds := Nat.toDigits 10 digits
      (if negative then ['-'] else []) ++
        (if digits = 0 then ['0'] else positional ds (ds.length + exponent))

/-- The shortest digits as a message about a malformed table shows a number: with a fraction part
from `1e-5` up to `1e16`, and with a signed exponent beyond. -/
def scientific : Binary64 → List Char
  | nan => "NaN".toList
  | infinity negative => (if negative then "-inf" else "inf").toList
  | finite negative x =>
      let (digits, exponent) := x.shortest
      let ds := Nat.toDigits 10 digits
      let point : Int := ds.length + exponent
      let body :=
        if digits = 0 then "0.0".toList
        else if 0 ≤ exponent ∧ point ≤ 16 then positional ds point ++ ['.', '0']
        else if -5 < point ∧ point ≤ 16 then positional ds point
        else
          (if ds.length = 1 then ds else ds.take 1 ++ '.' :: ds.drop 1) ++
            'e' :: (if 0 < point then ['+'] else []) ++ (toString (point - 1)).toList
      (if negative then ['-'] else []) ++ body

end Binary64

end Relabel
