import ShaderBinding.Binary64

/-! The decimal text of a double: the fewest digits that read back as the same number, of those the
nearest, and of two that are equally near the one with the even last digit. -/

namespace ShaderBinding

namespace Magnitude

/-- A magnitude together with the interval of fractions that round to it, all over one denominator.
The ends belong to the interval when the significand is even. -/
structure Interval where
  lower : Nat
  value : Nat
  upper : Nat
  denominator : Nat
  closed : Bool

/-- The interval that rounds to a magnitude. Its lower half is narrow at the start of a binade. -/
def interval (x : Magnitude) : Interval where
  lower :=
    let step := if x.significand = 1 <<< 52 ∧ leastExponent < x.exponent then 1 else 2
    (4 * x.significand - step) <<< x.exponent.toNat
  value := 4 * x.numerator
  upper := (4 * x.significand + 2) <<< x.exponent.toNat
  denominator := 4 * x.denominator
  closed := x.significand % 2 == 0

structure Decimal where
  digits : Nat
  exponent : Int
  deriving DecidableEq, Repr

def Interval.holds (i : Interval) (num den : Nat) : Bool :=
  let point := num * i.denominator
  if i.closed then i.lower * den ≤ point && point ≤ i.upper * den
  else i.lower * den < point && point < i.upper * den

/-- The point of the grid of `10 ^ exponent` that is nearest to the value among those in the
interval; only the two neighbours of the value come into question. -/
def Interval.onGrid? (i : Interval) (exponent : Int) : Option Decimal :=
  let up := Nat.pow 10 exponent.toNat
  let down := Nat.pow 10 (-exponent).toNat
  let below := i.value * down / (i.denominator * up)
  let above := below + 1
  let holds := fun digits => i.holds (digits * up) down
  if holds below && holds above then
    let nearBelow := i.value * down - below * (i.denominator * up)
    let nearAbove := above * (i.denominator * up) - i.value * down
    let digits :=
      if nearBelow < nearAbove then below
      else if nearAbove < nearBelow then above
      else below + below % 2
    some ⟨digits, exponent⟩
  else if holds below then some ⟨below, exponent⟩
  else if holds above then some ⟨above, exponent⟩
  else none

/-- No double has a digit below this place in its shortest text. -/
def finestPlace : Int := -324

def places : Nat := 632

/-- The number on the coarsest decimal grid that reads back as the magnitude. -/
def shortest (x : Magnitude) : Decimal :=
  go places
where
  go : Nat → Decimal
    | 0 => (x.interval.onGrid? finestPlace).getD ⟨0, finestPlace⟩
    | steps + 1 =>
      match x.interval.onGrid? (finestPlace + (steps + 1)) with
      | some decimal => decimal
      | none => go steps

end Magnitude

namespace Binary64

/-- The exponents of the leading digit for which a number is written without an exponent. -/
def isPlain (leading : Int) : Bool := -5 ≤ leading && leading ≤ 15

/-- Digits with a point after the digit of weight one and at least one digit on either side. -/
def plainText (digits : List Char) (exponent : Int) : List Char :=
  if 0 ≤ exponent then digits ++ List.replicate exponent.toNat '0' ++ ['.', '0']
  else
    let padded := List.replicate ((-exponent).toNat + 1 - digits.length) '0' ++ digits
    let whole := padded.length - (-exponent).toNat
    padded.take whole ++ '.' :: padded.drop whole

def scientificText (digits : List Char) (leading : Int) : List Char :=
  let fraction := if digits.length ≤ 1 then [] else '.' :: digits.drop 1
  let sign := if 0 ≤ leading then '+' else '-'
  digits.take 1 ++ fraction ++ 'e' :: sign :: Nat.toDigits 10 leading.natAbs

def magnitudeText (x : Magnitude) : List Char :=
  if x.isZero then ['0', '.', '0']
  else
    let decimal := x.shortest
    let digits := Nat.toDigits 10 decimal.digits
    let leading := decimal.exponent + (digits.length - 1 : Nat)
    if isPlain leading then plainText digits decimal.exponent else scientificText digits leading

def text (x : Binary64) : String :=
  String.ofList ((if x.negative then ['-'] else []) ++ magnitudeText x.magnitude)

def textOf (digits : Nat) (power : Int) : Option (List Char) :=
  (Magnitude.ofDecimal? digits power).map magnitudeText

example : textOf 15 2 = some "1500.0".toList := by decide +kernel
example : textOf 9999999999999998 0 = some "9999999999999998.0".toList := by decide +kernel
example : textOf 1 16 = some "1e+16".toList := by decide +kernel
example : textOf 123 (-7) = some "0.0000123".toList := by decide +kernel
example : textOf 1 (-6) = some "1e-6".toList := by decide +kernel
example : textOf 49 (-325) = some "5e-324".toList := by decide +kernel
example : textOf (2 ^ 64 - 1) 0 = some "1.8446744073709552e+19".toList := by decide +kernel
example : textOf 1 400 = none := by decide +kernel
example : (Binary64.mk true .zero).text = "-0.0" := by decide +kernel

end Binary64

end ShaderBinding
