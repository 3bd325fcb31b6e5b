/-! Finite binary floating-point numbers of 64 bits, computed exactly: a product or a quotient is
taken as a fraction and rounded once, to the nearest value, a tie to the even significand. -/

namespace ShaderBinding

/-- The size of a finite double: `significand * 2 ^ exponent`. -/
structure Magnitude where
  significand : Nat
  exponent : Int
  deriving DecidableEq, Repr

namespace Magnitude

/-- The exponent of the finest grid, that of the subnormal numbers. -/
def leastExponent : Int := -1074

/-- The exponent of the coarsest grid; beyond it a number is infinite. -/
def greatestExponent : Int := 971

def zero : Magnitude := ⟨0, leastExponent⟩

def isZero (x : Magnitude) : Bool := x.significand == 0

def numerator (x : Magnitude) : Nat := x.significand <<< x.exponent.toNat

def denominator (x : Magnitude) : Nat := 1 <<< (-x.exponent).toNat

/-- The quotient rounded to the nearest natural number, a half to the even one. -/
def nearestEven (num den : Nat) : Nat :=
  let whole := num / den
  let rest := num % den
  if 2 * rest < den then whole
  else if den < 2 * rest then whole + 1
  else whole + whole % 2

/-- The finest grid on which a positive fraction is below `2 ^ 53` steps. -/
def gridExponent (num den : Nat) : Int :=
  let guess : Int := (num.log2 : Int) - den.log2 - 52
  let binade := guess + 52
  let exponent :=
    if num <<< (-binade).toNat < den <<< binade.toNat then guess - 1 else guess
  max exponent leastExponent

def round? (num den : Nat) : Option Magnitude :=
  if num = 0 then some zero
  else
    let exponent := gridExponent num den
    let significand := nearestEven (num <<< (-exponent).toNat) (den <<< exponent.toNat)
    let rounded : Magnitude :=
      if significand = 1 <<< 53 then ⟨1 <<< 52, exponent + 1⟩ else ⟨significand, exponent⟩
    if rounded.exponent ≤ greatestExponent then some rounded else none

def mul? (x y : Magnitude) : Option Magnitude :=
  round? (x.numerator * y.numerator) (x.denominator * y.denominator)

def div? (x y : Magnitude) : Option Magnitude :=
  round? (x.numerator * y.denominator) (x.denominator * y.numerator)

/-- The greatest power of ten that a double can be scaled by in one step. -/
def greatestPower : Nat := 308

/-- Scales by a power of ten. Only `greatestPower` tens are divided out in one step, each step
rounds, and a number that has become zero stays zero. -/
def scale? (x : Magnitude) (power : Int) : Option Magnitude :=
  go (power.natAbs / greatestPower + 1) x power
where
  go : Nat → Magnitude → Int → Option Magnitude
    | 0, _, _ => none
    | steps + 1, x, power =>
      if power.natAbs ≤ greatestPower then do
        let tens ← round? (Nat.pow 10 power.natAbs) 1
        if 0 ≤ power then x.mul? tens else x.div? tens
      else if x.isZero then some x
      else if 0 < power then none
      else do
        let tens ← round? (Nat.pow 10 greatestPower) 1
        go steps (← x.div? tens) (power + greatestPower)

/-- The double that a whole number with a decimal exponent is read as, none when it is infinite. -/
def ofDecimal? (digits : Nat) (power : Int) : Option Magnitude := do
  (← round? digits 1).scale? power

end Magnitude

/-- A finite double. Zero has two signs. -/
structure Binary64 where
  negative : Bool
  magnitude : Magnitude
  deriving DecidableEq, Repr

end ShaderBinding
