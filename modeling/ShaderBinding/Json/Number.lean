import ShaderBinding.Json.Lexeme

/-! Numbers. Digits are gathered into one whole number as long as it fits into 64 bits; what does
not fit only moves the decimal point. -/

namespace ShaderBinding

/-- Whole numbers of 64 bits are below this bound. -/
def wordBound : Nat := 1 <<< 64

/-- The size of the least negative whole number of 64 bits. -/
def leastWord : Nat := 1 <<< 63

/-- Exponents are counted up to this one. -/
def greatestExponent : Nat := 1 <<< 31 - 1

def startsExponent (b : UInt8) : Bool := b == byte 'e' || b == byte 'E'

namespace Reader

def skipDigitsTurn (count : Nat) : Reader (Turn Nat Nat) := do
  match ← look with
  | none => pure (.stop count)
  | some b =>
    if isDigit b then do
      eat
      pure (.again (count + 1))
    else pure (.stop count)

def skipDigits : Reader Nat := loop skipDigitsTurn 0

def gatherTurn : Nat × Nat → Reader (Turn (Nat × Nat) (Nat × Nat))
  | (whole, count) => do
    match ← look with
    | none => pure (.stop (whole, count))
    | some b =>
      if isDigit b && whole * 10 + digitValue b < wordBound then do
        eat
        pure (.again (whole * 10 + digitValue b, count + 1))
      else pure (.stop (whole, count))

/-- Appends digits to a whole number while it fits into 64 bits; with it, how many were appended. -/
def gatherDigits (start : Nat) : Reader (Nat × Nat) := loop gatherTurn (start, 0)

def double (negative : Bool) (whole : Nat) (power : Int) : Reader Number :=
  match Magnitude.ofDecimal? whole power with
  | some magnitude => pure (.float ⟨negative, magnitude⟩)
  | none => refuse .numberOutOfRange

def exponentTurn (exponent : Nat) : Reader (Turn Nat (Option Nat)) := do
  match ← look with
  | none => pure (.stop (some exponent))
  | some b =>
    if isDigit b then do
      eat
      let more := exponent * 10 + digitValue b
      if more ≤ greatestExponent then pure (.again more) else pure (.stop none)
    else pure (.stop (some exponent))

/-- The digits of an exponent after its first; none when the exponent is too great to be counted. -/
def exponentDigits (first : Nat) : Reader (Option Nat) := loop exponentTurn first

def exponentSign : Reader Bool := do
  match ← look with
  | some b =>
    if b = byte '+' then do
      eat
      pure true
    else if b = byte '-' then do
      eat
      pure false
    else pure true
  | none => pure true

def exponent (negative : Bool) (whole : Nat) (power : Int) : Reader Number := do
  eat
  let positive ← exponentSign
  match ← next with
  | none => refuse (.endOfInput .value)
  | some b =>
    if isDigit b then do
      match ← exponentDigits (digitValue b) with
      | some size =>
        double negative whole (if positive then power + size else power - size)
      | none =>
        if whole ≠ 0 ∧ positive then refuse .numberOutOfRange
        else do
          let _ ← skipDigits
          pure (.float ⟨negative, .zero⟩)
    else refuse .invalidNumber

/-- The end of a number that has a fraction or too many digits: an exponent may follow. -/
def scaled (negative : Bool) (whole : Nat) (power : Int) : Reader Number := do
  match ← look with
  | some b =>
    if startsExponent b then exponent negative whole power else double negative whole power
  | none => double negative whole power

def fraction (negative : Bool) (whole : Nat) (power : Int) : Reader Number := do
  eat
  let (whole, count) ← gatherDigits whole
  let dropped ← skipDigits
  if count = 0 ∧ dropped = 0 then do
    match ← look with
    | none => refuseNext (.endOfInput .value)
    | some _ => refuseNext .invalidNumber
  else scaled negative whole (power - count)

/-- A whole number that fits into 64 bits with its sign is exact. Zero with a sign does not. -/
def integer (negative : Bool) (whole : Nat) : Reader Number :=
  if !negative then pure (.integer whole)
  else if 1 ≤ whole ∧ whole ≤ leastWord then pure (.integer (-whole))
  else double true whole 0

/-- What follows the whole part of a number, of which `dropped` digits did not fit. -/
def afterWhole (negative : Bool) (whole dropped : Nat) : Reader Number := do
  match ← look with
  | some b =>
    if b = byte '.' then fraction negative whole dropped
    else if startsExponent b then exponent negative whole dropped
    else plain
  | none => plain
where
  plain : Reader Number :=
    if dropped = 0 then integer negative whole else double negative whole dropped

def number (negative : Bool) : Reader Number := do
  match ← next with
  | none => refuse (.endOfInput .value)
  | some b =>
    if b = byte '0' then do
      match ← look with
      | some d => if isDigit d then refuseNext .invalidNumber else afterWhole negative 0 0
      | none => afterWhole negative 0 0
    else if isDigit b then do
      let (whole, _) ← gatherDigits (digitValue b)
      let dropped ← skipDigits
      afterWhole negative whole dropped
    else refuse .invalidNumber

end Reader

end ShaderBinding
