import ShaderBinding.Pattern.Fault
import ShaderBinding.Text.WhiteSpace

/-! The text of a pattern is read from left to right. A fault in its form ends the reading; what is
well formed but cannot be searched for is a doubt, which counts only if all of the text is well
formed. -/

namespace ShaderBinding

namespace Pattern

structure Flags where
  caseless : Bool
  /-- Whether `^` and `$` also match at the ends of lines. -/
  lines : Bool
  dotAll : Bool
  /-- Whether lines may also end with a return. -/
  returns : Bool
  /-- Whether letters and classes are those of ASCII only. -/
  ascii : Bool
  /-- Whether repetitions are greedy with a question mark behind them, and not without it. -/
  swapsGreed : Bool
  deriving DecidableEq, Repr

def Flags.standard : Flags := ⟨false, false, false, false, false, false⟩

structure Scanner where
  mark : Mark
  ahead : List Char
  left : Nat
  left_eq : left = ahead.length := by simp
  /-- Whether white space and comments between the parts are skipped. -/
  spaced : Bool
  flags : Flags
  groups : Nat
  names : List (List Char × Span)
  doubt : Option Fault
  deriving DecidableEq, Repr

namespace Scanner

def start (text : List Char) : Scanner where
  mark := .start
  ahead := text
  left := text.length
  spaced := false
  flags := .standard
  groups := 0
  names := []
  doubt := none

def advance (scanner : Scanner) : Scanner :=
  match scanner.ahead, scanner.left_eq with
  | [], _ => scanner
  | char :: rest, h =>
    { scanner with
      mark := scanner.mark.behind char
      ahead := rest
      left := scanner.left - 1
      left_eq := by simp [h] }

theorem advance_ahead (scanner : Scanner) : scanner.advance.ahead = scanner.ahead.tail := by
  unfold advance
  split <;> simp_all

/-- Passes over white space and comments; a comment goes from a hash to the end of a line. -/
def skip (comment : Bool) (scanner : Scanner) : Scanner :=
  match _h : scanner.ahead with
  | [] => scanner
  | char :: _ =>
    if comment then skip (char != '\n') scanner.advance
    else if isWhiteSpace char then skip false scanner.advance
    else if char = '#' then skip true scanner.advance
    else scanner
termination_by scanner.ahead.length
decreasing_by all_goals simp_all [advance_ahead]

def skipSpace (scanner : Scanner) : Scanner :=
  if scanner.spaced then skip false scanner else scanner

/-- The character after the next one, or the one after the white space that follows there. Of a
comment only the hash is passed over, and only once. -/
def second? (scanner : Scanner) : Option Char :=
  let rest := scanner.ahead.tail
  if scanner.spaced then
    let further :=
      match rest.dropWhile isWhiteSpace with
      | '#' :: comment => comment.dropWhile isWhiteSpace
      | other => other
    (further.head?).or rest.head?
  else rest.head?

end Scanner

abbrev Scan := StateT Scanner (Except Fault)

namespace Scan

variable {α σ : Type}

def mark : Scan Mark := return (← get).mark

def look : Scan (Option Char) := return (← get).ahead.head?

def bump : Scan Unit := modify Scanner.advance

def skipSpace : Scan Unit := modify Scanner.skipSpace

/-- Passes over the next character and the white space behind it. -/
def pass : Scan Unit := do
  bump
  skipSpace

def bumps : Nat → Scan Unit
  | 0 => pure ()
  | n + 1 => do
    bump
    bumps n

def since (start : Mark) : Scan Span := return ⟨start, ← mark⟩

def here : Scan Span := do since (← mark)

def nextSpan : Scan Span := do
  let start ← mark
  return ⟨start, match (← get).ahead with | [] => start | char :: _ => start.behind char⟩

def refuse (flaw : Flaw) (span : Span) : Scan α := throw ⟨flaw, [span]⟩

/-- Notes a doubt. Only the first one counts. -/
def doubt (flaw : Flaw) (span : Span) : Scan Unit :=
  modify fun scanner => { scanner with doubt := scanner.doubt.or (some ⟨flaw, [span]⟩) }

def flags : Scan Flags := return (← get).flags

def accept (text : List Char) : Scan Bool := do
  if text.isPrefixOf (← get).ahead then
    bumps text.length
    return true
  else return false

inductive Turn (σ α : Type) where
  | again (state : σ)
  | stop (value : α)

/-- Repeats a turn until it stops. Another turn needs that the last one has passed over a character,
so the text bounds the loop. -/
def loop (turn : σ → Scan (Turn σ α)) (state : σ) : Scan α := fun scanner =>
  match turn state scanner with
  | .error fault => .error fault
  | .ok (.stop value, after) => .ok (value, after)
  | .ok (.again state, after) =>
    if after.left < scanner.left then loop turn state after
    else refuse .openEscape ⟨after.mark, after.mark⟩ after
termination_by scanner => scanner.left

/-- The longest run of characters of a kind, each passed over together with the white space behind
it. -/
def run (kind : Char → Bool) : Scan (List Char) :=
  loop (fun chars => do
    match ← look with
    | some char =>
      if kind char then
        pass
        return .again (char :: chars)
      else return .stop chars.reverse
    | none => return .stop chars.reverse) []

end Scan

end Pattern

end ShaderBinding
