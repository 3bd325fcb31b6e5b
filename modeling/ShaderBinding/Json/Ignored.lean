import ShaderBinding.Json.String
import ShaderBinding.Json.Number

/-! Values that nobody asked for. They are passed over with a stack of open brackets, so that no
depth is too great; neither the range of numbers nor the pairing of surrogates is checked. -/

namespace ShaderBinding

inductive Bracket where
  | list
  | object
  deriving DecidableEq, Repr

namespace Bracket

def closing : Bracket → UInt8
  | list => byte ']'
  | object => byte '}'

def part : Bracket → Part
  | list => .list
  | object => .object

end Bracket

namespace Reader

def skipEscape : Reader Unit := do
  let b ← stringByte
  if b = byte 'u' then do
    let _ ← hexUnit
    pure ()
  else
    match simpleEscape? b with
    | some _ => pure ()
    | none => refuse .invalidEscape

/-- The next byte of a string, which may not be a control character. A text is refused before that
character, a stream after it. -/
def plainByte : Reader UInt8 := do
  match ← look with
  | none => refuse (.endOfInput .string)
  | some b =>
    match isControl b, ← delivery with
    | true, .text => refuse .controlCharacter
    | true, .stream _ => do
      eat
      refuse .controlCharacter
    | false, _ => do
      eat
      pure b

def skipStringTurn : Unit → Reader (Turn Unit Unit) := fun () => do
  let b ← plainByte
  if b = byte '"' then pure (.stop ())
  else if b = byte '\\' then do
    skipEscape
    pure (.again ())
  else pure (.again ())

def skipString : Reader Unit := loop skipStringTurn ()

def skipExponent : Reader Unit := do
  match ← look with
  | none => pure ()
  | some b =>
    if startsExponent b then do
      eat
      let _ ← exponentSign
      match ← next with
      | none => refuse .invalidNumber
      | some b =>
        if isDigit b then do
          let _ ← skipDigits
          pure ()
        else refuse .invalidNumber
    else pure ()

def skipFraction : Reader Unit := do
  match ← look with
  | none => pure ()
  | some b =>
    if b = byte '.' then do
      eat
      let count ← skipDigits
      if count = 0 then refuseNext .invalidNumber else skipExponent
    else skipExponent

def skipNumber : Reader Unit := do
  match ← next with
  | none => refuse .invalidNumber
  | some b =>
    if b = byte '0' then do
      match ← look with
      | some d => if isDigit d then refuseNext .invalidNumber else skipFraction
      | none => skipFraction
    else if isDigit b then do
      let _ ← skipDigits
      skipFraction
    else refuse .invalidNumber

/-- Passes over a value that is no list and no object; at an opening bracket, only over that. -/
def skipStart : Reader (Option Bracket) := do
  let b ← valueStart
  if b = byte 'n' then leaf (word ['u', 'l', 'l'])
  else if b = byte 't' then leaf (word ['r', 'u', 'e'])
  else if b = byte 'f' then leaf (word ['a', 'l', 's', 'e'])
  else if b = byte '-' then leaf skipNumber
  else if isDigit b then do
    skipNumber
    pure none
  else if b = byte '"' then leaf skipString
  else if b = byte '[' then do
    eat
    pure (some .list)
  else if b = byte '{' then do
    eat
    pure (some .object)
  else refuseNext .expectedValue
where
  leaf (rest : Reader Unit) : Reader (Option Bracket) := do
    eat
    rest
    pure none

def closeTurn : List Bracket × Bool → Reader (Turn (List Bracket × Bool) (List Bracket))
  | ([], _) => pure (.stop [])
  | (top :: rest, fresh) => do
    match ← token with
    | none => refuseNext (.endOfInput top.part)
    | some b =>
      if b = top.closing then do
        eat
        pure (.again (rest, false))
      else if fresh then pure (.stop (top :: rest))
      else do
        comma top.part b
        pure (.stop (top :: rest))

/-- Closes brackets up to the next element or member, and passes over the comma before it. The
brackets that stay open are left, none of them when the value has ended. -/
def closeBrackets (brackets : List Bracket) (fresh : Bool) : Reader (List Bracket) :=
  loop closeTurn (brackets, fresh)

def skipKey : Reader Unit := do
  match ← token with
  | none => refuseNext (.endOfInput .object)
  | some b => do
    keyStart b
    eat
    skipString
    colon

/-- Passes over what starts a value, up to the next value inside the open brackets. -/
def skipTurn (brackets : List Bracket) : Reader (Turn (List Bracket) Unit) := do
  let opened ← skipStart
  match ← closeBrackets (opened.toList ++ brackets) opened.isSome with
  | [] => pure (.stop ())
  | .list :: rest => pure (.again (.list :: rest))
  | .object :: rest => do
    skipKey
    pure (.again (.object :: rest))

def skipValue : Reader Unit := loop skipTurn []

end Reader

end ShaderBinding
