import ShaderBinding.Pattern.Expression
import ShaderBinding.Pattern.Scanner

/-! The smallest parts of a pattern: characters, classes with a letter of their own, and conditions
on a point, each as it is written or as an escape. -/

namespace ShaderBinding

namespace Pattern

/-- A condition before it is known which flags hold. -/
inductive Anchor where
  | textStart
  | textStop
  | start
  | stop
  | word (edge : WordEdge)
  deriving DecidableEq, Repr

inductive Atom where
  /-- A character, which may have been spelled as a byte. -/
  | literal (span : Span) (char : Char) (byte : Bool)
  | dot (span : Span)
  | anchor (span : Span) (anchor : Anchor)
  | shorthand (span : Span) (negated : Bool) (ranges : List CharRange)
  /-- A class by its property, which may be sought among the general categories. -/
  | property (span : Span) (general : Bool)
  deriving DecidableEq, Repr

def Atom.span : Atom → Span
  | literal span _ _ | dot span | anchor span _ | shorthand span _ _ | property span _ =>
    span

def isHexDigit (char : Char) : Bool :=
  char.isDigit || ('a' ≤ char && char ≤ 'f') || ('A' ≤ char && char ≤ 'F')

def hexValue (char : Char) : Nat :=
  if char.isDigit then char.toNat - '0'.toNat else char.toLower.toNat - 'a'.toNat + 10

def charOfHex? (digits : List Char) : Option Char :=
  let n := digits.foldl (fun n digit => n * 16 + hexValue digit) 0
  if n.isValidChar then some (Char.ofNat n) else none

namespace Scan

def hexDigits : Nat → Scan (List Char)
  | 0 => return []
  | n + 1 => do
    match ← look with
    | none => refuse .openEscape (← here)
    | some char =>
      if !isHexDigit char then refuse .badHexDigit (← nextSpan)
      pass
      return char :: (← hexDigits n)

def bracedHex : Scan Char := do
  let brace ← mark
  let first := brace.behind '\x7b'
  pass
  let digits ← run isHexDigit
  match ← look with
  | none => refuse .openEscape (← since brace)
  | some char =>
    if char ≠ '\x7d' then refuse .badHexDigit (← nextSpan)
    let span ← since first
    pass
    if digits.isEmpty then refuse .noHexDigits (← since brace)
    match charOfHex? digits with
    | some char => return char
    | none => refuse .badCodePoint span

/-- A code point of a fixed number of digits, or in braces, after the letter that says so. -/
def hex (start : Mark) (count : Nat) : Scan Atom := do
  pass
  match ← look with
  | none => refuse .openEscape (← here)
  | some '\x7b' =>
    let char ← bracedHex
    return .literal (← since start) char false
  | some _ =>
    let first ← mark
    match charOfHex? (← hexDigits count) with
    | some char => return .literal (← since start) char (count = 2)
    | none => refuse .badCodePoint (← since first)

/-- A name of a property as names are compared: in small letters of ASCII, without spaces, dashes
and low lines, and without an `is` in front. -/
def plainName (name : List Char) : List Char :=
  let name :=
    match name with
    | first :: second :: rest =>
      if first.toLower = 'i' ∧ second.toLower = 's' then rest else name
    | _ => name
  (name.filter fun char => char ≤ '\x7f' && char ∉ [' ', '-', '_']).map Char.toLower

/-- The names that only general categories have, where a property could have them too. -/
def generalNames : List (List Char) := [['c', 'f'], ['s', 'c'], ['l', 'c']]

def property (start : Mark) : Scan Atom := do
  pass
  match ← look with
  | none => refuse .openEscape (← here)
  | some '\x7b' =>
    pass
    let name ← run (· ≠ '\x7d')
    if (← look).isNone then refuse .openEscape (← here)
    bump
    return .property (← since start) (generalNames.contains (plainName name))
  | some '\\' => refuse .badProperty (← nextSpan)
  | some _ =>
    pass
    return .property (← since start) false

def wordEdges : List (List Char × WordEdge) :=
  [("start".toList, .start), ("end".toList, .stop), ("start-half".toList, .halfStart),
   ("end-half".toList, .halfStop)]

/-- The name of an edge of a word in braces; none if the brace begins no name. -/
def wordEdge? (start : Mark) : Scan (Option WordEdge) := do
  let isNamePart (char : Char) : Bool := char.isAlpha || char == '-'
  let before ← get
  pass
  match ← look with
  | none => refuse .openBrace (← since start)
  | some char =>
    if !isNamePart char then
      set before
      return none
    let first ← mark
    let name ← run isNamePart
    if (← look) ≠ some '\x7d' then refuse .openWordEdge (← since before.mark)
    let span ← since first
    bump
    match wordEdges.lookup name with
    | some edge => return some edge
    | none => refuse .unknownWordEdge span

def wordBoundary (start : Mark) : Scan Atom := do
  let span ← since start
  if (← look) = some '\x7b' then
    match ← wordEdge? start with
    | some edge => return .anchor (← since start) (.word edge)
    | none => return .anchor span (.word .boundary)
  else return .anchor span (.word .boundary)

def shorthand? : Char → Option (Bool × List CharRange)
  | 'd' => some (false, CharSet.digits)
  | 's' => some (false, CharSet.spaces)
  | 'w' => some (false, CharSet.wordChars)
  | 'D' => some (true, CharSet.digits)
  | 'S' => some (true, CharSet.spaces)
  | 'W' => some (true, CharSet.wordChars)
  | _ => none

def controlChar? : Char → Option Char
  | 'a' => some '\x07'
  | 'f' => some '\x0c'
  | 't' => some '\t'
  | 'n' => some '\n'
  | 'r' => some '\r'
  | 'v' => some '\x0b'
  | _ => none

/-- The conditions that an escape stands for, the boundary of a word excepted. -/
def anchor? : Char → Option Anchor
  | 'A' => some .textStart
  | 'z' => some .textStop
  | 'B' => some (.word .inner)
  | '<' => some (.word .start)
  | '>' => some (.word .stop)
  | _ => none

def hexCount? : Char → Option Nat
  | 'x' => some 2
  | 'u' => some 4
  | 'U' => some 8
  | _ => none

/-- What an escape stands for. Any character of ASCII but a letter, a digit or an angle may be
escaped and then stands for itself. -/
def escape : Scan Atom := do
  let start ← mark
  bump
  match ← look with
  | none => refuse .openEscape (← since start)
  | some char =>
    match hexCount? char with
    | some count => hex start count
    | none =>
      if char = 'p' || char = 'P' then property start
      else
        bump
        let span ← since start
        if char.isDigit then refuse .backreference span
        match shorthand? char, controlChar? char, anchor? char with
        | some (negated, ranges), _, _ => return .shorthand span negated ranges
        | none, some control, _ => return .literal span control false
        | none, none, some anchor => return .anchor span anchor
        | none, none, none =>
          if char = 'b' then wordBoundary start
          else if char ≤ '\x7f' && !char.isAlpha then return .literal span char false
          else refuse .unknownEscape span

def atom : Scan Atom := do
  let span ← nextSpan
  match ← look with
  | some '\\' => escape
  | some '.' => do
    bump
    return .dot span
  | some '^' => do
    bump
    return .anchor span .start
  | some '$' => do
    bump
    return .anchor span .stop
  | some char => do
    bump
    return .literal span char false
  | none => refuse .openEscape span

end Scan

namespace Atom

def shorthandSet (span : Span) (negated : Bool) (ranges : List CharRange) : Scan CharSet := do
  if (← Scan.flags).ascii then
    if negated then Scan.doubt .partOfCharacter span
  else Scan.doubt .noClassOfAllScripts span
  let set := CharSet.ofRanges ranges
  return if negated then set.complement else set

def propertySet (span : Span) (general : Bool) : Scan CharSet := do
  let flaw :=
    if (← Scan.flags).ascii then Flaw.notBeyondAscii
    else if general then .unknownPropertyValue
    else .unknownProperty
  Scan.doubt flaw span
  return .empty

def condition (flags : Flags) : Anchor → Condition
  | .textStart => .textStart
  | .textStop => .textStop
  | .start => if flags.lines then .lineStart flags.returns else .textStart
  | .stop => if flags.lines then .lineStop flags.returns else .textStop
  | .word edge => .word edge flags.ascii

def dotSet (flags : Flags) : CharSet :=
  if flags.dotAll then .allBut []
  else if flags.returns then .allBut ['\r', '\n']
  else .allBut ['\n']

def expression : Atom → Scan Expression
  | literal span char byte => do
    let flags ← Scan.flags
    if flags.ascii then
      if byte && '\x7f' < char then Scan.doubt .partOfCharacter span
    else if flags.caseless then Scan.doubt .noCaseOfAllScripts span
    let set := CharSet.ofChars [char]
    return .ofSet (if flags.caseless then set.caseless else set) flags.ascii
  | dot span => do
    let flags ← Scan.flags
    if flags.ascii then Scan.doubt .partOfCharacter span
    return .ofSet (dotSet flags) false
  | anchor _ which => return .condition (condition (← Scan.flags) which)
  | shorthand span negated ranges => return .ofSet (← shorthandSet span negated ranges) true
  | property span general => return .ofSet (← propertySet span general) false

end Atom

example :
    [[' ', 's', '_', 'C'], ['i', 's', 'L', 'c'], ['I', 'S', '-', 'C', 'F']].map Scan.plainName =
      [['s', 'c'], ['l', 'c'], ['c', 'f']] := by decide +kernel

end Pattern

end ShaderBinding
