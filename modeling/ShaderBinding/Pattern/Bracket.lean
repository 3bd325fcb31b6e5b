import ShaderBinding.Pattern.Atom
import ShaderBinding.Pattern.Nesting

/-! Classes of characters in brackets: ranges, named classes, classes in classes, and the three
operations on classes, of which the left one binds first. -/

namespace ShaderBinding

namespace Pattern

namespace Bracket

inductive Operation where
  | intersection
  | difference
  | symmetricDifference
  deriving DecidableEq, Repr

/-- The items read so far: their characters, the part of the text that they take, how many they are
and how they are nested. -/
structure Items where
  set : CharSet
  span : Span
  count : Nat
  nesting : Nesting
  deriving DecidableEq, Repr

namespace Items

def none (span : Span) : Items := ⟨.empty, span, 0, []⟩

def add (items : Items) (set : CharSet) (span : Span) (nesting : Nesting) : Items where
  set := set
  span := if items.count = 0 then span else ⟨items.span.start, span.stop⟩
  count := items.count + 1
  nesting := items.nesting.beside nesting

def insert (items : Items) (range : CharRange) (span : Span) : Items :=
  items.add (items.set.insert range) span []

def union (items : Items) (set : CharSet) (span : Span) (nesting : Nesting) : Items :=
  items.add (items.set.union set) span nesting

/-- How the items are nested as a whole; several items lie together in it. -/
def depth (items : Items) : Nesting :=
  if items.count ≤ 1 then items.nesting else .within items.span items.nesting

end Items

/-- What is left open to the left of the items: a bracket, or an operation on what stands before. -/
inductive Frame where
  | bracket (outer : Items) (opening : Span) (negated : Bool)
  | operation (operation : Operation) (left : Items)
  deriving DecidableEq, Repr

/-- The innermost open bracket, of which only the beginning is marked. -/
def opening? : List Frame → Option Span
  | [] => none
  | .bracket _ opening _ :: _ => some opening
  | .operation _ _ :: rest => opening? rest

open Scan

def refuseOpen {α : Type} (frames : List Frame) : Scan α := do
  refuse .openClass ((opening? frames).getD (← here))

/-- A set with letters in both cases if the flags ask for that. A set that may lack one of the
cases would need to know the letters of all scripts. -/
def fold (set : CharSet) (span : Span) : Scan CharSet := do
  let flags ← flags
  if flags.caseless then
    if !flags.ascii && !set.folded && !set.isEmpty then doubt .noCaseOfAllScripts span
    return set.caseless
  else return set

def whole (span : Span) (negated : Bool) (set : CharSet) : Scan CharSet := do
  let set ← fold set span
  if negated then
    if (← flags).ascii then doubt .partOfCharacter span
    return set.complement
  else return set

def operate (operation : Operation) (left right : Items) : Scan Items := do
  let b ← fold right.set right.span
  let a ← fold left.set left.span
  let set :=
    match operation with
    | .intersection => a.intersection b
    | .difference => a.difference b
    | .symmetricDifference => a.symmetricDifference b
  let span : Span := ⟨left.span.start, right.span.stop⟩
  return .add (.none span) (CharSet.empty.union set) span
    (.within span (left.depth.beside right.depth))

def settle (frames : List Frame) (items : Items) : Scan (List Frame × Items) :=
  match frames with
  | .operation operation left :: rest => return (rest, ← operate operation left items)
  | frames => return (frames, items)

/-- The beginning of a class: its bracket, what negates it, and the characters that stand for
themselves only here, which are dashes, or else a closing bracket. -/
def opening (outer : Items) : Scan (Frame × Items) := do
  let start ← mark
  pass
  if (← look).isNone then refuse .openClass (← since start)
  let negated := (← look) = some '^'
  if negated then
    pass
    if (← look).isNone then refuse .openClass (← since start)
  let none ← Items.none <$> here
  let dashes ← loop (fun items => do
    if (← look) = some '-' then
      let span ← nextSpan
      pass
      if (← look).isNone then refuse .openClass ⟨start, start⟩
      return .again (items.insert ('-', '-') span)
    else return .stop items) none
  if dashes.count = 0 && (← look) = some ']' then
    let span ← nextSpan
    pass
    if (← look).isNone then refuse .openClass (← since start)
    return (.bracket outer (← since start) negated, none.insert (']', ']') span)
  else return (.bracket outer (← since start) negated, dashes)

/-- A named class at the head of a text, and the length of its spelling. -/
def named? : List Char → Option (Bool × List CharRange × Nat)
  | '[' :: ':' :: rest =>
    let negated := rest.head? = some '^'
    let spelled := if negated then rest.tail else rest
    let name := spelled.takeWhile (· ≠ ':')
    match spelled.drop name.length, CharSet.named.lookup (String.ofList name) with
    | ':' :: ']' :: _, some ranges =>
      some (negated, ranges, name.length + if negated then 5 else 4)
    | _, _ => none
  | _ => none

/-- A literal in a class. Without the letters of all scripts it must be one of ASCII. -/
def literal (span : Span) (char : Char) (byte : Bool) : Scan Unit := do
  if (← flags).ascii && '\x7f' < char then
    doubt (if byte then .partOfCharacter else .notBeyondAscii) span

def addItem (items : Items) : Atom → Scan Items
  | .literal span char byte => do
    literal span char byte
    return items.insert (char, char) span
  | .shorthand span negated ranges =>
    return items.union (← Atom.shorthandSet span negated ranges) span []
  | .property span general => return items.union (← Atom.propertySet span general) span []
  | .dot span | .anchor span _ => refuse .badClassItem span

def rangeEnd : Atom → Scan (Span × Char × Bool)
  | .literal span char byte => return (span, char, byte)
  | other => refuse .badClassRangeEnd other.span

def atomInClass : Scan Atom := do
  match ← look with
  | some '\\' => escape
  | next =>
    let span ← nextSpan
    bump
    return .literal span (next.getD '\x00') false

/-- An atom, or the range from one to another. A dash before a bracket or a dash makes no range. -/
def itemOrRange (frames : List Frame) (items : Items) : Scan Items := do
  let first ← atomInClass
  skipSpace
  match ← look with
  | none => refuseOpen frames
  | some next =>
    let second := (← get).second?
    if next ≠ '-' || second = some ']' || second = some '-' then
      return (← addItem items first)
    pass
    if (← look).isNone then refuseOpen frames
    let last ← atomInClass
    let span : Span := ⟨first.span.start, last.span.stop⟩
    let (firstSpan, a, firstByte) ← rangeEnd first
    let (lastSpan, b, lastByte) ← rangeEnd last
    if b < a then refuse .badClassRange span
    literal firstSpan a firstByte
    literal lastSpan b lastByte
    return items.insert (a, b) span

def operation? : List Char → Option Operation
  | '&' :: '&' :: _ => some .intersection
  | '-' :: '-' :: _ => some .difference
  | '~' :: '~' :: _ => some .symmetricDifference
  | _ => none

/-- The end of a class: the class as a whole becomes an item of the one around it. -/
def closing (frames : List Frame) (items : Items) :
    Scan (Turn (List Frame × Items) (CharSet × Nesting)) := do
  let (frames, items) ← settle frames items
  bump
  match frames with
  | .bracket outer opening negated :: rest =>
    let span ← since opening.start
    let set ← whole span negated items.set
    let nesting := items.depth.within span
    if rest.isEmpty then return .stop (set, nesting)
    else return .again (rest, outer.union set span nesting)
  | frames => refuseOpen frames

def turn : List Frame × Items → Scan (Turn (List Frame × Items) (CharSet × Nesting))
  | (frames, items) => do
    skipSpace
    let start ← mark
    let ahead := (← get).ahead
    match operation? ahead, named? ahead, ahead with
    | _, _, [] => refuseOpen frames
    | some operation, _, _ =>
      bumps 2
      let (frames, left) ← settle frames items
      return .again (.operation operation left :: frames, .none (← here))
    | none, some (negated, ranges, length), _ =>
      bumps length
      let span ← since start
      let set ← whole span negated (.ofRanges ranges)
      return .again (frames, items.union set span [])
    | none, none, '[' :: _ =>
      let (frame, inner) ← opening items
      return .again (frame :: frames, inner)
    | none, none, ']' :: _ => closing frames items
    | none, none, _ => return .again (frames, ← itemOrRange frames items)

def read : Scan (CharSet × Nesting) := do
  let (frame, items) ← opening (.none (← here))
  loop turn ([frame], items)

end Bracket

end Pattern

end ShaderBinding
