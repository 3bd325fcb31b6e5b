/-! Sets of characters, kept as ranges in ascending order that neither meet nor overlap. A set also
knows when it is sure to hold each letter in both cases. -/

namespace ShaderBinding

namespace Pattern

abbrev CharRange := Char × Char

namespace CharRange

/-- The next character; surrogates are none. -/
def above (char : Char) : Char :=
  if char = '\ud7ff' then '\ue000' else Char.ofNat (char.toNat + 1)

def below (char : Char) : Char :=
  if char = '\ue000' then '\ud7ff' else Char.ofNat (char.toNat - 1)

def between (a b : Char) : CharRange := if a ≤ b then (a, b) else (b, a)

def contains (range : CharRange) (char : Char) : Bool := range.1 ≤ char && char ≤ range.2

def earlier (a b : Char) : Char := if a ≤ b then a else b

def later (a b : Char) : Char := if a ≤ b then b else a

/-- Whether a range ends before another one begins, with a code point between them. -/
def isApartBelow (a b : CharRange) : Bool := a.2.toNat + 1 < b.1.toNat

def common? (a b : CharRange) : Option CharRange :=
  let first := later a.1 b.1
  let last := earlier a.2 b.2
  if first ≤ last then some (first, last) else none

def without (a b : CharRange) : List CharRange :=
  if (common? a b).isNone then [a]
  else
    (if a.1 < b.1 then [(a.1, below b.1)] else []) ++
      (if b.2 < a.2 then [(above b.2, a.2)] else [])

end CharRange

structure CharSet where
  ranges : List CharRange
  /-- Holds only if no letter is in the set in one case alone. -/
  folded : Bool
  deriving DecidableEq, Repr

namespace CharSet

def empty : CharSet := ⟨[], true⟩

def lastChar : Char := Char.ofNat 0x10FFFF

def isEmpty (set : CharSet) : Bool := set.ranges.isEmpty

/-- Adds a range to ascending ranges, joined to those that it meets. -/
def insertRange (range : CharRange) : List CharRange → List CharRange
  | [] => [range]
  | other :: rest =>
    if range.isApartBelow other then range :: other :: rest
    else if other.isApartBelow range then other :: insertRange range rest
    else insertRange (CharRange.earlier range.1 other.1, CharRange.later range.2 other.2) rest

def insert (set : CharSet) (range : CharRange) : CharSet :=
  ⟨insertRange range set.ranges, false⟩

def ofRanges (ranges : List CharRange) : CharSet := ranges.foldl insert empty

def ofChars (chars : List Char) : CharSet := ofRanges (chars.map fun char => (char, char))

def union (a b : CharSet) : CharSet :=
  if b.isEmpty || a.ranges == b.ranges then a
  else ⟨b.ranges.foldl (fun ranges range => insertRange range ranges) a.ranges,
    a.folded && b.folded⟩

def intersection (a b : CharSet) : CharSet :=
  if a.isEmpty then a
  else if b.isEmpty then empty
  else ⟨a.ranges.flatMap fun range => b.ranges.filterMap range.common?, a.folded && b.folded⟩

def difference (a b : CharSet) : CharSet :=
  if a.isEmpty || b.isEmpty then a
  else
    ⟨b.ranges.foldl (fun ranges range => ranges.flatMap (·.without range)) a.ranges,
      a.folded && b.folded⟩

def symmetricDifference (a b : CharSet) : CharSet :=
  (a.union b).difference (a.intersection b)

/-- The ranges behind a character and between others, up to the last character. -/
def gapsAbove (last : Char) : List CharRange → List CharRange
  | [] => if last < lastChar then [(CharRange.above last, lastChar)] else []
  | range :: rest =>
    CharRange.between (CharRange.above last) (CharRange.below range.1) :: gapsAbove range.2 rest

/-- The characters that a set does not hold. Two ranges that meet at the surrogates leave the
characters on both sides of them. -/
def complement (set : CharSet) : CharSet :=
  match set.ranges with
  | [] => ⟨[('\x00', lastChar)], true⟩
  | range :: rest =>
    ⟨(if '\x00' < range.1 then [('\x00', CharRange.below range.1)] else []) ++
      gapsAbove range.2 rest, set.folded⟩

/-- The part of a range that lies in another one, moved by a number of code points. -/
def moved (range letters : CharRange) (move : Nat → Nat) : List CharRange :=
  (range.common? letters).toList.map fun (first, last) =>
    (Char.ofNat (move first.toNat), Char.ofNat (move last.toNat))

def caseless (set : CharSet) : CharSet :=
  if set.folded then set
  else
    let others := set.ranges.flatMap fun range =>
      moved range ('a', 'z') (· - 32) ++ moved range ('A', 'Z') (· + 32)
    ⟨others.foldl (fun ranges range => insertRange range ranges) set.ranges, true⟩

def allBut (chars : List Char) : CharSet := (ofChars chars).complement

def digits : List CharRange := [('0', '9')]

def spaces : List CharRange := [('\t', '\r'), (' ', ' ')]

def wordChars : List CharRange := [('0', '9'), ('A', 'Z'), ('_', '_'), ('a', 'z')]

def named : List (String × List CharRange) :=
  [("alnum", [('0', '9'), ('A', 'Z'), ('a', 'z')]),
   ("alpha", [('A', 'Z'), ('a', 'z')]),
   ("ascii", [('\x00', '\x7f')]),
   ("blank", [('\t', '\t'), (' ', ' ')]),
   ("cntrl", [('\x00', '\x1f'), ('\x7f', '\x7f')]),
   ("digit", digits),
   ("graph", [('!', '~')]),
   ("lower", [('a', 'z')]),
   ("print", [(' ', '~')]),
   ("punct", [('!', '/'), (':', '@'), ('[', '\x60'), ('\x7b', '~')]),
   ("space", spaces),
   ("upper", [('A', 'Z')]),
   ("word", wordChars),
   ("xdigit", [('0', '9'), ('A', 'F'), ('a', 'f')])]

example : (ofRanges [('c', 'e'), ('a', 'b'), ('x', 'z')]).ranges = [('a', 'e'), ('x', 'z')] := by
  decide +kernel

example : ((ofRanges [('a', 'f')]).difference (ofChars ['c'])).caseless.ranges =
    [('A', 'B'), ('D', 'F'), ('a', 'b'), ('d', 'f')] := by decide +kernel

example : (allBut ['\n']).ranges = [('\x00', '\t'), ('\x0b', lastChar)] := by decide +kernel

end CharSet

end Pattern

end ShaderBinding
