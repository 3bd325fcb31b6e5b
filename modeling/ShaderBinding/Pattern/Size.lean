import ShaderBinding.Pattern.ByteSequence
import ShaderBinding.Pattern.Expression
import ShaderBinding.Text.Utf8

/-! The size of a pattern: how many bytes two machines would take that read a text byte by byte, one
forward, which also marks the groups, and one backward. A pattern that is too large is refused. So
the size is reckoned from the expression, without the machines. -/

namespace ShaderBinding

namespace Pattern

inductive Direction where
  | forward
  | backward
  deriving DecidableEq, Repr

namespace Size

/-- The bytes of a place. -/
def place : Nat := 32

/-- The bytes of a way out of a fork. -/
def way : Nat := 4

/-- The bytes of a range in a place that tells ranges apart. -/
def range : Nat := 8

/-- The most bytes that a machine may have. -/
def limit : Nat := 10485760

/-- The ends of texts in one place of a tree. At a leaf only the first text ends. -/
def endings (texts : List (List UInt8)) : Nat :=
  texts.count [] - ((texts.takeWhile (·.isEmpty)).length - 1)

def rests (texts : List (List UInt8)) : List (List (List UInt8)) :=
  (texts.filterMap List.head?).eraseDups.map fun byte =>
    texts.filterMap fun
      | [] => none
      | first :: rest => if first = byte then some rest else none

def total (sizes : List Nat) : Nat := sizes.foldl (· + ·) 0

/-- The size of a tree of texts, up to a depth. Where a text ends, the texts after it are not mixed
with those before it. -/
def tree : Nat → List (List UInt8) → Nat
  | 0, _ => 0
  | depth + 1, texts =>
    if texts.all List.isEmpty then 0
    else
      let chunks := (texts.splitOn []).filter (! ·.isEmpty)
      let tell (count : Nat) : Nat := place + if count = 1 then 0 else count * range
      place + (chunks.length + endings texts) * way +
        total (chunks.map fun chunk => tell (rests chunk).length) +
        total ((chunks.flatMap rests).map (tree depth))

/-- The size of a set. A set of ASCII is one place that tells its ranges apart. -/
def set (direction : Direction) (ranges : List CharRange) : Nat :=
  if ranges.all (·.2 ≤ '\x7f') then 2 * place + ranges.length * range
  else
    let sequences := ByteSequence.ofRanges ranges
    match direction with
    | .forward =>
      place + total ((ByteSequence.suffixes 4 sequences).eraseDups.map fun suffix =>
        place + (ByteSequence.rests suffix).length * range)
    | .backward =>
      2 * place + sequences.length * way +
        (sequences.flatMap ByteSequence.prefixes).eraseDups.length * place

inductive Part where
  /-- A part that may end in a fork, from which a way leads on, and may be a text. -/
  | one (bytes : Nat) (forked : Bool) (text : Option (List UInt8))
  /-- A choice, by the bytes of its branches, which may all be texts. -/
  | choice (bytes : Nat) (texts : Option (List (List UInt8)))
  deriving Repr

namespace Part

def bytes : Part → Nat
  | one bytes _ _ => bytes
  | choice bytes none => 2 * place + bytes
  | choice _ (some texts) => place + tree (total (texts.map List.length) + 1) texts

def forked : Part → Bool
  | one _ forked _ => forked
  | choice _ _ => false

def link (part : Part) : Nat := if part.forked then way else 0

def branchBytes : Part → Nat
  | choice bytes _ => bytes
  | part => part.bytes + way + part.link

def texts : Part → Option (List (List UInt8))
  | choice _ texts => texts
  | one _ _ text => text.map ([·])

def followedBy (a b : Part) : Part := one (a.bytes + a.link + b.bytes) b.forked none

def exactly (part : Part) : Nat → Part
  | 0 => one place false none
  | n + 1 => one ((n + 1) * part.bytes + n * part.link) part.forked none

def repeated (part : Part) (mayBeEmpty : Bool) : Nat → Option Nat → Part
  | 0, none =>
    if mayBeEmpty then one (part.bytes + part.link + 3 * place + 4 * way) false none
    else one (place + part.bytes + way + part.link) true none
  | 1, none => one (part.bytes + place + part.link + way) true none
  | least + 1, none =>
    let before := part.exactly least
    one (before.bytes + before.link + part.bytes + place + part.link + way) true none
  | least, some most =>
    let before := part.exactly least
    if least = most then before
    else if least = 0 ∧ most = 1 then
      one (2 * place + 2 * way + part.bytes + part.link) false none
    else
      one (before.bytes + before.link + place +
        (most - least) * (place + part.bytes + 2 * way + part.link)) false none

end Part

def part (direction : Direction) : Expression → Part
  | .empty | .condition _ => .one place false none
  | .literal chars =>
    let bytes := Utf8.encode chars
    .one (bytes.length * place) false
      (some (match direction with | .forward => bytes | .backward => bytes.reverse))
  | .oneOf ranges _ => .one (set direction ranges) false none
  | .sequence first rest =>
    match direction with
    | .forward => (part direction first).followedBy (part direction rest)
    | .backward => (part direction rest).followedBy (part direction first)
  | .either branch rest =>
    let a := part direction branch
    let b := part direction rest
    .choice (a.branchBytes + b.branchBytes) (do return (← a.texts) ++ (← b.texts))
  | .repeated body least most _ =>
    (part direction body).repeated (body.leastWidth?.all (· = 0)) least most
  | .group _ body =>
    let inner := part direction body
    match direction with
    | .forward => .one (2 * place + inner.bytes + inner.link) false none
    | .backward => .one inner.bytes inner.forked none

/-- The part in front that passes over what comes before a match. A match that has to be at an edge
of the text needs none. -/
def approach (direction : Direction) (expression : Expression) : Nat :=
  let atEdge :=
    match direction with
    | .forward => expression.beginsAtStart
    | .backward => expression.endsAtStop
  if atEdge then place else 3 * place + range + 2 * way

def bytes (direction : Direction) (expression : Expression) : Nat :=
  let inner := part direction expression
  let marks :=
    match direction with
    | .forward => 2 * place
    | .backward => 0
  approach direction expression + marks + inner.bytes + inner.link + place

/-- A long text is refused by its length. -/
example : bytes .forward (.repeated (.literal ['h']) 327673 (some 327673) true) ≤ limit ∧
    limit < bytes .forward (.repeated (.literal ['h']) 327674 (some 327674) true) := by
  decide +kernel

/-- Two texts that begin alike take fewer bytes than apart. -/
example : (part .forward (.either (.literal ['a', 'b']) (.literal ['a', 'c']))).bytes = 184 := by
  decide +kernel

end Size

end Pattern

end ShaderBinding
