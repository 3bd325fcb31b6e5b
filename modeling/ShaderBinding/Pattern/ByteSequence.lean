import ShaderBinding.Pattern.CharSet

/-! The bytes in which ranges of characters are encoded: a range is cut into pieces in each of which
every byte goes through a range of its own, whatever the others are. -/

namespace ShaderBinding

namespace Pattern

/-- The range through which each byte goes, from the first byte on. -/
abbrev ByteSequence := List (UInt8 × UInt8)

namespace ByteSequence

def cut (last : Nat) (range : Nat × Nat) : List (Nat × Nat) :=
  if range.1 ≤ last ∧ last < range.2 then [(range.1, last), (last + 1, range.2)] else [range]

def blocks (size : Nat) (range : Nat × Nat) : List (Nat × Nat) :=
  let (first, last) := range
  let next := (first + size - 1) / size * size
  let lastBlock := last / size * size
  if first / size = last / size then [range]
  else
    (if first < next then [(first, next - 1)] else []) ++
      if next = lastBlock ∨ last + 1 = lastBlock + size then [(next, last)]
      else [(next, lastBlock - 1), (lastBlock, last)]

def withoutSurrogates (range : Nat × Nat) : List (Nat × Nat) :=
  if range.1 < 0xE000 ∧ 0xD7FF < range.2 then [(range.1, 0xD7FF), (0xE000, range.2)] else [range]

/-- The pieces of a range. All encodings of a piece are of one length, and where two of its
characters differ in a byte, the bytes after it take all values. -/
def pieces (range : CharRange) : List (Nat × Nat) :=
  let byLength := [0x7F, 0x7FF, 0xFFFF].foldl (fun pieces last => pieces.flatMap (cut last))
    (withoutSurrogates (range.1.toNat, range.2.toNat))
  byLength.flatMap fun piece =>
    if piece.2 ≤ 0x7F then [piece]
    else [64, 64 * 64, 64 * 64 * 64].foldl (fun pieces size => pieces.flatMap (blocks size)) [piece]

def ofRange (range : CharRange) : List ByteSequence :=
  (pieces range).map fun (first, last) =>
    (String.utf8EncodeChar (Char.ofNat first)).zip (String.utf8EncodeChar (Char.ofNat last))

def ofRanges (ranges : List CharRange) : List ByteSequence := ranges.flatMap ofRange

/-- The ranges that sequences begin with, sequences side by side that begin alike taken together,
and what follows on each. -/
def rests (sequences : List ByteSequence) : List (List ByteSequence) :=
  (sequences.splitBy fun a b => a.head? == b.head?).map (·.map List.tail)

/-- What may be left of sequences at some byte, the sequences as a whole included. -/
def suffixes : Nat → List ByteSequence → List (List ByteSequence)
  | 0, _ => []
  | length + 1, sequences =>
    if sequences.all List.isEmpty then []
    else sequences :: (rests sequences).flatMap (suffixes length)

def prefixes (sequence : ByteSequence) : List ByteSequence :=
  (List.range sequence.length).map fun n => sequence.take (n + 1)

example : ofRange ('a', '\u07ff') = [[(0x61, 0x7F)], [(0xC2, 0xDF), (0x80, 0xBF)]] := by
  decide +kernel

/-- All characters, the surrogates left out. -/
example : ofRange ('\x00', CharSet.lastChar) =
    [[(0x00, 0x7F)], [(0xC2, 0xDF), (0x80, 0xBF)],
     [(0xE0, 0xE0), (0xA0, 0xBF), (0x80, 0xBF)], [(0xE1, 0xEC), (0x80, 0xBF), (0x80, 0xBF)],
     [(0xED, 0xED), (0x80, 0x9F), (0x80, 0xBF)], [(0xEE, 0xEF), (0x80, 0xBF), (0x80, 0xBF)],
     [(0xF0, 0xF0), (0x90, 0xBF), (0x80, 0xBF), (0x80, 0xBF)],
     [(0xF1, 0xF3), (0x80, 0xBF), (0x80, 0xBF), (0x80, 0xBF)],
     [(0xF4, 0xF4), (0x80, 0x8F), (0x80, 0xBF), (0x80, 0xBF)]] := by decide +kernel

end ByteSequence

end Pattern

end ShaderBinding
