import ShaderBinding.Text.Ranges

/-! White space: the characters that separate words or lines, and texts without them at the ends. -/

namespace ShaderBinding

def whiteSpaceRanges : List (Nat × Nat) :=
  [(0x9, 0xD), (0x20, 0x20), (0x85, 0x85), (0xA0, 0xA0), (0x1680, 0x1680), (0x2000, 0x200A),
   (0x2028, 0x2029), (0x202F, 0x202F), (0x205F, 0x205F), (0x3000, 0x3000)]

def isWhiteSpace (char : Char) : Bool := inRanges char.toNat whiteSpaceRanges

def trimmed (chars : List Char) : List Char :=
  ((chars.dropWhile isWhiteSpace).reverse.dropWhile isWhiteSpace).reverse

example : trimmed ['\u00A0', 'a', ' ', 'b', '\u3000', '\n'] = ['a', ' ', 'b'] := by
  decide +kernel

end ShaderBinding
