/-! Ranges of code points, in ascending order. -/

namespace ShaderBinding

/-- Whether a number lies in one of some ascending ranges; both ends belong to a range. -/
def inRanges (n : Nat) : List (Nat × Nat) → Bool
  | [] => false
  | (first, last) :: rest => if n < first then false else n ≤ last || inRanges n rest

end ShaderBinding
