/-! Places in a text: lines count from one, columns count the bytes since the last line break. -/

namespace ShaderBinding

structure Place where
  line : Nat
  column : Nat
  deriving DecidableEq, Repr

namespace Place

def lineBreak : UInt8 := 10

/-- The place after some bytes, the last of which stands first. -/
def after (behind : List UInt8) : Place where
  line := behind.count lineBreak + 1
  column := (behind.takeWhile (· != lineBreak)).length

def back (place : Place) (bytes : Nat) : Place :=
  { place with column := place.column - bytes }

def text (place : Place) : String :=
  " at line " ++ toString place.line ++ " column " ++ toString place.column

end Place

end ShaderBinding
