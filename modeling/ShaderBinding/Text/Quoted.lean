import ShaderBinding.Text.Unprintable

/-! Quoted texts. The quote, the backslash and every character that is not shown are written as an
escape, so that a quoted text stands on one line and ends at its first bare quote. -/

namespace ShaderBinding

namespace Quoted

/-- The lower-case hexadecimal digits of a code point, without leading zeros. -/
def hex (n : Nat) : List Char := Nat.toDigits 16 n

def escape (char : Char) : List Char :=
  if char = '"' then ['\\', '"']
  else if char = '\\' then ['\\', '\\']
  else if char = '\n' then ['\\', 'n']
  else if char = '\r' then ['\\', 'r']
  else if char = '\t' then ['\\', 't']
  else if char = '\x00' then ['\\', '0']
  else if isUnprintable char then ['\\', 'u', '\x7b'] ++ hex char.toNat ++ ['\x7d']
  else [char]

def encode (chars : List Char) : List Char := '"' :: chars.flatMap escape ++ ['"']

end Quoted

def quoted (text : String) : String := String.ofList (Quoted.encode text.toList)

example : quoted "a\"b\\c\n\u0301'/" = "\"a\\\"b\\\\c\\n\\u\x7b301\x7d'/\"" := by decide +kernel

end ShaderBinding
