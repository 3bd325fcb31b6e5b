import ShaderBinding.Json.Lexeme
import ShaderBinding.Text.Utf8

/-! Strings. Escapes are replaced while the bytes are collected; the whole must then be a text. -/

namespace ShaderBinding

def simpleEscape? (b : UInt8) : Option Char :=
  if b = byte '"' then some '"'
  else if b = byte '\\' then some '\\'
  else if b = byte '/' then some '/'
  else if b = byte 'b' then some '\x08'
  else if b = byte 'f' then some '\x0c'
  else if b = byte 'n' then some '\n'
  else if b = byte 'r' then some '\r'
  else if b = byte 't' then some '\t'
  else none

/-- The first halves of the pairs that spell characters beyond the first plane. -/
def isLeadingSurrogate (unit : Nat) : Bool := 0xD800 ≤ unit && unit ≤ 0xDBFF

def isTrailingSurrogate (unit : Nat) : Bool := 0xDC00 ≤ unit && unit ≤ 0xDFFF

def surrogatePair (leading trailing : Nat) : Char :=
  Char.ofNat (0x10000 + (leading - 0xD800) * 0x400 + (trailing - 0xDC00))

def isControl (b : UInt8) : Bool := b < 0x20

namespace Reader

def stringByte : Reader UInt8 := do
  match ← next with
  | some b => pure b
  | none => refuse (.endOfInput .string)

/-- The four hexadecimal digits of an escape; all four are consumed before one is refused. -/
def hexUnit : Reader Nat := do
  let a ← stringByte
  let b ← stringByte
  let c ← stringByte
  let d ← stringByte
  match hexValue? a, hexValue? b, hexValue? c, hexValue? d with
  | some a, some b, some c, some d => pure (((a * 16 + b) * 16 + c) * 16 + d)
  | _, _, _, _ => refuse .invalidEscape

def pairByte (char : Char) : Reader Unit := do
  let b ← stringByte
  if b = byte char then pure () else refuse .endOfHexEscape

def hexEscape : Reader Char := do
  let unit ← hexUnit
  if isTrailingSurrogate unit then refuse .loneSurrogate
  else if isLeadingSurrogate unit then do
    pairByte '\\'
    pairByte 'u'
    let second ← hexUnit
    if isTrailingSurrogate second then pure (surrogatePair unit second)
    else refuse .loneSurrogate
  else pure (Char.ofNat unit)

def escape : Reader Char := do
  let b ← stringByte
  if b = byte 'u' then hexEscape
  else
    match simpleEscape? b with
    | some char => pure char
    | none => refuse .invalidEscape

def stringTurn (collected : List UInt8) : Reader (Turn (List UInt8) (List UInt8)) := do
  let b ← stringByte
  if b = byte '"' then pure (.stop collected)
  else if b = byte '\\' then do
    let char ← escape
    pure (.again ((String.utf8EncodeChar char).reverse ++ collected))
  else if isControl b then refuse .controlCharacter
  else pure (.again (b :: collected))

/-- The bytes of a string up to its closing quote, last first, escapes replaced. -/
def stringBytes : Reader (List UInt8) := loop stringTurn []

def string : Reader String := do
  let bytes ← stringBytes
  match Utf8.decode bytes.reverse with
  | (chars, []) => pure (String.ofList chars)
  | (_, broken) => refuseBack .invalidCodePoint broken.length

end Reader

end ShaderBinding
