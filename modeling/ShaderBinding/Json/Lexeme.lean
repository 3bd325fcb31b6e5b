import ShaderBinding.Json.Reader

/-! Blanks, literal words and single tokens. -/

namespace ShaderBinding

def byte (char : Char) : UInt8 := char.toNat.toUInt8

def isBlank (b : UInt8) : Bool :=
  b == byte ' ' || b == byte '\n' || b == byte '\t' || b == byte '\r'

def isDigit (b : UInt8) : Bool := byte '0' ≤ b && b ≤ byte '9'

def digitValue (b : UInt8) : Nat := b.toNat - 48

def hexValue? (b : UInt8) : Option Nat :=
  if isDigit b then some (digitValue b)
  else if byte 'a' ≤ b && b ≤ byte 'f' then some (b.toNat - 87)
  else if byte 'A' ≤ b && b ≤ byte 'F' then some (b.toNat - 55)
  else none

namespace Reader

/-- Passes over blanks and looks at the byte after them. -/
def token : Reader (Option UInt8) :=
  loop (fun () => do
    match ← look with
    | none => pure (.stop none)
    | some b =>
      if isBlank b then
        eat
        pure (.again ())
      else pure (.stop (some b))) ()

def valueStart : Reader UInt8 := do
  match ← token with
  | some b => pure b
  | none => refuseNext (.endOfInput .value)

def word : List Char → Reader Unit
  | [] => pure ()
  | char :: rest => do
    match ← next with
    | none => refuse (.endOfInput .value)
    | some b => if b = byte char then word rest else refuse .expectedIdent

def colon : Reader Unit := do
  match ← token with
  | none => refuseNext (.endOfInput .object)
  | some b => if b = byte ':' then eat else refuseNext .expectedColon

def comma (bracket : Part) (b : UInt8) : Reader Unit :=
  if b = byte ',' then eat else refuseNext (.expectedCommaOrEnd bracket)

def hasElement (first : Bool) : Reader Bool := do
  match ← token with
  | none => refuseNext (.endOfInput .list)
  | some b =>
    if b = byte ']' then pure false
    else if first then pure true
    else do
      comma .list b
      match ← token with
      | none => refuseNext (.endOfInput .value)
      | some b => if b = byte ']' then refuseNext .trailingComma else pure true

/-- The quote that starts a key, which stays ahead. -/
def keyStart (b : UInt8) : Reader Unit :=
  if b = byte '"' then pure () else refuseNext .keyMustBeString

/-- Whether an object goes on with another member, whose key is then ahead. -/
def hasMember (first : Bool) : Reader Bool := do
  match ← token with
  | none => refuseNext (.endOfInput .object)
  | some b =>
    if b = byte '}' then pure false
    else if first then do
      keyStart b
      pure true
    else do
      comma .object b
      match ← token with
      | none => refuseNext (.endOfInput .value)
      | some b =>
        if b = byte '}' then refuseNext .trailingComma
        else do
          keyStart b
          pure true

/-- The byte after blanks, none also when the stream fails there. -/
def tokenOrFailure : Reader (Option UInt8) := fun delivery cursor =>
  match token delivery cursor with
  | .failed _ cursor => .done none cursor
  | done => done

def listEnd : Reader Unit := do
  match ← token with
  | none => refuseNext (.endOfInput .list)
  | some b =>
    if b = byte ']' then eat
    else if b = byte ',' then
      eat
      match ← tokenOrFailure with
      | some b =>
        if b = byte ']' then refuseNext .trailingComma else refuseNext .trailingCharacters
      | none => refuseNext .trailingCharacters
    else refuseNext .trailingCharacters

def objectEnd : Reader Unit := do
  match ← token with
  | none => refuseNext (.endOfInput .object)
  | some b =>
    if b = byte '}' then eat
    else if b = byte ',' then refuseNext .trailingComma
    else refuseNext .trailingCharacters

end Reader

end ShaderBinding
