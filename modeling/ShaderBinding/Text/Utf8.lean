/-! Texts as bytes. `Utf8.decode` reads the longest prefix of a list of bytes that is made of whole
well-formed sequences; the bytes are a text when nothing is left over. -/

namespace ShaderBinding

namespace Utf8

def encode (chars : List Char) : List UInt8 := chars.flatMap String.utf8EncodeChar

def isContinuation (byte : UInt8) : Bool := 0x80 ≤ byte && byte < 0xC0

/-- The code point spelled by a lead byte with the given marker and the bytes that continue it. -/
def codePoint (marker : Nat) (lead : UInt8) (more : List UInt8) : Nat :=
  more.foldl (fun n byte => n * 64 + (byte.toNat - 0x80)) (lead.toNat - marker)

def push (char : Nat) (decoded : List Char × List UInt8) : List Char × List UInt8 :=
  (Char.ofNat char :: decoded.1, decoded.2)

/-- The characters of the longest well-formed prefix, and the bytes after it. Overlong forms,
surrogates and code points beyond the last plane are ill-formed. -/
def decode : List UInt8 → List Char × List UInt8
  | [] => ([], [])
  | a :: r =>
    if a < 0x80 then push a.toNat (decode r)
    else if 0xC0 ≤ a && a < 0xE0 then
      match r with
      | b :: r' =>
        let char := codePoint 0xC0 a [b]
        if isContinuation b && 0x80 ≤ char then push char (decode r') else ([], a :: b :: r')
      | [] => ([], [a])
    else if 0xE0 ≤ a && a < 0xF0 then
      match r with
      | b :: c :: r' =>
        let char := codePoint 0xE0 a [b, c]
        if isContinuation b && isContinuation c && 0x800 ≤ char && decide char.isValidChar then
          push char (decode r')
        else ([], a :: b :: c :: r')
      | short => ([], a :: short)
    else if 0xF0 ≤ a && a < 0xF8 then
      match r with
      | b :: c :: d :: r' =>
        let char := codePoint 0xF0 a [b, c, d]
        if isContinuation b && isContinuation c && isContinuation d && 0x10000 ≤ char &&
            decide char.isValidChar then
          push char (decode r')
        else ([], a :: b :: c :: d :: r')
      | short => ([], a :: short)
    else ([], a :: r)

def text? (bytes : List UInt8) : Option String :=
  match decode bytes with
  | (chars, []) => some (String.ofList chars)
  | (_, _ :: _) => none

end Utf8

def utf8Bytes (text : String) : List UInt8 := Utf8.encode text.toList

end ShaderBinding
