import ShaderBinding.Error
import ShaderBinding.Table.Reader

/-! Where tables come from: a text, a stream of bytes, or the content of a file. -/

namespace ShaderBinding

def readText (path : String) (content : Except IoFault (List UInt8)) : Except Error String :=
  match content with
  | .error fault => .error (.reading path fault)
  | .ok bytes =>
    match Utf8.text? bytes with
    | some text => .ok text
    | none => .error (.reading path .notUtf8)

/-- What one request to a stream is answered with: some bytes, or a call to ask again. -/
inductive Arrival where
  | chunk (first : UInt8) (more : List UInt8)
  | interruption
  deriving DecidableEq, Repr

def Arrival.bytes : Arrival → List UInt8
  | chunk first more => first :: more
  | interruption => []

/-- A stream of bytes, which ends or fails after its last arrival. -/
structure Stream where
  arrivals : List Arrival
  failure : Option IoFault
  deriving DecidableEq, Repr

def Stream.bytes (stream : Stream) : List UInt8 := stream.arrivals.flatMap Arrival.bytes

namespace Table

def ofText (text : String) : Except Error Table :=
  (read .text (utf8Bytes text)).mapError Error.table

def ofStream (stream : Stream) : Except Error Table :=
  (read (.stream stream.failure) stream.bytes).mapError Error.table

def ofFile (path : String) (content : Except IoFault (List UInt8)) : Except Error Table := do
  ofText (← readText path content)

end Table

end ShaderBinding
