import ShaderBinding.Binary64.Shortest
import ShaderBinding.IoFault
import ShaderBinding.Json.Place
import ShaderBinding.Stage
import ShaderBinding.Text.Quoted

/-! Why a table cannot be read from its bytes: the bytes could not be had, they are not the text
of a value, or the value has the wrong shape. -/

namespace ShaderBinding

inductive Part where
  | value
  | list
  | object
  | string
  deriving DecidableEq, Repr

def Part.text : Part → String
  | value => "a value"
  | list => "a list"
  | object => "an object"
  | string => "a string"

inductive ParseCause where
  | endOfInput (part : Part)
  | expectedValue
  | expectedIdent
  | expectedColon
  | expectedCommaOrEnd (bracket : Part)
  | trailingComma
  | trailingCharacters
  | keyMustBeString
  | invalidNumber
  | numberOutOfRange
  | controlCharacter
  | invalidEscape
  | endOfHexEscape
  | loneSurrogate
  | invalidCodePoint
  deriving DecidableEq, Repr

def ParseCause.text : ParseCause → String
  | endOfInput part => "EOF while parsing " ++ part.text
  | expectedValue => "expected value"
  | expectedIdent => "expected ident"
  | expectedColon => "expected `:`"
  | expectedCommaOrEnd .object => "expected `,` or `\x7d`"
  | expectedCommaOrEnd _ => "expected `,` or `]`"
  | trailingComma => "trailing comma"
  | trailingCharacters => "trailing characters"
  | keyMustBeString => "key must be a string"
  | invalidNumber => "invalid number"
  | numberOutOfRange => "number out of range"
  | controlCharacter =>
    "control character (\\u0000-\\u001F) found while parsing a string"
  | invalidEscape => "invalid escape"
  | endOfHexEscape => "unexpected end of hex escape"
  | loneSurrogate => "lone leading surrogate in hex escape"
  | invalidCodePoint => "invalid unicode code point"

/-- A number as it is read: whole numbers that fit into 64 bits stay exact. -/
inductive Number where
  | integer (value : Int)
  | float (value : Binary64)
  deriving DecidableEq, Repr

def Number.text : Number → String
  | integer value => "integer `" ++ toString value ++ "`"
  | float value => "floating point `" ++ value.text ++ "`"

inductive Found where
  | null
  | boolean (value : Bool)
  | number (value : Number)
  | string (value : String)
  | sequence
  | map
  deriving DecidableEq, Repr

def Found.text : Found → String
  | null => "null"
  | boolean true => "boolean `true`"
  | boolean false => "boolean `false`"
  | number value => value.text
  | string value => "string " ++ quoted value
  | sequence => "sequence"
  | map => "map"

inductive Expected where
  | sequence
  | record
  | string
  deriving DecidableEq, Repr

def Expected.text : Expected → String
  | sequence => "a sequence"
  | record => "struct SbtRecord"
  | string => "a string"

inductive SchemaCause where
  | invalidType (found : Found) (expected : Expected)
  /-- A record written as a sequence ended after this many elements. -/
  | invalidLength (length : Nat)
  | duplicateField (stage : Stage)
  deriving DecidableEq, Repr

def SchemaCause.text : SchemaCause → String
  | invalidType found expected => "invalid type: " ++ found.text ++ ", expected " ++ expected.text
  | invalidLength length =>
    "invalid length " ++ toString length ++ ", expected struct SbtRecord with 4 elements"
  | duplicateField stage => "duplicate field `" ++ stage.name ++ "`"

inductive Fault where
  /-- The stream failed; it has no place in the text. -/
  | stream (fault : IoFault)
  | parse (cause : ParseCause) (place : Place)
  | schema (cause : SchemaCause) (place : Place)
  deriving DecidableEq, Repr

def Fault.text : Fault → String
  | stream fault => fault.text
  | parse cause place => cause.text ++ place.text
  | schema cause place => cause.text ++ place.text

end ShaderBinding
