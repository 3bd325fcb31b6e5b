/-! Reasons why bytes cannot be read or written. -/

namespace ShaderBinding

inductive SystemError where
  | noEntry
  | inputOutput
  | permissionDenied
  | notDirectory
  | isDirectory
  | nameTooLong
  deriving DecidableEq, Repr

namespace SystemError

def code : SystemError → Nat
  | noEntry => 2
  | inputOutput => 5
  | permissionDenied => 13
  | notDirectory => 20
  | isDirectory => 21
  | nameTooLong => 36

def all : List SystemError :=
  [noEntry, inputOutput, permissionDenied, notDirectory, isDirectory, nameTooLong]

def ofCode? (code : Nat) : Option SystemError := all.find? fun error => error.code == code

theorem ofCode?_code (error : SystemError) : ofCode? error.code = some error := by
  cases error <;> rfl

def name : SystemError → String
  | noEntry => "No such file or directory"
  | inputOutput => "Input/output error"
  | permissionDenied => "Permission denied"
  | notDirectory => "Not a directory"
  | isDirectory => "Is a directory"
  | nameTooLong => "File name too long"

def text (error : SystemError) : String :=
  error.name ++ " (os error " ++ toString error.code ++ ")"

end SystemError

inductive IoFault where
  | system (error : SystemError)
  /-- A path holds the character that ends a name. -/
  | nulInPath
  /-- The bytes were read, but are no text. -/
  | notUtf8
  | entityNotFound
  | unexpectedEnd
  | invalidData
  | other (message : String)
  deriving DecidableEq, Repr

def IoFault.text : IoFault → String
  | system error => error.text
  | nulInPath => "file name contained an unexpected NUL byte"
  | notUtf8 => "stream did not contain valid UTF-8"
  | entityNotFound => "entity not found"
  | unexpectedEnd => "unexpected end of file"
  | invalidData => "invalid data"
  | other message => message

end ShaderBinding
