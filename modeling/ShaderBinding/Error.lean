import ShaderBinding.Json.Fault

/-! Everything that can go wrong between the files and the artifact. -/

namespace ShaderBinding

inductive Error where
  | notFound (path : String)
  | io (path : String) (fault : IoFault)
  | table (fault : Fault)
  deriving DecidableEq, Repr

namespace Error

inductive Kind where
  | notFound
  | io
  | stream
  | parse
  | schema
  deriving DecidableEq, Repr

def kind : Error → Kind
  | notFound _ => .notFound
  | io _ _ => .io
  | table (.stream _) => .stream
  | table (.parse _ _) => .parse
  | table (.schema _ _) => .schema

/-- The text of the failure that an error wraps; a missing file wraps none. -/
def source? : Error → Option String
  | notFound _ => none
  | io _ fault => some fault.text
  | table fault => some fault.text

def message : Error → String
  | notFound path => "file " ++ quoted path ++ " not found"
  | io path fault => "io error on " ++ quoted path ++ ": " ++ fault.text
  | table (.stream fault) => "io error while reading table: " ++ fault.text
  | table (.parse cause place) => "error decoding JSON: " ++ (Fault.parse cause place).text
  | table (.schema cause place) =>
    "malformed shader binding table: " ++ (Fault.schema cause place).text

/-- The error for a file that cannot be read: only a missing one is not found. -/
def reading (path : String) : IoFault → Error
  | .system .noEntry => notFound path
  | fault => io path fault

end Error

end ShaderBinding
