import ShaderBinding.Artifact
import ShaderBinding.FileSystem
import ShaderBinding.Table.Source

/-! Tables, sources and artifacts in a file system. -/

namespace ShaderBinding

def Table.load (files : FileSystem) (path : String) : Except Error Table :=
  Table.ofFile path (files.read path)

namespace Artifact

def readSource (files : FileSystem) (path : String) : Except Error String :=
  readText path (files.read path)

/-- Writes an artifact. A missing directory counts like any other failure. -/
def write (files : FileSystem) (path text : String) : Except Error FileSystem :=
  (files.write path (utf8Bytes text)).mapError (.io path)

structure Paths where
  table : String
  shader : String
  out : String
  deriving DecidableEq, Repr

def produce (files : FileSystem) (paths : Paths) (variant : Variant) : Except Error String := do
  let table ← Table.load files paths.table
  let base ← readSource files paths.shader
  .ok (compose base (dispatches table variant))

def run (files : FileSystem) (paths : Paths) (variant : Variant) : Except Error FileSystem := do
  write files paths.out (← produce files paths variant)

end Artifact

end ShaderBinding
