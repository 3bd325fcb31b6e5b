import ShaderBinding.Dispatch.Basic

/-! The artifact: a shader source with the dispatch functions of a table after it. -/

namespace ShaderBinding

namespace Artifact

def dispatches (table : Table) (variant : Variant) : List Dispatch :=
  variant.kinds.map fun kind => (variant.spec kind).dispatch table

def generate (table : Table) (variant : Variant) : Logged (List Dispatch) :=
  variant.kinds.mapM fun kind => (variant.spec kind).build table

/-- The base source as it stands, then each function after an empty line. -/
def compose (base : String) (dispatches : List Dispatch) : String :=
  base ++ String.join (dispatches.map fun dispatch => "\n" ++ dispatch.render)

end Artifact

end ShaderBinding
