import ShaderBinding.Dispatch.Kind

/-! Calling conventions. A variant fixes the convention of a whole set of dispatch functions, a
spec that of a single one. -/

namespace ShaderBinding

/-- The macros that stand for the texture parameters of a function and for the texture arguments of
a call. -/
structure TextureMacros where
  parameters : String
  arguments : String
  deriving DecidableEq, Repr

namespace TextureMacros

def standard : TextureMacros := ⟨"TEXTURE_TYPE", "TEXTURE_PARAM"⟩

/-- A list with a macro after it. The empty macro leaves no trace. -/
def append (list : String) : Option String → String
  | none => list
  | some macroName => if macroName.isEmpty then list else list ++ " " ++ macroName

end TextureMacros

namespace Dispatch

structure Spec where
  kind : Kind
  texture : Option TextureMacros
  defaultBranch : Bool
  deriving DecidableEq, Repr

namespace Spec

def stage (spec : Spec) : Stage := spec.kind.stage

def parameters (spec : Spec) : String :=
  TextureMacros.append spec.kind.parameters (spec.texture.map (·.parameters))

def arguments (spec : Spec) : String :=
  TextureMacros.append spec.kind.arguments (spec.texture.map (·.arguments))

end Spec

end Dispatch

structure Variant where
  texture : Option TextureMacros
  anyHit : Bool
  defaultBranch : Bool
  deriving DecidableEq, Repr

namespace Variant

/-- Hit and miss dispatch without textures, reporting an unbound index. -/
def legacy : Variant := ⟨none, false, true⟩

/-- All dispatch functions with texture macros; an unbound index is passed over. -/
def textured (macros : TextureMacros) : Variant := ⟨some macros, true, false⟩

def kinds (variant : Variant) : List Dispatch.Kind :=
  Dispatch.Kind.all.filter fun kind => variant.anyHit || kind != .anyHit

def spec (variant : Variant) (kind : Dispatch.Kind) : Dispatch.Spec :=
  ⟨kind, variant.texture, variant.defaultBranch⟩

end Variant

end ShaderBinding
