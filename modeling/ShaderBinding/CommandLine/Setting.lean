import ShaderBinding.Artifact.Files

/-! The settings that a command line can give a value, and the flags that ask for information. -/

namespace ShaderBinding

namespace CommandLine

inductive Setting where
  | table
  | shader
  | out
  | variant
  | textureTypeMacro
  | textureParamMacro
  deriving DecidableEq, Repr

namespace Setting

def all : List Setting := [table, shader, out, variant, textureTypeMacro, textureParamMacro]

def long : Setting → String
  | table => "table"
  | shader => "shader"
  | out => "out"
  | variant => "variant"
  | textureTypeMacro => "texture-type-macro"
  | textureParamMacro => "texture-param-macro"

def short? : Setting → Option Char
  | table => some 't'
  | shader => some 's'
  | out => some 'o'
  | variant => some 'v'
  | textureTypeMacro => none
  | textureParamMacro => none

def placeholder : Setting → String
  | table => "<TABLE>"
  | shader => "<SHADER>"
  | out => "<OUT>"
  | variant => "<VARIANT>"
  | textureTypeMacro => "<TEXTURE_TYPE_MACRO>"
  | textureParamMacro => "<TEXTURE_PARAM_MACRO>"

def about : Setting → String
  | table => "Shader binding table (JSON)"
  | shader => "Base shader source, copied to the start of the output"
  | out => "Name of the combined shader source to write"
  | variant => "Dispatch variant"
  | textureTypeMacro => "Macro appended to dispatch function parameters (textured variant)"
  | textureParamMacro => "Macro appended to shader call arguments (textured variant)"

def standard : Setting → String
  | table => "sbt.json"
  | shader => "shader.cl"
  | out => "tmp.cl"
  | variant => "textured"
  | textureTypeMacro => TextureMacros.standard.parameters
  | textureParamMacro => TextureMacros.standard.arguments

/-- The values that a setting is restricted to, each with its meaning; none for any text. -/
def choices : Setting → List (String × String)
  | variant =>
    [("legacy", "Hit and miss dispatch, reporting unbound indices at runtime"),
      ("textured", "Any-hit, hit, and miss dispatch with texture parameters")]
  | _ => []

/-- Only a macro may be empty. -/
def allowsEmpty : Setting → Bool
  | textureTypeMacro => true
  | textureParamMacro => true
  | _ => false

def usage (setting : Setting) : String := "--" ++ setting.long ++ " " ++ setting.placeholder

def ofLong? (name : String) : Option Setting := all.find? fun setting => setting.long == name

def ofShort? (char : Char) : Option Setting :=
  all.find? fun setting => setting.short? == some char

end Setting

inductive Flag where
  | help
  | version
  deriving DecidableEq, Repr

namespace Flag

def all : List Flag := [help, version]

def long : Flag → String
  | help => "help"
  | version => "version"

def short : Flag → Char
  | help => 'h'
  | version => 'V'

def ofLong? (name : String) : Option Flag := all.find? fun flag => flag.long == name

def ofShort? (char : Char) : Option Flag := all.find? fun flag => flag.short == char

end Flag

/-- The values given on a command line, at most one for each setting. -/
abbrev Values := List (Setting × String)

structure Options where
  paths : Artifact.Paths
  variant : Variant
  deriving DecidableEq, Repr

namespace Values

def get (values : Values) (setting : Setting) : String :=
  (values.lookup setting).getD setting.standard

/-- The variant that the values ask for; the legacy one has no use for macros. -/
def variant (values : Values) : Variant :=
  if values.get .variant = "legacy" then .legacy
  else .textured ⟨values.get .textureTypeMacro, values.get .textureParamMacro⟩

def options (values : Values) : Options where
  paths := ⟨values.get .table, values.get .shader, values.get .out⟩
  variant := values.variant

end Values

end CommandLine

end ShaderBinding
