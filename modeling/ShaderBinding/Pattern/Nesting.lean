import ShaderBinding.Pattern.Fault

/-! How the parts of a pattern lie in one another. Of each depth only the first part is kept, which
is the part to show if the pattern is too deep. -/

namespace ShaderBinding

namespace Pattern

/-- The first part at each depth, from the outside in. -/
abbrev Nesting := List Span

namespace Nesting

def beside : Nesting → Nesting → Nesting
  | [], other => other
  | other, [] => other
  | span :: inner, _ :: other => span :: beside inner other

def within (span : Span) (inner : Nesting) : Nesting := span :: inner

/-- The depth up to which parts may lie in one another. -/
def limit : Nat := 250

def tooDeep? (nesting : Nesting) : Option Span := nesting[limit]?

def isTooDeep (nesting : Nesting) : Bool := nesting.tooDeep?.isSome

end Nesting

end Pattern

end ShaderBinding
