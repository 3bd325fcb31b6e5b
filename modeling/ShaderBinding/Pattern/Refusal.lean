import ShaderBinding.Pattern.FewTexts
import ShaderBinding.Pattern.Machine
import ShaderBinding.Pattern.Reader
import ShaderBinding.Pattern.Size

/-! From the text of a pattern to the machine that searches for it, or to the reason why there is
none. -/

namespace ShaderBinding

namespace Pattern

inductive Refusal where
  | faulty (fault : Fault)
  /-- It asks for the edges of words of all scripts. -/
  | wordsOfAllScripts
  | tooLarge
  deriving DecidableEq, Repr

def Refusal.lines (text : List Char) : Refusal → List String
  | faulty fault => fault.report text
  | wordsOfAllScripts => ["error building NFA"]
  | tooLarge => ["Compiled regex exceeds size limit of " ++ toString Size.limit ++ " bytes."]

/-- The machine of an expression. One that needs the letters of all scripts is refused when the
size of the machine that reads forward has been seen to be in order. -/
def Machine.ofExpression? (expression : Expression) : Except Refusal Machine := do
  if let some texts := FewTexts.only? expression then
    return .ofExpression (.ofBranches (texts.map .literal))
  if Size.limit < Size.bytes .forward expression then throw .tooLarge
  if expression.needsAllLetters then throw .wordsOfAllScripts
  if Size.limit < Size.bytes .backward expression then throw .tooLarge
  return .ofExpression expression

def Machine.ofText (text : List Char) : Except Refusal Machine := do
  Machine.ofExpression? (← (Expression.ofText text).mapError .faulty)

/-- A fault in the form counts before a doubt about the meaning. -/
example :
    (match Machine.ofText ['\\', 'd', '('] with
      | .ok _ => []
      | .error refusal => refusal.lines ['\\', 'd', '(']) =
    ["regex parse error:", "    \\d(", "      ^", "error: unclosed group"] := by decide +kernel

end Pattern

end ShaderBinding
