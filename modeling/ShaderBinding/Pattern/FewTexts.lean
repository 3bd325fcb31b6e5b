import ShaderBinding.Pattern.Expression
import ShaderBinding.Text.Utf8

/-! Expressions that match a few short texts and nothing else. Such texts can be looked for one by
one, without a machine. -/

namespace ShaderBinding

namespace Pattern

namespace FewTexts

/-- The texts, if there are not too many and none is too long. -/
def limited (texts : List (List Char)) : Option (List (List Char)) :=
  let areShort := texts.all fun text => (Utf8.encode text).length ≤ 100
  if texts.length ≤ 250 && areShort then some texts else none

def crossed (firsts seconds : List (List Char)) : Option (List (List Char)) :=
  limited (firsts.flatMap fun first => seconds.map fun second => first ++ second)

def characters (ranges : List CharRange) : Option (List (List Char)) :=
  let count := ranges.foldl (fun count (first, last) => count + (last.toNat + 1 - first.toNat)) 0
  if 10 < count then none
  else
    some (ranges.flatMap fun (first, last) =>
      (List.range (last.toNat + 1 - first.toNat)).map fun n => [Char.ofNat (first.toNat + n)])

/-- The texts that a repetition matches. What never matches can be repeated at will. -/
def repeated (texts : List (List Char)) (least : Nat) (most : Option Nat) :
    Option (List (List Char)) :=
  if texts.isEmpty then some (if least = 0 then [[]] else [])
  else if least = 0 ∧ most = some 1 then limited (texts ++ [[]])
  else if most = some least ∧ least ≤ 10 then
    least.repeat (fun found => do crossed (← found) texts) (some [[]])
  else none

/-- The texts that an expression matches, if conditions are taken to hold. After a part that never
matches it does not matter what follows. -/
def ofExpression? : Expression → Option (List (List Char))
  | .empty | .condition _ => some [[]]
  | .literal chars => limited [chars]
  | .oneOf ranges _ => characters ranges
  | .sequence first rest => do
    let firsts ← ofExpression? first
    if firsts.isEmpty then return []
    crossed firsts (← ofExpression? rest)
  | .either branch rest => do limited ((← ofExpression? branch) ++ (← ofExpression? rest))
  | .repeated body least most _ => do repeated (← ofExpression? body) least most
  | .group _ body => ofExpression? body

def isPlain : Expression → Bool
  | .condition _ | .group _ _ => false
  | .sequence a b | .either a b => isPlain a && isPlain b
  | .repeated body _ _ _ => isPlain body
  | .empty | .literal _ | .oneOf _ _ => true

/-- The texts that are all that an expression looks for, if there is any and none is empty. -/
def only? (expression : Expression) : Option (List (List Char)) := do
  let texts ← ofExpression? expression
  if isPlain expression && !texts.isEmpty && texts.all (! ·.isEmpty) then some texts else none

example : ofExpression? (.sequence (.literal ['a']) (.oneOf [('b', 'd')] false)) =
    some [['a', 'b'], ['a', 'c'], ['a', 'd']] := by decide +kernel

/-- A branch that never matches adds nothing. -/
example : only? (.either (.repeated .never 1000000 none true) (.literal ['a'])) = some [['a']] := by
  decide +kernel

end FewTexts

end Pattern

end ShaderBinding
