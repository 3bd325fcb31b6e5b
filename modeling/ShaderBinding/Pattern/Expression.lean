import ShaderBinding.Pattern.CharSet

/-! Regular expressions in a plain form, and the operations that keep it: a sequence holds neither
sequences nor empty parts, no two texts stand side by side in it, and a choice holds no choices. -/

namespace ShaderBinding

namespace Pattern

/-- A point in a text, given by the characters beside it. -/
structure Point where
  before : Option Char
  after : Option Char
  deriving DecidableEq, Repr

def isWordChar (char : Char) : Bool := CharSet.wordChars.any (·.contains char)

inductive WordEdge where
  | boundary
  | inner
  | start
  | stop
  | halfStart
  | halfStop
  deriving DecidableEq, Repr

inductive Condition where
  | textStart
  | textStop
  /-- Where lines may also end with a return, a return and a line feed make one end. -/
  | lineStart (returns : Bool)
  | lineStop (returns : Bool)
  /-- Words are made of ASCII letters, digits and low lines, or of letters of any kind. -/
  | word (edge : WordEdge) (ascii : Bool)
  deriving DecidableEq, Repr

namespace Condition

def holds (point : Point) : Condition → Bool
  | textStart => point.before.isNone
  | textStop => point.after.isNone
  | lineStart false => point.before.all (· == '\n')
  | lineStop false => point.after.all (· == '\n')
  | lineStart true =>
    point.before.all (· == '\n') || (point.before == some '\r' && point.after != some '\n')
  | lineStop true =>
    point.after.all (· == '\r') || (point.after == some '\n' && point.before != some '\r')
  | word edge _ =>
    let before := point.before.any isWordChar
    let after := point.after.any isWordChar
    match edge with
    | .boundary => before != after
    | .inner => before == after
    | .start => !before && after
    | .stop => before && !after
    | .halfStart => !before
    | .halfStop => !after

end Condition

inductive Expression where
  | empty
  | literal (chars : List Char)
  /-- A character of some ranges, which may come from a class that knows ASCII only. -/
  | oneOf (ranges : List CharRange) (ascii : Bool)
  | condition (condition : Condition)
  | sequence (first rest : Expression)
  | either (branch rest : Expression)
  /-- A number of times, at most so many if there is a limit. Greed is which number is tried
  first. -/
  | repeated (body : Expression) (least : Nat) (most : Option Nat) (greedy : Bool)
  | group (number : Nat) (body : Expression)
  deriving DecidableEq, Repr

namespace Expression

def never : Expression := oneOf [] true

def isWidthless : Expression → Bool
  | empty | condition _ => true
  | literal _ | oneOf _ _ => false
  | sequence a b | either a b => a.isWidthless && b.isWidthless
  | repeated body _ most _ => most.isSome && body.isWidthless
  | group _ body => body.isWidthless

/-- A number of characters that is always taken; none if nothing matches. -/
def leastWidth? : Expression → Option Nat
  | empty | condition _ => some 0
  | literal chars => some chars.length
  | oneOf ranges _ => if ranges.isEmpty then none else some 1
  | sequence a b => do return (← a.leastWidth?) + (← b.leastWidth?)
  | either a b => do return min (← a.leastWidth?) (← b.leastWidth?)
  | repeated body least _ _ => do return (← body.leastWidth?) * least
  | group _ body => body.leastWidth?

def beginsAtStart : Expression → Bool
  | condition c => c = .textStart
  | sequence a b => a.beginsAtStart || (a.isWidthless && b.beginsAtStart)
  | either a b => a.beginsAtStart && b.beginsAtStart
  | repeated body least _ _ => least != 0 && body.beginsAtStart
  | group _ body => body.beginsAtStart
  | empty | literal _ | oneOf _ _ => false

def endsAtStop : Expression → Bool
  | condition c => c = .textStop
  | sequence a b => b.endsAtStop || (b.isWidthless && a.endsAtStop)
  | either a b => a.endsAtStop && b.endsAtStop
  | repeated body least _ _ => least != 0 && body.endsAtStop
  | group _ body => body.endsAtStop
  | empty | literal _ | oneOf _ _ => false

def needsAllLetters : Expression → Bool
  | condition (.word _ ascii) => !ascii
  | sequence a b | either a b => a.needsAllLetters || b.needsAllLetters
  | repeated body _ _ _ | group _ body => body.needsAllLetters
  | empty | literal _ | oneOf _ _ | condition _ => false

/-- One character of a set. A set of one character is a text. -/
def ofSet (set : CharSet) (ascii : Bool) : Expression :=
  match set.ranges with
  | [] => never
  | [(first, last)] => if first = last then literal [first] else oneOf [(first, last)] ascii
  | ranges => oneOf ranges ascii

def followedBy : Expression → Expression → Expression
  | empty, next => next
  | sequence first rest, next => sequence first (rest.followedBy next)
  | first, empty => first
  | literal a, literal b => literal (a ++ b)
  | literal a, sequence (literal b) rest => sequence (literal (a ++ b)) rest
  | first, next => sequence first next

def ofParts (parts : List Expression) : Expression := parts.foldr followedBy empty

def parts : Expression → List Expression
  | sequence first rest => first :: rest.parts
  | other => [other]

/-- An expression a number of times. How often nothing is taken makes no difference beyond once. -/
def times (body : Expression) (least : Nat) (most : Option Nat) (greedy : Bool) : Expression :=
  let least := if body.isWidthless then min least 1 else least
  let most := if body.isWidthless then some ((most.getD 1).min 1) else most
  if least = 0 ∧ most = some 0 then empty
  else if least = 1 ∧ most = some 1 then body
  else repeated body least most greedy

def branches : Expression → List Expression
  | either branch rest => branch :: rest.branches
  | other => [other]

def ofBranches : List Expression → Expression
  | [] => never
  | [branch] => branch
  | branch :: rest => either branch (ofBranches rest)

/-- The one set that branches make which are all sets, or all texts of one character. -/
def joined? (branches : List Expression) : Option CharSet :=
  let chars? := branches.mapM fun
    | literal [char] => some char
    | _ => none
  let sets? := branches.mapM fun
    | oneOf ranges _ => some ranges
    | _ => none
  (chars?.map .ofChars).or (sets?.map fun sets => .ofRanges sets.flatten)

def common : List Expression → List Expression → List Expression
  | a :: as, b :: bs => if a = b then a :: common as bs else []
  | _, _ => []

/-- The parts with which all branches begin, if each has several parts. -/
def shared (branches : List Expression) : List Expression :=
  let parts := branches.map Expression.parts
  if parts.all (2 ≤ ·.length) then
    match parts with
    | [] => []
    | first :: rest => rest.foldl common first
  else []

/-- A choice in plain form: shared beginnings come once, before a choice of what is left. The bound
is on how often that is done. -/
def choiceWithin : Nat → List Expression → Expression
  | 0, options => ofBranches options
  | bound + 1, options =>
    match options.flatMap branches with
    | [branch] => branch
    | options =>
      match joined? options, shared options with
      | some set, _ => ofSet set false
      | none, [] => ofBranches options
      | none, parts =>
        let rests := options.map fun option => ofParts (option.parts.drop parts.length)
        ofParts (parts ++ [choiceWithin bound rests])

def weight : Expression → Nat
  | empty | literal _ | oneOf _ _ | condition _ => 1
  | sequence a b | either a b => a.weight + b.weight + 1
  | repeated body _ _ _ | group _ body => body.weight + 1

/-- One of some expressions. Each shared beginning makes the expressions lighter, so their weight
bounds how often one can be taken out. -/
def choice (options : List Expression) : Expression :=
  choiceWithin ((options.map weight).foldl (· + ·) 1) options

example : ofParts [literal ['a'], empty, literal ['b'], group 1 empty, literal ['c']] =
    sequence (literal ['a', 'b']) (sequence (group 1 empty) (literal ['c'])) := by decide +kernel

example : choice [literal ['c'], literal ['a'], literal ['b']] = oneOf [('a', 'c')] false := by
  decide +kernel

/-- Whole parts are shared, not the beginnings of texts. -/
example : choice [ofParts [oneOf [('a', 'z')] false, literal ['x', 'y']],
      ofParts [oneOf [('a', 'z')] false, literal ['x', 'z']]] =
    sequence (oneOf [('a', 'z')] false)
      (either (literal ['x', 'y']) (literal ['x', 'z'])) := by decide +kernel

end Expression

end Pattern

end ShaderBinding
