import ShaderBinding.Pattern.Bracket
import ShaderBinding.Text.Letters

/-! Patterns as wholes: atoms and classes one after the other, with repetitions, alternatives and
groups. -/

namespace ShaderBinding

namespace Pattern

/-- A sign that sets a flag. Greed and the letters of all scripts are flags as well. -/
inductive FlagSign where
  | caseless
  | lines
  | dotAll
  | greed
  | allScripts
  | returns
  | spaced
  deriving DecidableEq, Repr

def FlagSign.ofChar? : Char → Option FlagSign
  | 'i' => some caseless
  | 'm' => some lines
  | 's' => some dotAll
  | 'U' => some greed
  | 'u' => some allScripts
  | 'R' => some returns
  | 'x' => some spaced
  | _ => none

/-- A flag with its sign, or the dash that negates the flags after it, which has none. -/
structure FlagItem where
  sign : Option FlagSign
  span : Span
  deriving DecidableEq, Repr

/-- What some items make of a flag; none if they leave it alone. -/
def stateOf? (sign : FlagSign) (items : List FlagItem) : Option Bool :=
  if items.any (·.sign = some sign) then
    some ((items.takeWhile (·.sign ≠ some sign)).all (·.sign.isSome))
  else none

def Flags.change (flags : Flags) (items : List FlagItem) : Flags where
  caseless := (stateOf? .caseless items).getD flags.caseless
  lines := (stateOf? .lines items).getD flags.lines
  dotAll := (stateOf? .dotAll items).getD flags.dotAll
  returns := (stateOf? .returns items).getD flags.returns
  ascii := ((stateOf? .allScripts items).map (!·)).getD flags.ascii
  swapsGreed := (stateOf? .greed items).getD flags.swapsGreed

/-- A part of a branch: where it begins, how it is nested, and what it matches, which is left open
if it is too deep. A change of flags matches nothing and cannot be repeated. -/
structure Part where
  start : Mark
  nesting : Nesting
  expression : Option Expression
  deriving DecidableEq, Repr

structure Branch where
  start : Mark
  nesting : Nesting
  expression : Expression
  deriving DecidableEq, Repr

/-- What stands around an open group: its bracket, its number if it has one, what was read before it
and the flags to which its end returns. -/
structure Group where
  opening : Span
  number : Option Nat
  start : Mark
  parts : List Part
  branches : List Branch
  flags : Flags
  spaced : Bool
  deriving DecidableEq, Repr

/-- A pattern read so far: the place behind the last bar or open bracket, the parts since then, the
last one first, the branches before that bar, and the open groups. -/
structure Progress where
  start : Mark
  parts : List Part
  branches : List Branch
  groups : List Group
  deriving DecidableEq, Repr

namespace Progress

def initial : Progress := ⟨.start, [], [], []⟩

def add (progress : Progress) (part : Part) : Progress :=
  { progress with parts := part :: progress.parts }

/-- The branch that the parts since the last bar make. Several parts lie together in it. -/
def branch (progress : Progress) (stop : Mark) : Branch :=
  let parts := progress.parts.reverse
  let inner := parts.foldr (fun part inner => part.nesting.beside inner) []
  let nesting : Nesting :=
    if parts.length ≤ 1 then inner else .within ⟨progress.start, stop⟩ inner
  ⟨progress.start, nesting,
    if nesting.isTooDeep then .empty else .ofParts (parts.filterMap (·.expression))⟩

/-- What has been read since the last open bracket. Several branches lie together in it. -/
def whole (progress : Progress) (stop : Mark) : Branch :=
  let last := progress.branch stop
  match progress.branches.reverse with
  | [] => last
  | first :: rest =>
    let branches := first :: rest ++ [last]
    let inner := branches.foldr (fun branch inner => branch.nesting.beside inner) []
    let nesting : Nesting := .within ⟨first.start, stop⟩ inner
    ⟨first.start, nesting,
      if nesting.isTooDeep then .empty else .choice (branches.map (·.expression))⟩

def bar (progress : Progress) (stop start : Mark) : Progress :=
  { progress with
    start := start
    parts := []
    branches := progress.branch stop :: progress.branches }

end Progress

namespace Scan

def flagItems : Scan (List FlagItem) := do
  let items ← loop (fun items : List FlagItem => do
    match ← look with
    | none | some ':' | some ')' => return .stop items.reverse
    | some char =>
      let span ← nextSpan
      let sign := FlagSign.ofChar? char
      if char ≠ '-' && sign.isNone then refuse .unknownFlag span
      if let some before := items.find? (·.sign = sign) then
        throw ⟨if sign.isNone then .repeatedNegation else .repeatedFlag, [span, before.span]⟩
      bump
      if (← look).isNone then refuse .openFlags (← here)
      return .again (⟨sign, span⟩ :: items)) []
  if let some last := items.getLast? then
    if last.sign.isNone then refuse .danglingNegation last.span
  return items

def isNameStart (char : Char) : Bool := char == '_' || isLetter char

def isNamePart (char : Char) : Bool :=
  isNameStart char || isNumeral char || ['.', '[', ']'].contains char

/-- The name of a group up to its closing angle. No two groups have one name. -/
def groupName : Scan Unit := do
  let start ← mark
  let name ← loop (fun name : List Char => do
    match ← look with
    | none => refuse .openName (← here)
    | some '>' => return .stop name.reverse
    | some char =>
      let fits := if name.isEmpty then isNameStart char else isNamePart char
      if !fits then refuse .badName (← nextSpan)
      bump
      return .again (char :: name)) []
  let span ← since start
  bump
  if name.isEmpty then refuse .emptyName ⟨start, start⟩
  if let some before := (← get).names.lookup name then throw ⟨.repeatedName, [span, before]⟩
  modify fun scanner => { scanner with names := (name, span) :: scanner.names }

def acceptLookAround : Scan Bool :=
  accept ['?', '='] <||> accept ['?', '!'] <||> accept ['?', '<', '='] <||>
    accept ['?', '<', '!']

def changeFlags (items : List FlagItem) : Scan Unit :=
  modify fun scanner => { scanner with
    flags := scanner.flags.change items
    spaced := (stateOf? .spaced items).getD scanner.spaced }

def enter (progress : Progress) (opening : Span) (number : Option Nat) (flags : Flags)
    (spaced : Bool) : Scan Progress := do
  let group : Group :=
    ⟨opening, number, progress.start, progress.parts, progress.branches, flags, spaced⟩
  return ⟨← mark, [], [], group :: progress.groups⟩

def enterNumbered (progress : Progress) (opening : Span) : Scan Progress := do
  modify fun scanner => { scanner with groups := scanner.groups + 1 }
  let scanner ← get
  enter progress opening (some scanner.groups) scanner.flags scanner.spaced

/-- The beginning of a group, or a change of flags, which ends where it begins. -/
def groupStart (progress : Progress) : Scan Progress := do
  let start ← mark
  let opening ← nextSpan
  bump
  skipSpace
  if ← acceptLookAround then refuse .lookAround (← since start)
  let inner ← here
  let scanner ← get
  if ← accept ['?', 'P', '<'] <||> accept ['?', '<'] then
    groupName
    enterNumbered progress opening
  else if ← accept ['?'] then
    if (← look).isNone then refuse .openGroup opening
    let items ← flagItems
    let last ← look
    bump
    if last = some ')' then
      if items.isEmpty then refuse .nothingToRepeat inner
      changeFlags items
      return progress.add ⟨start, [], none⟩
    else
      changeFlags items
      enter progress opening none scanner.flags scanner.spaced
  else enterNumbered progress opening

/-- The end of a group. The flags are again those before it. -/
def groupEnd (progress : Progress) : Scan Progress := do
  match progress.groups with
  | [] => refuse .strayGroupEnd (← nextSpan)
  | group :: rest =>
    modify fun scanner => { scanner with flags := group.flags, spaced := group.spaced }
    let content := progress.whole (← mark)
    bump
    let span ← since group.opening.start
    let expression := group.number.elim content.expression (.group · content.expression)
    let part : Part := ⟨span.start, content.nesting.within span, some expression⟩
    return ⟨group.start, part :: group.parts, group.branches, rest⟩

def repeatable (progress : Progress) : Scan (Part × Expression × List Part) := do
  match progress.parts with
  | part :: rest =>
    match part.expression with
    | some expression => return (part, expression, rest)
    | none => refuse .nothingToRepeat (← here)
  | [] => refuse .nothingToRepeat (← here)

/-- A part that is repeated. A question mark behind the repetition changes its greed. -/
def repetition (part : Part) (expression : Expression) (least : Nat) (most : Option Nat) :
    Scan Part := do
  let changed ← accept ['?']
  let greedy := changed == (← flags).swapsGreed
  let nesting := part.nesting.within (← since part.start)
  return ⟨part.start, nesting,
    some (if nesting.isTooDeep then .empty else expression.times least most greedy)⟩

def signedRepetition (progress : Progress) (least : Nat) (most : Option Nat) : Scan Progress := do
  let (part, expression, rest) ← repeatable progress
  bump
  return { progress with parts := (← repetition part expression least most) :: rest }

def greatestCount : Nat := 4294967295

/-- A number with white space around it. A fault in it is told later. -/
def decimal : Scan (Except Fault Nat) := do
  loop (fun _ : Unit => do
    if (← look).any isWhiteSpace then
      bump
      return .again ()
    else return .stop ()) ()
  let start ← mark
  let digits ← run Char.isDigit
  let span ← since start
  let _ ← run isWhiteSpace
  let number := digits.foldl (fun n digit => n * 10 + (digit.toNat - '0'.toNat)) 0
  if digits.isEmpty then return .error ⟨.noCount, [span]⟩
  else if greatestCount < number then return .error ⟨.badNumber, [span]⟩
  else return .ok number

def counts (start : Mark) : Scan (Nat × Option Nat) := do
  let least ← decimal
  match ← look with
  | none => refuse .openCount (← since start)
  | some ',' =>
    pass
    match ← look with
    | none => refuse .openCount (← since start)
    | some '\x7d' => return (← least, none)
    | some _ =>
      let least ← least
      return (least, some (← ← decimal))
  | some _ =>
    let count ← least
    return (count, some count)

def countedRepetition (progress : Progress) : Scan Progress := do
  let start ← mark
  let (part, expression, rest) ← repeatable progress
  pass
  if (← look).isNone then refuse .openCount (← since start)
  let (least, most) ← counts start
  if (← look) ≠ some '\x7d' then refuse .openCount (← since start)
  pass
  let part ← repetition part expression least most
  if most.any (· < least) then refuse .badCount (← since start)
  return { progress with parts := part :: rest }

def bracket (start : Mark) : Scan Part := do
  let (set, nesting) ← Bracket.read
  return ⟨start, nesting, some (.ofSet set (← flags).ascii)⟩

def part (progress : Progress) : Scan (Turn Progress Branch) := do
  skipSpace
  let start ← mark
  match ← look with
  | none =>
    match progress.groups with
    | group :: _ => refuse .openGroup group.opening
    | [] => return .stop (progress.whole start)
  | some '(' => return .again (← groupStart progress)
  | some ')' => return .again (← groupEnd progress)
  | some '|' =>
    bump
    return .again (progress.bar start (← mark))
  | some '[' => return .again (progress.add (← bracket start))
  | some '?' => return .again (← signedRepetition progress 0 (some 1))
  | some '*' => return .again (← signedRepetition progress 0 none)
  | some '+' => return .again (← signedRepetition progress 1 none)
  | some '\x7b' => return .again (← countedRepetition progress)
  | some _ =>
    let expression ← (← atom).expression
    return .again (progress.add ⟨start, [], some expression⟩)

end Scan

/-- The expression that a text spells. Of several reasons against it the form of the text comes
first, then how deep it is, and then what it means. -/
def Expression.ofText (text : List Char) : Except Fault Expression := do
  let (whole, scanner) ← Scan.loop Scan.part .initial (.start text)
  if let some span := whole.nesting.tooDeep? then throw ⟨.tooNested, [span]⟩
  if let some fault := scanner.doubt then throw fault
  return whole.expression

end Pattern

end ShaderBinding
