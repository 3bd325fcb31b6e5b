import ShaderBinding.Log
import ShaderBinding.Log.Complaint

/-! Which log entries are shown. A filter is written as a list of items with commas between them:
a level for all targets, a target for all its entries, or a level for one target. A pattern may
follow after a slash, which the messages have to match. -/

namespace ShaderBinding

namespace Level

/-- The level with a name, in letters of either case; `off` names no level. -/
def ofName? (name : String) : Option (Option Level) :=
  match name.toLower with
  | "off" => some none
  | "error" => some (some error)
  | "warn" => some (some warn)
  | "info" => some (some info)
  | "debug" => some (some debug)
  | "trace" => some (some trace)
  | _ => none

end Level

namespace Log

/-- The least weighty level shown, none to show nothing: for the targets that start with a text,
or for all targets. -/
structure Directive where
  target : Option (List Char)
  threshold : Option Level
  deriving DecidableEq, Repr

namespace Directive

def matchesTarget (directive : Directive) (target : String) : Bool :=
  directive.target.all (·.isPrefixOf target.toList)

/-- A directive for all targets weighs as much as one for the empty text. -/
def weight (directive : Directive) : Nat := (directive.target.getD []).length

end Directive

/-- Directives of different targets, of which the weightiest that matches decides, and of two the
later; and a pattern that messages have to match, if there is one. -/
structure Filter where
  directives : List Directive
  pattern : Option Pattern.Machine
  deriving DecidableEq, Repr

namespace Filter

def errorsOnly : List Directive := [⟨none, some .error⟩]

def standard : Filter := ⟨[⟨none, some .info⟩], none⟩

def directive (item : List Char) : Except Complaint Directive :=
  match item.splitOn '=' with
  | [target] =>
    match Level.ofName? (String.ofList target) with
    | some threshold => .ok ⟨none, threshold⟩
    | none => .ok ⟨some target, some .trace⟩
  | [target, level] =>
    if (trimmed level).isEmpty then .ok ⟨some target, some .trace⟩
    else
      match Level.ofName? (String.ofList (trimmed level)) with
      | some threshold => .ok ⟨some target, threshold⟩
      | none => .error (.item (trimmed level))
  | _ => .error (.item item)

/-- Adds a directive, in the place of the one with its target if there is one. -/
def insert (directives : List Directive) (directive : Directive) : List Directive :=
  if directives.any (·.target = directive.target) then
    directives.map fun other => if other.target = directive.target then directive else other
  else directives ++ [directive]

/-- The directives of a list of items, and what is wrong with the other items. Without any
directive only errors are shown. -/
def ofItems (text : List Char) : List Directive × List Complaint :=
  let items := ((text.splitOn ',').map trimmed).filter (! ·.isEmpty)
  let read := items.map directive
  let directives := (read.filterMap Except.toOption).foldl insert []
  let complaints := read.filterMap fun
    | .ok _ => none
    | .error complaint => some complaint
  (if directives.isEmpty then errorsOnly else directives, complaints)

def ofText (text : String) : Filter × List Complaint :=
  match text.toList.splitOn '/' with
  | [items] =>
    let (directives, complaints) := ofItems items
    (⟨directives, none⟩, complaints)
  | [items, pattern] =>
    let (directives, complaints) := ofItems items
    match Pattern.Machine.ofText pattern with
    | .ok machine => (⟨directives, some machine⟩, complaints)
    | .error refusal => (⟨directives, none⟩, complaints ++ [.pattern pattern refusal])
  | _ => (⟨errorsOnly, none⟩, [.parts text.toList])

def ofSetting (setting : Option String) : Filter × List Complaint :=
  setting.elim (standard, []) ofText

def deciding? (filter : Filter) (target : String) : Option Directive :=
  filter.directives.foldl
    (fun best directive =>
      if directive.matchesTarget target && best.all (·.weight ≤ directive.weight) then
        some directive
      else best)
    none

def allowsLevel (filter : Filter) (entry : Entry) : Bool :=
  (filter.deciding? entry.target).any fun directive =>
    directive.threshold.any fun threshold => threshold.includes entry.level

def admits (filter : Filter) (entry : Entry) : Bool :=
  filter.allowsLevel entry && filter.pattern.all (·.findsIn entry.message.toList)

end Filter

end Log

end ShaderBinding
