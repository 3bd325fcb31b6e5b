import ShaderBinding.Stage

/-! A record names at most one shader per stage. An absent symbol and the empty symbol are two
different fields, but neither binds its stage. -/

namespace ShaderBinding

structure Record where
  raygen : Option String
  closestHit : Option String
  anyHit : Option String
  miss : Option String
  deriving DecidableEq, Repr

namespace Record

def empty : Record := ⟨none, none, none, none⟩

def field (record : Record) : Stage → Option String
  | .raygen => record.raygen
  | .closestHit => record.closestHit
  | .anyHit => record.anyHit
  | .miss => record.miss

def ofFields (field : Stage → Option String) : Record :=
  ⟨field .raygen, field .closestHit, field .anyHit, field .miss⟩

@[simp] theorem field_ofFields (f : Stage → Option String) (stage : Stage) :
    (ofFields f).field stage = f stage := by
  cases stage <;> rfl

theorem ofFields_field (record : Record) : ofFields record.field = record := rfl

/-- The symbol that a record binds at a stage; the empty text binds nothing. -/
def symbol (record : Record) (stage : Stage) : Option String :=
  (record.field stage).filter (fun text => !text.isEmpty)

/-- One entry of a summary: the ordinal of the stage, its name, and the symbol or a dash. -/
def summaryEntry (record : Record) (ordinal : Nat) (stage : Stage) : String :=
  toString ordinal ++ ". " ++ stage.name ++ ": " ++ (record.symbol stage).getD "-"

/-- The stages of a record on one line, each with its symbol, two blanks between them. -/
def summary (record : Record) : String :=
  "  ".intercalate (Stage.all.mapIdx fun i stage => record.summaryEntry (i + 1) stage)

end Record

end ShaderBinding
