/-! The four stages of the ray pipeline that a record of a shader binding table can bind. -/

namespace ShaderBinding

inductive Stage where
  | raygen
  | closestHit
  | anyHit
  | miss
  deriving DecidableEq, Repr

namespace Stage

/-- The name of a stage, which is also its key in a written record. -/
def name : Stage → String
  | raygen => "raygen"
  | closestHit => "closestHit"
  | anyHit => "anyHit"
  | miss => "miss"

/-- All stages in the order in which a record lists them. -/
def all : List Stage := [raygen, closestHit, anyHit, miss]

def ofName? (key : String) : Option Stage :=
  all.find? (fun stage => stage.name == key)

theorem mem_all (stage : Stage) : stage ∈ all := by
  cases stage <;> decide

theorem ofName?_eq_some_iff {key : String} {stage : Stage} :
    ofName? key = some stage ↔ stage.name = key := by
  constructor
  · intro h
    simpa using List.find?_some h
  · rintro rfl
    cases stage <;> rfl

theorem name_injective {a b : Stage} (h : a.name = b.name) : a = b :=
  Option.some.inj ((ofName?_eq_some_iff.mpr h).symm.trans (ofName?_eq_some_iff.mpr rfl))

end Stage

end ShaderBinding
