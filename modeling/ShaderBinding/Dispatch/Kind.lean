import ShaderBinding.Stage

/-! The kinds of dispatch. Each reads one stage of the records and has its own way of calling. -/

namespace ShaderBinding

namespace Dispatch

inductive Kind where
  | anyHit
  | hit
  | miss
  deriving DecidableEq, Repr

namespace Kind

def all : List Kind := [anyHit, hit, miss]

def name : Kind → String
  | anyHit => "any-hit"
  | hit => "hit"
  | miss => "miss"

def ofName? (name : String) : Option Kind := all.find? (fun kind => kind.name == name)

def stage : Kind → Stage
  | anyHit => .anyHit
  | hit => .closestHit
  | miss => .miss

def functionName : Kind → String
  | anyHit => "callAnyHit"
  | hit => "callHit"
  | miss => "callMiss"

/-- The parameters of the function, without those of textures. -/
def parameters : Kind → String
  | anyHit =>
    "bool* cont, int sbtRecordOffset, struct Payload* payload, " ++
      "struct HitData* hitData, struct SceneData* sceneData"
  | hit =>
    "int sbtRecordOffset, struct Payload* payload, " ++
      "struct HitData* hitData, struct SceneData* sceneData"
  | miss => "int missIndex, struct Payload* payload, struct SceneData* sceneData"

def arguments : Kind → String
  | anyHit => "cont, payload, hitData, sceneData"
  | hit => "payload, hitData, sceneData"
  | miss => "payload, sceneData"

def selector : Kind → String
  | anyHit => "index"
  | hit => "index"
  | miss => "missIndex"

/-- The lines that compute the selector where no parameter gives it. -/
def selectorLines : Kind → List String
  | anyHit => [offsetSum]
  | hit => [offsetSum]
  | miss => []
where
  offsetSum := "    int index = hitData->instanceSBTOffset + sbtRecordOffset;"

theorem mem_all (kind : Kind) : kind ∈ all := by
  cases kind <;> decide

theorem ofName?_eq_some_iff {name : String} {kind : Kind} :
    ofName? name = some kind ↔ kind.name = name := by
  constructor
  · intro h
    simpa using List.find?_some h
  · rintro rfl
    cases kind <;> rfl

end Kind

end Dispatch

end ShaderBinding
