import ShaderBinding.Record

/-! A shader binding table: records whose index is their place in the list. -/

namespace ShaderBinding

structure Table where
  records : List Record
  deriving DecidableEq, Repr

namespace Table

def size (table : Table) : Nat := table.records.length

def isEmpty (table : Table) : Bool := table.records.isEmpty

def get? (table : Table) (index : Nat) : Option Record := table.records[index]?

/-- The symbol bound at a stage by the record with this index, none beyond the table. -/
def symbol (table : Table) (index : Nat) (stage : Stage) : Option String :=
  (table.get? index).bind (fun record => record.symbol stage)

/-- The indices of the records that bind a stage, ascending, each with its symbol. -/
def bindings (table : Table) (stage : Stage) : List (Nat × String) :=
  table.records.zipIdx.filterMap fun (record, index) =>
    (record.symbol stage).map fun symbol => (index, symbol)

end Table

end ShaderBinding
