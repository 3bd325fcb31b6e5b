import ShaderBinding.Proofs.Artifact.Runs
import ShaderBinding.Proofs.Dispatch.ReadBack

/-! The branches of a dispatch function: one for each record whose field is a symbol, under the index
that the record has in the table. -/

namespace ShaderBinding

/-- The field of a record that names what a kind of dispatch calls. -/
def Record.callee (record : Record) : Dispatch.Kind → Option String
  | .anyHit => record.anyHit
  | .hit => record.closestHit
  | .miss => record.miss

/-- Whether that field is a text, and not the empty one. -/
def Record.hasCallee (record : Record) (kind : Dispatch.Kind) : Bool :=
  (record.callee kind).any (· != "")

theorem Record.field_stage (record : Record) (kind : Dispatch.Kind) :
    record.field kind.stage = record.callee kind := by
  cases kind <;> rfl

theorem Record.isSome_symbol_stage (record : Record) (kind : Dispatch.Kind) :
    (record.symbol kind.stage).isSome = record.hasCallee kind := by
  rw [Record.symbol, Record.field_stage, Record.hasCallee]
  cases record.callee kind with
  | none => rfl
  | some text => by_cases htext : text = "" <;> simp [Option.filter, htext]

theorem Table.length_bindings (table : Table) (stage : Stage) :
    (table.bindings stage).length =
      table.records.countP (fun record => (record.symbol stage).isSome) := by
  have hrecords : table.records = table.records.zipIdx.map Prod.fst := by simp
  rw [bindings, List.length_filterMap_eq_countP]
  conv_rhs => rw [hrecords, List.countP_map]
  exact List.countP_congr fun placed _ => by simp

theorem Variant.kinds_eq (variant : Variant) : variant.kinds =
    if variant.anyHit then [.anyHit, .hit, .miss] else [.hit, .miss] := by
  cases hany : variant.anyHit <;> simp [kinds, hany, Dispatch.Kind.all]

namespace Dispatch

namespace Spec

theorem branches_pairwise_lt (spec : Spec) (table : Table) :
    (spec.branches table).Pairwise (fun a b => a.index < b.index) :=
  List.pairwise_map.mpr (table.bindings_pairwise_lt spec.stage)

theorem length_branches (spec : Spec) (table : Table) :
    (spec.branches table).length =
      table.records.countP (fun record => record.hasCallee spec.kind) := by
  rw [branches, List.length_map, table.length_bindings]
  simp only [stage, Record.isSome_symbol_stage]

theorem countP_branches_le_one (spec : Spec) (table : Table) (index : Nat) :
    (spec.branches table).countP (fun branch => branch.index == index) ≤ 1 := by
  rw [branches, List.countP_map]
  exact table.countP_bindings_le_one spec.stage index

end Spec

/-- For a table, a variant has one function for each of its kinds, any-hit before hit before miss. A
function has its branches in ascending order of their indices. They are the indices of the records
whose field for the kind of the function is a text, the empty one apart, each with that text; so
there are as many branches as there are such records, and no record has two. -/
theorem branches_of_records (table : Table) (admits : Entry → Bool) :
    (∀ variant : Variant, (Artifact.generate table variant admits).1 =
      (if variant.anyHit then [Kind.anyHit, .hit, .miss] else [.hit, .miss]).map fun kind =>
        ((variant.spec kind).build table admits).1) ∧
    ∀ spec : Spec,
      let function := (spec.build table admits).1
      function.spec = spec ∧
      function.branches.Pairwise (fun a b => a.index < b.index) ∧
      (∀ branch ∈ function.branches, branch.index < table.size) ∧
      (∀ index symbol, ⟨index, symbol⟩ ∈ function.branches ↔ symbol ≠ "" ∧
        ∃ record, table.get? index = some record ∧ record.callee spec.kind = some symbol) ∧
      function.branches.length =
        table.records.countP (fun record => record.hasCallee spec.kind) ∧
      ∀ index, function.branches.countP (fun branch => branch.index == index) ≤ 1 := by
  constructor
  · intro variant
    rw [Artifact.generate_fst, Artifact.dispatches, variant.kinds_eq]
    rfl
  · intro spec
    rw [Spec.build_fst]
    refine ⟨rfl, spec.branches_pairwise_lt table, ?_, ?_, spec.length_branches table,
      spec.countP_branches_le_one table⟩
    · intro branch hbranch
      obtain ⟨record, hget, _⟩ := Spec.mem_branches_iff.mp hbranch
      exact Table.get?_eq_some_lt hget
    · intro index symbol
      constructor
      · intro hbranch
        obtain ⟨record, hget, hfield, hne⟩ := Spec.mem_branches_iff.mp hbranch
        exact ⟨hne, record, hget, (record.field_stage spec.kind).symm.trans hfield⟩
      · rintro ⟨hne, record, hget, hcallee⟩
        have hfield := (record.field_stage spec.kind).trans hcallee
        exact Spec.mem_branches_iff.mpr ⟨record, hget, hfield, hne⟩

example : ((⟨.miss, none, true⟩ : Spec).build ⟨[⟨none, some "h", none, some "a"⟩, .empty,
    ⟨none, some "h", none, some ""⟩, ⟨none, none, none, some "b"⟩]⟩ fun _ => true).1.branches =
    [⟨0, "a"⟩, ⟨3, "b"⟩] := by
  decide

end Dispatch

end ShaderBinding
