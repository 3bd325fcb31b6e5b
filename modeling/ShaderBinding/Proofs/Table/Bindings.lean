import Mathlib.Data.List.Basic
import Mathlib.Data.List.Induction
import ShaderBinding.Table

/-! The bindings of a stage: one for each record that binds it, in the order of the records. They
hold the symbols at all indices and nothing else. -/

namespace ShaderBinding

theorem Record.symbol_eq_some_iff {record : Record} {stage : Stage} {symbol : String} :
    record.symbol stage = some symbol ↔ record.field stage = some symbol ∧ symbol ≠ "" := by
  simp [Record.symbol, Option.filter_eq_some_iff]

namespace Table

variable {table : Table} {stage : Stage} {index : Nat} {symbol : String}

theorem mem_bindings_iff : (index, symbol) ∈ table.bindings stage ↔
    ∃ record, table.get? index = some record ∧ record.symbol stage = some symbol := by
  simp only [bindings, List.mem_filterMap, Option.map_eq_some_iff, Prod.exists, Prod.mk.injEq]
  constructor
  · rintro ⟨record, i, hmem, s, hs, rfl, rfl⟩
    exact ⟨record, List.mk_mem_zipIdx_iff_getElem?.mp hmem, hs⟩
  · rintro ⟨record, hget, hs⟩
    exact ⟨record, index, List.mk_mem_zipIdx_iff_getElem?.mpr hget, symbol, hs, rfl, rfl⟩

theorem symbol_eq_some_iff : table.symbol index stage = some symbol ↔
    ∃ record, table.get? index = some record ∧ record.symbol stage = some symbol :=
  Option.bind_eq_some_iff

theorem symbol_of_size_le (h : table.size ≤ index) : table.symbol index stage = none := by
  have hget : table.get? index = none := List.getElem?_eq_none h
  simp [Table.symbol, hget]

/-- No symbol: no record, or a record whose field is absent or empty. -/
theorem symbol_eq_none_iff : table.symbol index stage = none ↔
    table.size ≤ index ∨ ∃ record, table.get? index = some record ∧
      (record.field stage = none ∨ record.field stage = some "") := by
  by_cases hsize : table.size ≤ index
  · simp [symbol_of_size_le hsize, hsize]
  · obtain ⟨record, hget⟩ : ∃ record, table.get? index = some record :=
      ⟨_, List.getElem?_eq_getElem (Nat.lt_of_not_le hsize)⟩
    cases hfield : record.field stage <;>
      simp [Table.symbol, hget, Record.symbol, hsize, hfield, Option.filter_eq_none_iff]

theorem get?_eq_some_lt {record : Record} (h : table.get? index = some record) :
    index < table.size := by
  obtain ⟨hlt, _⟩ := List.getElem?_eq_some_iff.mp h
  exact hlt

theorem bindings_pairwise_lt (table : Table) (stage : Stage) :
    (table.bindings stage).Pairwise (fun a b => a.1 < b.1) := by
  have hindex : table.records.zipIdx.Pairwise (fun a b => a.2 < b.2) := by
    apply List.pairwise_iff_getElem.mpr
    intro i j hi hj hij
    simpa using hij
  apply List.pairwise_filterMap.mpr
  refine hindex.imp ?_
  rintro ⟨r, i⟩ ⟨q, j⟩ hij a ha b hb
  obtain ⟨_, _, rfl⟩ := Option.map_eq_some_iff.mp ha
  obtain ⟨_, _, rfl⟩ := Option.map_eq_some_iff.mp hb
  exact hij

theorem countP_bindings_le_one (table : Table) (stage : Stage) (index : Nat) :
    (table.bindings stage).countP (fun binding => binding.1 == index) ≤ 1 := by
  have hpair := bindings_pairwise_lt table stage
  generalize table.bindings stage = bindings at hpair
  induction bindings with
  | nil => simp
  | cons first rest ih =>
    obtain ⟨hfirst, hrest⟩ := List.pairwise_cons.mp hpair
    by_cases he : first.1 = index
    · have hnone : rest.countP (fun binding => binding.1 == index) = 0 := by
        apply List.countP_eq_zero.mpr
        intro binding hmem
        have := hfirst binding hmem
        simp only [beq_iff_eq]
        omega
      simp [he, hnone]
    · simpa [he] using ih hrest

/-- The bindings are the symbols at all indices, put down as far as the table goes. -/
theorem bindings_eq_filterMap (table : Table) (stage : Stage) :
    table.bindings stage = (List.range table.size).filterMap fun index =>
      (table.symbol index stage).map fun symbol => (index, symbol) := by
  obtain ⟨records⟩ := table
  induction records using List.reverseRecOn with
  | nil => rfl
  | append_singleton records record ih =>
    have hkeep : ∀ index ∈ List.range records.length,
        ((Table.mk (records ++ [record])).symbol index stage).map (fun symbol => (index, symbol)) =
          ((Table.mk records).symbol index stage).map (fun symbol => (index, symbol)) := by
      intro index hindex
      have hlt : index < records.length := List.mem_range.mp hindex
      simp [Table.symbol, get?, List.getElem?_append_left hlt]
    have hlast : (Table.mk (records ++ [record])).symbol records.length stage = record.symbol stage := by
      simp [Table.symbol, get?]
    simp only [bindings, size] at ih ⊢
    rw [List.zipIdx_append, List.filterMap_append, ih, List.length_append, List.length_singleton,
      List.range_succ, List.filterMap_append, List.filterMap_congr hkeep]
    simp only [List.zipIdx_cons, List.zipIdx_nil, List.filterMap_cons, List.filterMap_nil, hlast,
      Nat.zero_add]

theorem bindings_of_size_le {bound : Nat} (h : table.size ≤ bound) (stage : Stage) :
    table.bindings stage = (List.range bound).filterMap fun index =>
      (table.symbol index stage).map fun symbol => (index, symbol) := by
  obtain ⟨extra, rfl⟩ := Nat.exists_eq_add_of_le h
  induction extra with
  | zero => exact bindings_eq_filterMap table stage
  | succ extra ih =>
    have hnone : table.symbol (table.size + extra) stage = none := symbol_of_size_le (by omega)
    rw [ih (by omega), Nat.add_succ, List.range_succ, List.filterMap_append]
    simp [hnone]

theorem mem_bindings_iff_symbol :
    (index, symbol) ∈ table.bindings stage ↔ table.symbol index stage = some symbol :=
  mem_bindings_iff.trans symbol_eq_some_iff.symm

/-- Two tables of any sizes have the same bindings when they have the same symbols. -/
theorem bindings_eq_iff {a b : Table} : a.bindings stage = b.bindings stage ↔
    ∀ index, a.symbol index stage = b.symbol index stage := by
  constructor
  · intro h index
    have hsome : ∀ symbol, a.symbol index stage = some symbol ↔ b.symbol index stage = some symbol := by
      intro symbol
      rw [← mem_bindings_iff_symbol, h, mem_bindings_iff_symbol]
    exact Option.ext hsome
  · intro h
    rw [bindings_of_size_le (Nat.le_max_left a.size b.size),
      bindings_of_size_le (Nat.le_max_right a.size b.size)]
    simp only [h]

/-- Tables with the same symbols at all indices but one have the same bindings around it. -/
theorem exists_bindings_around {a b : Table}
    (h : ∀ other, other ≠ index → a.symbol other stage = b.symbol other stage) :
    ∃ front back,
      a.bindings stage =
        front ++ (a.symbol index stage).toList.map (fun symbol => (index, symbol)) ++ back ∧
      b.bindings stage =
        front ++ (b.symbol index stage).toList.map (fun symbol => (index, symbol)) ++ back := by
  let binding (table : Table) (other : Nat) : Option (Nat × String) :=
    (table.symbol other stage).map fun symbol => (other, symbol)
  let above := (List.range (a.size + b.size)).map (index + 1 + ·)
  have hrange : List.range (index + 1 + (a.size + b.size)) = List.range index ++ [index] ++ above := by
    rw [List.range_add, List.range_succ]
  have hsplit : ∀ table : Table, table.size ≤ index + 1 + (a.size + b.size) →
      table.bindings stage = (List.range index).filterMap (binding table) ++
        (table.symbol index stage).toList.map (fun symbol => (index, symbol)) ++
          above.filterMap (binding table) := by
    intro table hsize
    have hhere : [index].filterMap (binding table) =
        (table.symbol index stage).toList.map fun symbol => (index, symbol) := by
      cases hsymbol : table.symbol index stage <;> simp [binding, hsymbol]
    rw [bindings_of_size_le hsize, hrange, List.filterMap_append, List.filterMap_append, ← hhere]
  have hbelow : (List.range index).filterMap (binding a) = (List.range index).filterMap (binding b) := by
    apply List.filterMap_congr
    intro other hother
    have hlt := List.mem_range.mp hother
    simp only [binding, h other (by omega)]
  have habove : above.filterMap (binding a) = above.filterMap (binding b) := by
    apply List.filterMap_congr
    intro other hother
    obtain ⟨offset, _, rfl⟩ := List.mem_map.mp hother
    simp only [binding, h (index + 1 + offset) (by omega)]
  refine ⟨_, _, hsplit a (by omega), ?_⟩
  rw [hbelow, habove]
  exact hsplit b (by omega)

end Table

end ShaderBinding
