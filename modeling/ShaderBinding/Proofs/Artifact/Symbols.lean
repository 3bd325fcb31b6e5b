import Mathlib.Algebra.Order.BigOperators.Group.List
import Mathlib.Algebra.Order.Group.Nat
import ShaderBinding.Proofs.Artifact.Runs
import ShaderBinding.Proofs.Dispatch.SourceLines
import ShaderBinding.Proofs.Table.Bindings

/-! What the functions for a table depend on: the symbols at the stages that are read, and nothing
else. A change of one such symbol shows in the functions and in the text of the artifact. -/

namespace ShaderBinding

def Record.assign (record : Record) (stage : Stage) (field : Option String) : Record :=
  .ofFields fun other => if other = stage then field else record.field other

/-- The table with another field at a stage of the record with an index, if there is one. -/
def Table.assign (table : Table) (index : Nat) (stage : Stage) (field : Option String) : Table :=
  ⟨table.records.modify index fun record => record.assign stage field⟩

theorem Record.symbol_assign_of_ne (record : Record) {stage other : Stage} (field : Option String)
    (h : other ≠ stage) : (record.assign stage field).symbol other = record.symbol other := by
  simp [Record.symbol, Record.assign, h]

namespace Table

theorem symbol_assign_of_ne (table : Table) {index other : Nat} {stage otherStage : Stage}
    (field : Option String) (h : other ≠ index ∨ otherStage ≠ stage) :
    (table.assign index stage field).symbol other otherStage = table.symbol other otherStage := by
  by_cases hindex : other = index
  · have hstage : otherStage ≠ stage := h.resolve_left fun hne => hne hindex
    have hget : (table.assign index stage field).get? index =
        (table.get? index).map fun record => record.assign stage field := by
      simp [get?, assign]
    rw [hindex, Table.symbol, Table.symbol, hget]
    cases table.get? index with
    | none => rfl
    | some record => exact record.symbol_assign_of_ne field hstage
  · have hget : (table.assign index stage field).get? other = table.get? other := by
      simp [get?, assign, Ne.symm hindex]
    rw [Table.symbol, Table.symbol, hget]

/-- The bindings of a table that goes on are its own, and those of the records added. -/
theorem bindings_append (records more : List Record) (stage : Stage) :
    ∃ extra, (Table.mk (records ++ more)).bindings stage = (Table.mk records).bindings stage ++ extra ∧
      (extra = [] ↔ ∀ record ∈ more, record.symbol stage = none) := by
  refine ⟨(more.zipIdx records.length).filterMap fun placed =>
    (placed.1.symbol stage).map fun symbol => (placed.2, symbol), ?_, ?_⟩
  · simp [bindings, List.zipIdx_append]
  · generalize records.length = start
    induction more generalizing start with
    | nil => simp
    | cons record more ih => cases hsymbol : record.symbol stage <;> simp [hsymbol, ih]

end Table

/-! The stages that are read. -/

namespace Variant

variable {variant : Variant} {stage : Stage}

theorem mem_kinds_iff {kind : Dispatch.Kind} :
    kind ∈ variant.kinds ↔ variant.anyHit = true ∨ kind ≠ .anyHit := by
  simp [kinds, Dispatch.Kind.mem_all]

theorem nodup_kinds (variant : Variant) : variant.kinds.Nodup := by
  have hall : Dispatch.Kind.all.Nodup := by decide
  exact hall.filter _

theorem exists_kind_iff : (∃ kind ∈ variant.kinds, kind.stage = stage) ↔
    ¬ (stage = .raygen ∨ stage = .anyHit ∧ variant.anyHit = false) := by
  simp only [mem_kinds_iff]
  cases stage with
  | raygen =>
    simp only [true_or, not_true_eq_false, iff_false]
    rintro ⟨kind, _, hstage⟩
    cases kind <;> cases hstage
  | closestHit => simpa using ⟨.hit, .inr (by decide), rfl⟩
  | miss => simpa using ⟨.miss, .inr (by decide), rfl⟩
  | anyHit =>
    simp only [reduceCtorEq, true_and, false_or, Bool.not_eq_false]
    constructor
    · rintro ⟨kind, hread, hstage⟩
      obtain rfl : kind = .anyHit := by cases kind <;> first | rfl | cases hstage
      simpa using hread
    · exact fun hread => ⟨.anyHit, .inl hread, rfl⟩

end Variant

theorem Dispatch.Kind.stage_injective {first second : Kind} (h : first.stage = second.stage) :
    first = second := by
  cases first <;> cases second <;> first | rfl | cases h

/-! The text of a function, cut at one of its cases. -/

namespace Dispatch

namespace Spec

variable {spec : Spec} {a b : Table} {index : Nat}

theorem branches_eq_iff : spec.branches a = spec.branches b ↔
    ∀ index, a.symbol index spec.stage = b.symbol index spec.stage := by
  have hbranch : Function.Injective fun binding : Nat × String => Branch.mk binding.1 binding.2 := by
    rintro ⟨index, symbol⟩ ⟨index', symbol'⟩ h
    simpa using h
  rw [← Table.bindings_eq_iff]
  exact hbranch.list_map.eq_iff

theorem dispatch_eq_iff : spec.dispatch a = spec.dispatch b ↔
    ∀ index, a.symbol index spec.stage = b.symbol index spec.stage := by
  simp [dispatch, branches_eq_iff]

/-- The lines of the cases for some bindings. -/
def caseChars (spec : Spec) (bindings : List (Nat × String)) : List Char :=
  lineChars (bindings.map fun (index, symbol) => Branch.line spec.arguments ⟨index, symbol⟩)

theorem caseChars_append (spec : Spec) (first second : List (Nat × String)) :
    spec.caseChars (first ++ second) = spec.caseChars first ++ spec.caseChars second := by
  simp [caseChars, lineChars_append]

theorem caseChars_eq_nil_iff {bindings : List (Nat × String)} :
    spec.caseChars bindings = [] ↔ bindings = [] := by
  simp [caseChars, lineChars_eq_nil_iff]

/-- Around the cases stands the same for every table. -/
theorem exists_toList_render (spec : Spec) : ∃ front back, ∀ table,
    (spec.dispatch table).render.toList =
      front ++ spec.caseChars (table.bindings spec.stage) ++ back := by
  refine ⟨lineChars (header ⟨spec, []⟩), lineChars (footer ⟨spec, []⟩), fun table => ?_⟩
  have hcases : (spec.dispatch table).branches.map (Branch.line spec.arguments) =
      (table.bindings spec.stage).map fun (index, symbol) =>
        Branch.line spec.arguments ⟨index, symbol⟩ := by
    simp [dispatch, branches, Function.comp_def]
  rw [toList_render, lines_eq, lineChars_append, lineChars_append, caseChars, ← hcases]
  rfl

theorem symbol_eq_of_line_eq {arguments first second : String}
    (h : Branch.line arguments ⟨index, first⟩ = Branch.line arguments ⟨index, second⟩) :
    first = second := by
  have hchars := congrArg String.toList h
  rw [Branch.toList_line, Branch.toList_line] at hchars
  simpa [Branch.call, String.toList_inj] using hchars

theorem caseChars_injective {first second : Option String}
    (h : spec.caseChars (first.toList.map fun symbol => (index, symbol)) =
      spec.caseChars (second.toList.map fun symbol => (index, symbol))) : first = second := by
  cases first with
  | none =>
    have hnil := caseChars_eq_nil_iff.mp h.symm
    cases second <;> simp_all
  | some symbol =>
    cases second with
    | none =>
      have hnil := caseChars_eq_nil_iff.mp h
      simp at hnil
    | some symbol' =>
      have hline : (Branch.line spec.arguments ⟨index, symbol⟩).toList ++ ['\n'] =
          (Branch.line spec.arguments ⟨index, symbol'⟩).toList ++ ['\n'] := by
        simpa [caseChars, lineChars] using h
      exact congrArg some (symbol_eq_of_line_eq (String.toList_injective (List.append_cancel_right hline)))

/-- One symbol alone cannot change without changing the text. -/
theorem symbol_eq_of_render_eq (spec : Spec)
    (hsame : ∀ other, other ≠ index → a.symbol other spec.stage = b.symbol other spec.stage)
    (h : (spec.dispatch a).render = (spec.dispatch b).render) :
    a.symbol index spec.stage = b.symbol index spec.stage := by
  obtain ⟨front, back, hrender⟩ := spec.exists_toList_render
  obtain ⟨before, after, ha, hb⟩ := Table.exists_bindings_around hsame
  have hchars := congrArg String.toList h
  rw [hrender, hrender, ha, hb] at hchars
  simp only [caseChars_append] at hchars
  have hcase := List.append_cancel_left (List.append_cancel_right hchars)
  exact caseChars_injective (List.append_cancel_left (List.append_cancel_right hcase))

end Spec

end Dispatch

/-! The functions for a variant, and the artifact. -/

namespace Artifact

variable {variant : Variant} {a b : Table} {index : Nat} {kind : Dispatch.Kind}

theorem dispatches_eq_iff : dispatches a variant = dispatches b variant ↔
    ∀ index, ∀ kind ∈ variant.kinds, a.symbol index kind.stage = b.symbol index kind.stage := by
  rw [dispatches, dispatches, List.map_inj_left]
  constructor
  · exact fun h index kind hkind => Dispatch.Spec.dispatch_eq_iff.mp (h kind hkind) index
  · exact fun h kind hkind => Dispatch.Spec.dispatch_eq_iff.mpr fun index => h index kind hkind

theorem toList_compose (base : String) (table : Table) (variant : Variant) :
    (compose base (dispatches table variant)).toList = base.toList ++
      variant.kinds.flatMap fun kind => '\n' :: ((variant.spec kind).dispatch table).render.toList := by
  have hbreak : "\n".toList = ['\n'] := String.toList_ofList
  simp [compose, dispatches, String.toList_join, List.flatMap_map, hbreak]

theorem eq_of_flatMap_eq {α β : Type} {items : List α} {f g : α → List β} {item : α}
    (hitem : item ∈ items) (hdistinct : items.Nodup)
    (hsame : ∀ other ∈ items, other ≠ item → f other = g other)
    (h : items.flatMap f = items.flatMap g) : f item = g item := by
  obtain ⟨front, back, rfl⟩ := List.append_of_mem hitem
  have hnot : item ∉ front ∧ item ∉ back := by
    simp only [List.nodup_append, List.nodup_cons, List.mem_cons] at hdistinct
    exact ⟨fun hmem => hdistinct.2.2 item hmem item (.inl rfl) rfl, hdistinct.2.1.1⟩
  have hfront : front.flatMap f = front.flatMap g :=
    List.flatMap_congr fun other hother =>
      hsame other (by simp [hother]) fun he => hnot.1 (he ▸ hother)
  have hback : back.flatMap f = back.flatMap g :=
    List.flatMap_congr fun other hother =>
      hsame other (by simp [hother]) fun he => hnot.2 (he ▸ hother)
  rw [List.flatMap_append, List.flatMap_append, List.flatMap_cons, List.flatMap_cons, hfront, hback] at h
  exact List.append_cancel_right (List.append_cancel_left h)

theorem symbol_eq_of_compose_eq {base : String} (hkind : kind ∈ variant.kinds)
    (hsame : ∀ other, ∀ otherKind ∈ variant.kinds, other ≠ index ∨ otherKind ≠ kind →
      a.symbol other otherKind.stage = b.symbol other otherKind.stage)
    (h : compose base (dispatches a variant) = compose base (dispatches b variant)) :
    a.symbol index kind.stage = b.symbol index kind.stage := by
  have hchars := congrArg String.toList h
  rw [toList_compose, toList_compose] at hchars
  have hrender := eq_of_flatMap_eq hkind variant.nodup_kinds (fun other hother hne => by
    have hdispatch : (variant.spec other).dispatch a = (variant.spec other).dispatch b :=
      Dispatch.Spec.dispatch_eq_iff.mpr fun i => hsame i other hother (.inr hne)
    rw [hdispatch]) (List.append_cancel_left hchars)
  have htext := String.toList_injective (List.cons.inj hrender).2
  exact (variant.spec kind).symbol_eq_of_render_eq
    (fun other hother => hsame other kind hkind (.inl hother)) htext

section

variable {stage : Stage} {field : Option String}

/-- A change of a field goes unseen if its stage is not read, or if its symbol stays. -/
theorem dispatches_assign (h : stage = .raygen ∨ stage = .anyHit ∧ variant.anyHit = false ∨
      (a.assign index stage field).symbol index stage = a.symbol index stage) :
    dispatches (a.assign index stage field) variant = dispatches a variant := by
  rw [dispatches_eq_iff]
  intro other kind hkind
  by_cases hplace : other = index ∧ kind.stage = stage
  · obtain ⟨rfl, rfl⟩ := hplace
    have hread := Variant.exists_kind_iff.mp ⟨kind, hkind, rfl⟩
    exact (or_assoc.mpr h).resolve_left hread
  · exact a.symbol_assign_of_ne field (not_and_or.mp hplace)

/-- Any other change of a field shows in the text. -/
theorem unseen_of_compose_assign {base : String}
    (h : compose base (dispatches (a.assign index stage field) variant) =
      compose base (dispatches a variant)) :
    stage = .raygen ∨ stage = .anyHit ∧ variant.anyHit = false ∨
      (a.assign index stage field).symbol index stage = a.symbol index stage := by
  by_cases hread : stage = .raygen ∨ stage = .anyHit ∧ variant.anyHit = false
  · exact or_assoc.mp (.inl hread)
  · obtain ⟨kind, hkind, rfl⟩ := Variant.exists_kind_iff.mpr hread
    have hsame : ∀ other, ∀ otherKind ∈ variant.kinds, other ≠ index ∨ otherKind ≠ kind →
        (a.assign index kind.stage field).symbol other otherKind.stage =
          a.symbol other otherKind.stage := by
      intro other otherKind _ hne
      have hplace : other ≠ index ∨ otherKind.stage ≠ kind.stage :=
        hne.imp_right fun hkinds he => hkinds (Dispatch.Kind.stage_injective he)
      exact a.symbol_assign_of_ne field hplace
    exact .inr (.inr (symbol_eq_of_compose_eq hkind hsame h))

end

/-- Records added at the end show in the text unless they bind nothing that is read. -/
theorem symbol_eq_none_of_compose_append {base : String} {records more : List Record}
    (h : compose base (dispatches ⟨records ++ more⟩ variant) =
      compose base (dispatches ⟨records⟩ variant)) :
    ∀ record ∈ more, ∀ kind ∈ variant.kinds, record.symbol kind.stage = none := by
  have hgrown : ∀ kind, ∃ grown : List Char,
      ((variant.spec kind).dispatch ⟨records ++ more⟩).render.toList.length =
        ((variant.spec kind).dispatch ⟨records⟩).render.toList.length + grown.length ∧
      (grown = [] ↔ ∀ record ∈ more, record.symbol kind.stage = none) := by
    intro kind
    obtain ⟨front, back, hrender⟩ := (variant.spec kind).exists_toList_render
    obtain ⟨extra, hextra, hnil⟩ := Table.bindings_append records more kind.stage
    refine ⟨(variant.spec kind).caseChars extra, ?_, Dispatch.Spec.caseChars_eq_nil_iff.trans hnil⟩
    have hbindings : (Table.mk (records ++ more)).bindings (variant.spec kind).stage =
        (Table.mk records).bindings (variant.spec kind).stage ++ extra := hextra
    rw [hrender, hrender, hbindings, Dispatch.Spec.caseChars_append]
    simp only [List.length_append]
    omega
  choose grown hlength hnil using hgrown
  have hchars := congrArg (fun text => text.toList.length) h
  simp only [toList_compose, List.length_append, List.length_flatMap, List.length_cons, hlength] at hchars
  have hsum : (variant.kinds.map fun kind =>
      ((variant.spec kind).dispatch ⟨records⟩).render.toList.length + (grown kind).length + 1).sum =
        (variant.kinds.map fun kind =>
          ((variant.spec kind).dispatch ⟨records⟩).render.toList.length + 1).sum +
        (variant.kinds.map fun kind => (grown kind).length).sum := by
    rw [← List.sum_map_add]
    congr 1
    apply List.map_congr_left
    intro kind _
    omega
  intro record hrecord kind hkind
  have hle : (grown kind).length ≤ (variant.kinds.map fun kind => (grown kind).length).sum :=
    List.le_sum_of_mem (List.mem_map_of_mem hkind)
  have hzero : (grown kind).length = 0 := by omega
  exact (hnil kind).mp (List.eq_nil_of_length_eq_zero hzero) record hrecord

theorem dispatches_append_iff {records more : List Record} :
    dispatches ⟨records ++ more⟩ variant = dispatches ⟨records⟩ variant ↔
      ∀ record ∈ more, ∀ kind ∈ variant.kinds, record.symbol kind.stage = none := by
  constructor
  · intro h
    exact symbol_eq_none_of_compose_append (congrArg (compose "") h)
  · intro h
    apply List.map_congr_left
    intro kind hkind
    obtain ⟨extra, hextra, hnil⟩ := Table.bindings_append records more kind.stage
    obtain rfl : extra = [] := hnil.mpr fun record hrecord => h record hrecord kind hkind
    rw [Dispatch.Spec.dispatch_eq_iff, ← Table.bindings_eq_iff]
    exact hextra.trans (List.append_nil _)

/-- The functions for two tables are the same exactly if both tables have the same symbols at the
stages that are read. An index beyond the table has no symbol, nor has a field that is absent or
empty. So a change of one field goes unseen exactly if its stage is not read or its symbol stays, and
records added at the end go unseen exactly if they bind no stage that is read; any other change of
these kinds shows in the functions and in every artifact. How many functions there are does not
depend on the table. -/
theorem generate_eq_iff (variant : Variant) (a b : Table) (admits admits' : Entry → Bool) :
    let functions := (generate a variant admits).1
    let others := fun table => (generate table variant admits').1
    (functions = others b ↔
      ∀ index, ∀ kind ∈ variant.kinds, a.symbol index kind.stage = b.symbol index kind.stage) ∧
    (∀ index stage, a.symbol index stage = none ↔
      a.size ≤ index ∨ ∃ record, a.get? index = some record ∧
        (record.field stage = none ∨ record.field stage = some "")) ∧
    (others b).length = functions.length ∧
    (∀ index stage field,
      let changed := a.assign index stage field
      let unseen := stage = .raygen ∨ stage = .anyHit ∧ variant.anyHit = false ∨
        changed.symbol index stage = a.symbol index stage
      (others changed = functions ↔ unseen) ∧
      ∀ base, compose base (others changed) = compose base functions ↔ unseen) ∧
    ∀ more,
      let unseen := ∀ record ∈ more, ∀ kind ∈ variant.kinds, record.symbol kind.stage = none
      (others ⟨a.records ++ more⟩ = functions ↔ unseen) ∧
      ∀ base, compose base (others ⟨a.records ++ more⟩) = compose base functions ↔ unseen := by
  simp only [generate_fst]
  refine ⟨dispatches_eq_iff, fun index stage => Table.symbol_eq_none_iff, ?_, ?_, ?_⟩
  · simp [dispatches]
  · intro index stage field
    constructor
    · exact ⟨fun h => unseen_of_compose_assign (congrArg (compose "") h), dispatches_assign⟩
    · exact fun base => ⟨unseen_of_compose_assign, fun h => congrArg (compose base) (dispatches_assign h)⟩
  · intro more
    exact ⟨dispatches_append_iff, fun base =>
      ⟨symbol_eq_none_of_compose_append, fun h => congrArg (compose base) (dispatches_append_iff.mpr h)⟩⟩

end Artifact

end ShaderBinding
