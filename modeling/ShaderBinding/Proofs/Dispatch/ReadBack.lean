import ShaderBinding.Proofs.Dispatch.SourceLines
import ShaderBinding.Proofs.Table.Bindings

/-! What a dispatch function says can be read from its source text alone. -/

namespace ShaderBinding

namespace Dispatch

open SourceText

theorem Spec.build_fst (spec : Spec) (table : Table)
    (admits : Entry → Bool) : (spec.build table admits).1 = spec.dispatch table := rfl

theorem caseLines_render {dispatch : Dispatch} (h : dispatch.Readable) :
    caseLines dispatch.render =
      dispatch.branches.map (fun branch => (branch.line dispatch.spec.arguments).toList) := by
  have hheader : (dispatch.header.map String.toList).filter (starts caseMark) = [] := by
    apply List.filter_eq_nil_iff.mpr
    intro chars hchars
    obtain ⟨line, hline, rfl⟩ := List.mem_map.mp hchars
    rw [starts_header (.inl rfl) dispatch hline]
    exact Bool.false_ne_true
  have hfooter : (dispatch.footer.map String.toList).filter (starts caseMark) = [] := by
    apply List.filter_eq_nil_iff.mpr
    intro chars hchars
    obtain ⟨line, hline, rfl⟩ := List.mem_map.mp hchars
    rw [starts_case_footer hline]
    exact Bool.false_ne_true
  have hcases : ∀ chars ∈ dispatch.branches.map
      (fun branch => (branch.line dispatch.spec.arguments).toList), starts caseMark chars = true := by
    intro chars hchars
    obtain ⟨branch, _, rfl⟩ := List.mem_map.mp hchars
    exact Branch.starts_case _ branch
  rw [caseLines, textLines_render h, List.filter_append, List.filter_append, List.filter_append,
    hheader, hfooter, List.filter_eq_self.mpr hcases]
  simp [starts_nil (.inl rfl)]

/-- Reading the case lines gives the branches back, in their order. -/
theorem cases?_render {dispatch : Dispatch} (h : dispatch.Readable) :
    cases? dispatch.render =
      some (dispatch.branches.map fun branch => (branch.index, branch.symbol)) := by
  rw [cases?, caseLines_render h]
  have hbranches := h.callees
  generalize dispatch.branches = branches at hbranches
  induction branches with
  | nil => rfl
  | cons branch rest ih =>
    have hbranch := Branch.labelled?_line dispatch.spec.arguments (hbranches branch (by simp))
    have hrest := ih (fun other hother => hbranches other (by simp [hother]))
    simp [List.mapM_cons, hbranch, hrest]

/-- The case lines with one label are as many as the branches with that index. -/
theorem countP_hasLabel {dispatch : Dispatch} (h : dispatch.Readable) (label : Nat) :
    (caseLines dispatch.render).countP (hasLabel label) =
      dispatch.branches.countP (fun branch => branch.index == label) := by
  rw [caseLines_render h, List.countP_map]
  apply List.countP_congr
  intro branch hbranch
  simp [hasLabel, Branch.labelled?_line dispatch.spec.arguments (h.callees branch hbranch)]

/-- The lines up to the cases do not start like the line for unbound indices, and those after the
cases do not start like a case. -/
theorem exists_split_textLines {dispatch : Dispatch} (h : dispatch.Readable) :
    ∃ front back, textLines dispatch.render = front ++ back ∧
      (∀ line ∈ front, starts defaultMark line = false) ∧
      (∀ line ∈ back, starts caseMark line = false) ∧
      back.countP (starts defaultMark) = if dispatch.spec.defaultBranch then 1 else 0 := by
  refine ⟨_, _, textLines_render h, ?_, ?_, ?_⟩
  · intro chars hchars
    rcases List.mem_append.mp hchars with hheader | hbranch
    · obtain ⟨line, hline, rfl⟩ := List.mem_map.mp hheader
      exact starts_header (.inr rfl) dispatch hline
    · obtain ⟨branch, _, rfl⟩ := List.mem_map.mp hbranch
      exact Branch.starts_default _ branch
  · intro chars hchars
    rcases List.mem_append.mp hchars with hfooter | hend
    · obtain ⟨line, hline, rfl⟩ := List.mem_map.mp hfooter
      exact starts_case_footer hline
    · rw [List.mem_singleton.mp hend]
      exact starts_nil (.inl rfl)
  · rw [List.countP_append, countP_default_footer]
    simp [starts_nil (.inr rfl)]

theorem countP_default {dispatch : Dispatch} (h : dispatch.Readable) :
    (textLines dispatch.render).countP (starts defaultMark) =
      if dispatch.spec.defaultBranch then 1 else 0 := by
  obtain ⟨front, back, hlines, hfront, _, hback⟩ := exists_split_textLines h
  have hnone : front.countP (starts defaultMark) = 0 := by
    apply List.countP_eq_zero.mpr
    intro line hline
    rw [hfront line hline]
    exact Bool.false_ne_true
  rw [hlines, List.countP_append, hnone, hback, Nat.zero_add]

theorem no_case_after_default {dispatch : Dispatch} (h : dispatch.Readable)
    {before after : List (List Char)} {line : List Char}
    (hlines : textLines dispatch.render = before ++ line :: after)
    (hline : starts defaultMark line = true) : ∀ other ∈ after, starts caseMark other = false := by
  obtain ⟨front, back, hsplit, hfront, hback, _⟩ := exists_split_textLines h
  intro other hother
  apply hback
  rcases List.append_eq_append_iff.mp (hsplit.symm.trans hlines) with
    ⟨middle, _, hmiddle⟩ | ⟨middle, hmiddle, hrest⟩
  · exact hmiddle ▸ List.mem_append_right middle (List.mem_cons_of_mem line hother)
  · cases middle with
    | nil =>
      have : back = line :: after := by simpa using hrest.symm
      exact this ▸ List.mem_cons_of_mem line hother
    | cons first more =>
      have hfirst : line = first := (List.cons.inj hrest).1
      have hmem : line ∈ front := by simp [hmiddle, hfirst]
      exact absurd hline (by simp [hfront line hmem])

theorem Spec.mem_branches_iff {spec : Spec} {table : Table} {branch : Branch} :
    branch ∈ spec.branches table ↔ ∃ record, table.get? branch.index = some record ∧
      record.field spec.stage = some branch.symbol ∧ branch.symbol ≠ "" := by
  simp only [← Record.symbol_eq_some_iff, ← Table.mem_bindings_iff]
  constructor
  · intro hmem
    obtain ⟨binding, hbinding, rfl⟩ := List.mem_map.mp hmem
    exact hbinding
  · exact fun hmem => List.mem_map.mpr ⟨_, hmem, rfl⟩

theorem Spec.readable_dispatch {spec : Spec} {table : Table}
    (hmacros : ∀ macros ∈ spec.texture,
      '\n' ∉ macros.parameters.toList ∧ '\n' ∉ macros.arguments.toList)
    (hsymbols : ∀ binding ∈ table.bindings spec.stage, IsCallee binding.2) :
    (spec.dispatch table).Readable where
  parameters := unbroken_parameters fun macros hmem => (hmacros macros hmem).1
  arguments := unbroken_arguments fun macros hmem => (hmacros macros hmem).2
  callees := by
    intro branch hbranch
    obtain ⟨binding, hbinding, rfl⟩ := List.mem_map.mp hbranch
    exact hsymbols binding hbinding

/-- The source text of a dispatch function names the bindings of its stage and nothing else: each
case line gives an index and the symbol called for it, in the order of the bindings. There is one
such line for an index exactly if its record binds the stage. The line for unbound indices is there
if it was asked for, and it stands after all cases. -/
theorem source_names_bindings {spec : Spec} {table : Table} (admits : Entry → Bool)
    (hmacros : ∀ macros ∈ spec.texture,
      '\n' ∉ macros.parameters.toList ∧ '\n' ∉ macros.arguments.toList)
    (hsymbols : ∀ binding ∈ table.bindings spec.stage, IsCallee binding.2) :
    let text := (spec.build table admits).1.render
    cases? text = some (table.bindings spec.stage) ∧
    (∀ label, (caseLines text).countP (hasLabel label) ≤ 1 ∧
      ((∃ line ∈ caseLines text, hasLabel label line = true) ↔ label < table.size ∧
        ∃ record symbol, table.get? label = some record ∧
          record.field spec.stage = some symbol ∧ symbol ≠ "") ∧
      ∀ line ∈ caseLines text, ∀ symbol, labelled? line = some (label, symbol) →
        ∃ record, table.get? label = some record ∧ record.field spec.stage = some symbol ∧
          symbol ≠ "") ∧
    (textLines text).countP (starts defaultMark) = (if spec.defaultBranch then 1 else 0) ∧
    ∀ before line after, textLines text = before ++ line :: after →
      starts defaultMark line = true → ∀ other ∈ after, starts caseMark other = false := by
  have h : (spec.dispatch table).Readable := Spec.readable_dispatch hmacros hsymbols
  rw [Spec.build_fst]
  refine ⟨?_, ?_, countP_default h, fun before line after => no_case_after_default h⟩
  · rw [cases?_render h]
    simp [Spec.dispatch, Spec.branches, Function.comp_def]
  · intro label
    have hmem : ∀ line ∈ caseLines (spec.dispatch table).render, ∀ symbol,
        labelled? line = some (label, symbol) → ⟨label, symbol⟩ ∈ spec.branches table := by
      intro line hline symbol hlabelled
      rw [caseLines_render h] at hline
      obtain ⟨branch, hbranch, rfl⟩ := List.mem_map.mp hline
      rw [Branch.labelled?_line _ (h.callees branch hbranch)] at hlabelled
      obtain ⟨rfl, rfl⟩ := Prod.mk.inj (Option.some.inj hlabelled)
      exact hbranch
    refine ⟨?_, ⟨?_, ?_⟩, ?_⟩
    · rw [countP_hasLabel h]
      have hcount := Table.countP_bindings_le_one table spec.stage label
      rwa [Spec.dispatch, Spec.branches, List.countP_map]
    · rintro ⟨line, hline, hlabel⟩
      obtain ⟨⟨_, symbol⟩, hlabelled, he⟩ := (Option.any_eq_true ..).mp hlabel
      obtain rfl := beq_iff_eq.mp he
      obtain ⟨record, hget, hfield, hne⟩ :=
        Spec.mem_branches_iff.mp (hmem line hline symbol hlabelled)
      exact ⟨Table.get?_eq_some_lt hget, record, symbol, hget, hfield, hne⟩
    · rintro ⟨_, record, symbol, hget, hfield, hne⟩
      have hbranch : ⟨label, symbol⟩ ∈ (spec.dispatch table).branches :=
        Spec.mem_branches_iff.mpr ⟨record, hget, hfield, hne⟩
      have hlabelled := Branch.labelled?_line spec.arguments (h.callees _ hbranch)
      rw [caseLines_render h]
      exact ⟨_, List.mem_map_of_mem hbranch, by simp [hasLabel, Spec.dispatch, hlabelled]⟩
    · intro line hline symbol hlabelled
      exact Spec.mem_branches_iff.mp (hmem line hline symbol hlabelled)

/-- Macros and symbols that hold marks, colons and blanks. -/
def markedSpec : Spec := ⟨.hit, some ⟨"case 7: x(", "default:"⟩, true⟩

def markedTable : Table :=
  ⟨[⟨none, some "case 1: a ", none, none⟩, ⟨none, none, none, some "m"⟩,
    ⟨none, some "", none, none⟩, ⟨none, some "default: b", none, none⟩]⟩

theorem source_names_bindings_marked :
    (∀ macros ∈ markedSpec.texture,
      '\n' ∉ macros.parameters.toList ∧ '\n' ∉ macros.arguments.toList) ∧
    (∀ binding ∈ markedTable.bindings markedSpec.stage, IsCallee binding.2) ∧
    cases? (markedSpec.build markedTable fun _ => true).1.render =
      some [(0, "case 1: a "), (3, "default: b")] ∧
    (textLines (markedSpec.build markedTable fun _ => true).1.render).countP
      (starts defaultMark) = 1 := by
  have hmacros : ∀ macros ∈ markedSpec.texture,
      '\n' ∉ macros.parameters.toList ∧ '\n' ∉ macros.arguments.toList := by decide
  have hsymbols : ∀ binding ∈ markedTable.bindings markedSpec.stage, IsCallee binding.2 := by
    decide +kernel
  obtain ⟨hcases, _, hdefault, _⟩ := source_names_bindings (fun _ => true) hmacros hsymbols
  exact ⟨hmacros, hsymbols, hcases.trans (by decide +kernel), hdefault⟩

end Dispatch

end ShaderBinding
