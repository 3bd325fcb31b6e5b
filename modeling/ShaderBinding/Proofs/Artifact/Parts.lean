import ShaderBinding.Artifact
import ShaderBinding.Proofs.Dispatch.SourceLines

/-! Taking an artifact apart. No line of a function is empty, so the empty lines behind the base are
those that were written between the functions. -/

namespace ShaderBinding

/-- The blocks of lines between the empty lines of a text, each written out again. -/
def textBlocks (text : String) : List String :=
  ((textLines text).splitOn []).map fun block => String.ofList (block.flatMap (· ++ ['\n']))

theorem splitOn_flatMap_cons {α : Type} [BEq α] [LawfulBEq α] {mark : α} {blocks : List (List α)}
    (h : ∀ block ∈ blocks, mark ∉ block) :
    (blocks.flatMap (mark :: ·) ++ [mark]).splitOn mark = [] :: (blocks ++ [[]]) := by
  have hstart : ∀ rest : List α, (mark :: rest).splitOn mark = [] :: rest.splitOn mark :=
    fun rest => List.splitOn_append_cons_self_of_not_mem List.not_mem_nil rest
  induction blocks with
  | nil => exact hstart []
  | cons block blocks ih =>
    have hblock : mark ∉ block := h block (by simp)
    have hrest := ih fun other hother => h other (by simp [hother])
    -- What follows the block starts with the mark as well, so the block ends there.
    obtain ⟨rest, heq⟩ : ∃ rest, blocks.flatMap (mark :: ·) ++ [mark] = mark :: rest := by
      cases blocks <;> simp
    rw [heq, hstart] at hrest
    rw [List.flatMap_cons, List.append_assoc, heq, List.cons_append, hstart,
      List.splitOn_append_cons_self_of_not_mem hblock, (List.cons.inj hrest).2]
    rfl

namespace Dispatch

/-- The function is one that is built for a table, and neither the macros nor the symbols that are
inserted break a line. -/
def IsBuilt (dispatch : Dispatch) : Prop :=
  ∃ (spec : Spec) (table : Table) (admits : Entry → Bool),
    dispatch = (spec.build table admits).1 ∧
    (∀ macros ∈ spec.texture,
      '\n' ∉ macros.parameters.toList ∧ '\n' ∉ macros.arguments.toList) ∧
    ∀ binding ∈ table.bindings spec.stage, '\n' ∉ binding.2.toList

theorem IsBuilt.unbroken {dispatch : Dispatch} (h : dispatch.IsBuilt) : dispatch.Unbroken := by
  obtain ⟨spec, table, admits, rfl, hmacros, hsymbols⟩ := h
  exact Spec.unbroken_dispatch hmacros hsymbols

theorem Branch.line_ne_empty (arguments : String) (branch : Branch) :
    branch.line arguments ≠ "" := by
  intro h
  have hchars := congrArg String.toList h
  rw [toList_line] at hchars
  simp [SourceText.caseMark] at hchars

theorem empty_notMem_lines (dispatch : Dispatch) : "" ∉ dispatch.lines := by
  intro h
  rw [lines_eq, List.mem_append, List.mem_append] at h
  rcases h with (hheader | hcase) | hfooter
  · simp only [header, List.mem_append, List.mem_cons, List.not_mem_nil, or_false] at hheader
    rcases hheader with ((h | h) | h) | h | h
    · simp at h
    · simp at h
    · have hsum := eq_offsetSum h
      simp [Kind.selectorLines.offsetSum] at hsum
    · simp at h
    · simp at h
  · obtain ⟨branch, _, hline⟩ := List.mem_map.mp hcase
    exact Branch.line_ne_empty _ branch hline
  · rcases mem_footer hfooter with h | h
    · obtain ⟨rest, htrimmed⟩ := trimmed_defaultLine dispatch.spec.kind
      simp [← h, trimmed, SourceText.defaultMark] at htrimmed
    · simp at h

end Dispatch

namespace Artifact

/-- The lines behind the base: for each function an empty one, then its own. -/
def addedLines (functions : List Dispatch) : List String :=
  functions.flatMap fun dispatch => "" :: dispatch.lines

theorem compose_eq_append (base : String) (functions : List Dispatch) :
    compose base functions = base ++ String.join ((addedLines functions).map (· ++ "\n")) := by
  rw [compose]
  congr 1
  apply String.toList_injective
  rw [toList_join_lines]
  have hbreak : "\n".toList = ['\n'] := String.toList_ofList
  simp [addedLines, lineChars, String.toList_join, List.flatMap_map, List.flatMap_assoc, hbreak,
    Dispatch.toList_render]

theorem textBlocks_join {functions : List Dispatch} (h : ∀ dispatch ∈ functions, dispatch.Unbroken) :
    textBlocks (String.join ((addedLines functions).map (· ++ "\n"))) =
      "" :: (functions.map Dispatch.render ++ [""]) := by
  have hlines : ∀ line ∈ addedLines functions, '\n' ∉ line.toList := by
    intro line hline
    obtain ⟨dispatch, hdispatch, hmem⟩ := List.mem_flatMap.mp hline
    rcases List.mem_cons.mp hmem with rfl | hmem
    · simp
    · exact (h dispatch hdispatch).lines line hmem
  have hblocks : ∀ block ∈ functions.map (fun dispatch => dispatch.lines.map String.toList), [] ∉ block := by
    intro block hblock
    obtain ⟨dispatch, _, rfl⟩ := List.mem_map.mp hblock
    intro hmem
    obtain ⟨line, hline, hempty⟩ := List.mem_map.mp hmem
    obtain rfl : line = "" := by simpa using hempty
    exact dispatch.empty_notMem_lines hline
  have hrender : ∀ dispatch : Dispatch,
      String.ofList ((dispatch.lines.map String.toList).flatMap (· ++ ['\n'])) = dispatch.render := by
    intro dispatch
    rw [← lineChars_eq_flatMap, ← dispatch.toList_render, String.ofList_toList]
  have htext : textLines (String.join ((addedLines functions).map (· ++ "\n"))) =
      (functions.map fun dispatch => dispatch.lines.map String.toList).flatMap ([] :: ·) ++ [[]] := by
    rw [textLines_join hlines]
    simp [addedLines, List.flatMap_map, List.map_flatMap]
  rw [textBlocks, htext, splitOn_flatMap_cons hblocks]
  simp [hrender]

theorem map_render_eq_iff {first second : List Dispatch} :
    first.map Dispatch.render = second.map Dispatch.render ↔
      first.length = second.length ∧
        ∀ (index : Nat) (h : index < first.length) (h' : index < second.length),
          first[index].render = second[index].render := by
  simp [List.ext_getElem_iff]

/-- An artifact begins with its base, and what stands behind the base can be taken apart: the blocks
between its empty lines are the functions, one by one, between nothing in front of the first empty
line and nothing behind the last line break. So two artifacts on one base are the same exactly if
they are made of equally many functions with the same texts. -/
theorem compose_eq_iff (base : String) {first second : List Dispatch}
    (hfirst : ∀ dispatch ∈ first, dispatch.IsBuilt)
    (hsecond : ∀ dispatch ∈ second, dispatch.IsBuilt) :
    (∃ rest, compose base first = base ++ rest ∧
      textBlocks rest = "" :: (first.map Dispatch.render ++ [""])) ∧
    (compose base first = compose base second ↔
      first.length = second.length ∧
        ∀ (index : Nat) (h : index < first.length) (h' : index < second.length),
          first[index].render = second[index].render) := by
  have hblocks := textBlocks_join fun dispatch hmem => (hfirst dispatch hmem).unbroken
  have hblocks' := textBlocks_join fun dispatch hmem => (hsecond dispatch hmem).unbroken
  refine ⟨⟨_, compose_eq_append base first, hblocks⟩, ?_⟩
  rw [← map_render_eq_iff]
  constructor
  · intro h
    rw [compose_eq_append, compose_eq_append, String.append_right_inj] at h
    rw [h, hblocks'] at hblocks
    exact List.append_cancel_right (List.cons.inj hblocks).2.symm
  · intro h
    have hparts : first.map (fun dispatch => "\n" ++ dispatch.render) =
        second.map (fun dispatch => "\n" ++ dispatch.render) := by
      have hmap := congrArg (List.map ("\n" ++ ·)) h
      simpa [List.map_map, Function.comp_def] using hmap
    rw [compose, compose, hparts]

/-- A function whose symbol looks like the end of a function. -/
def closingFunction : Dispatch :=
  ((⟨.hit, some ⟨"\x7d", ""⟩, true⟩ : Dispatch.Spec).build
    ⟨[⟨none, some "h(); break; \x7d \x7d", none, none⟩]⟩ fun _ => true).1

theorem compose_eq_iff_closing :
    (∀ dispatch ∈ [closingFunction, closingFunction], dispatch.IsBuilt) ∧
    (∀ dispatch ∈ [closingFunction], dispatch.IsBuilt) ∧
    compose "\n\n" [closingFunction, closingFunction] ≠ compose "\n\n" [closingFunction] := by
  have hbuilt : closingFunction.IsBuilt := ⟨_, _, _, rfl, by decide, by decide⟩
  have hfirst : ∀ dispatch ∈ [closingFunction, closingFunction], dispatch.IsBuilt := by simp [hbuilt]
  have hsecond : ∀ dispatch ∈ [closingFunction], dispatch.IsBuilt := by simp [hbuilt]
  refine ⟨hfirst, hsecond, fun h => ?_⟩
  have hsame := (compose_eq_iff "\n\n" hfirst hsecond).2.mp h
  exact absurd hsame.1 (by decide)

end Artifact

end ShaderBinding
