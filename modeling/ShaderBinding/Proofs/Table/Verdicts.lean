import ShaderBinding.Proofs.Table.Refusals
import ShaderBinding.Proofs.Table.Truncation

/-! What texts are found to be: tables, texts that do not parse, or texts with a misfit. -/

namespace ShaderBinding

namespace Table

open Json

/-- Some characters that are refused for the shape of what they spell. -/
def FailsOnShape (chars : List Char) (cause : SchemaCause) : Prop :=
  ∃ place, ofText (String.ofList chars) = .error (.table (.schema cause place))

theorem ofText_eq_run (text : String) : ofText text =
    match Reader.table .text (.start (utf8Bytes text)) with
    | .done table _ => .ok table
    | .failed fault _ => .error (.table fault) := by
  rw [ofText, read]
  cases Reader.table .text (.start (utf8Bytes text)) <;> rfl

theorem failsOnShape_iff {chars : List Char} {cause : SchemaCause} :
    FailsOnShape chars cause ↔ ∃ rest, MisfitTable chars cause rest := by
  have hstart : (Cursor.start (utf8Bytes (String.ofList chars))).ahead = Utf8.encode chars :=
    congrArg Utf8.encode String.toList_ofList
  constructor
  · rintro ⟨place, hfailed⟩
    rw [ofText_eq_run] at hfailed
    cases hrun : Reader.table .text (.start (utf8Bytes (String.ofList chars))) with
    | done table after => simp [hrun] at hfailed
    | failed fault after =>
      rw [hrun] at hfailed
      obtain rfl : fault = .schema cause place := by simpa using hfailed
      exact Reader.blames_table _ cause place after hstart hrun
  · rintro ⟨rest, hmisfit⟩
    obtain ⟨place, after, hrun⟩ := Reader.fails_table hmisfit _ hstart
    exact ⟨place, by rw [ofText_eq_run, hrun]⟩

/-- A text is found to be a table, or not to parse, or to have a misfit. A misfit leaves open what
stands behind it: the text up to there is the beginning of a valid text that is refused for the same
misfit, and so is every text that goes on from there with the same character. -/
theorem ofText_judged (text : String) :
    (∃ table elements, ofText text = .ok table ∧ Json.Text text.toList (.list elements)) ∨
      FailsToParse text ∨
      ∃ cause place front rest, ofText text = .error (.table (.schema cause place)) ∧
        text.toList = front ++ rest ∧
        (∃ more value, Json.Text (front ++ more) value ∧ FailsOnShape (front ++ more) cause) ∧
        ∀ other, other.head? = rest.head? → FailsOnShape (front ++ other) cause := by
  cases hrun : Reader.table .text (.start (utf8Bytes text)) with
  | done table after =>
    have hread : ofText text = .ok table := by rw [ofText_eq_run, hrun]
    obtain ⟨elements, htext, _, _⟩ := spells_of_ofText hread
    exact .inl ⟨table, elements, hread, htext⟩
  | failed fault after =>
    have hread : ofText text = .error (.table fault) := by rw [ofText_eq_run, hrun]
    cases Reader.built_table.faults _ fault after hrun with
    | parse cause place => exact .inr (.inl ⟨_, hread, rfl⟩)
    | schema cause place _ =>
      have hshape : FailsOnShape text.toList cause := by
        rw [FailsOnShape, String.ofList_toList]
        exact ⟨place, hread⟩
      obtain ⟨rest, hmisfit⟩ := failsOnShape_iff.mp hshape
      obtain ⟨front, more, value, hchars, htext, hmore, hother⟩ := hmisfit.exists_text
      refine .inr (.inr ⟨cause, place, front, rest, hread, hchars, ?_, ?_⟩)
      · exact ⟨more, value, htext, failsOnShape_iff.mpr ⟨more, hmore⟩⟩
      · exact fun other hhead => failsOnShape_iff.mpr ⟨other, hother other hhead⟩

/-- No value is spelled by an opening brace alone. -/
theorem not_spells_brace {value : Value} {rest : List Char} :
    ¬ Spells ['{'] (.value value) rest := by
  intro h
  cases h with
  | number _ h =>
    obtain ⟨c, mid, he, hc⟩ := h.exists_first
    obtain ⟨rfl, rfl⟩ := List.cons.inj he
    rcases hc with ⟨hminus, _⟩ | ⟨hdigit, _⟩
    · exact absurd hminus (by decide)
    · exact absurd hdigit (by decide)
  | emptyObject hblanks => cases hblanks
  | object hblanks hmember _ =>
    cases hblanks
    cases hmember

/-- A text that is not valid may have a misfit all the same. -/
theorem ofText_brace : (¬ ∃ value, Json.Text "\x7b".toList value) ∧
    ofText "\x7b" = .error (.table (.schema (.invalidType .map .sequence) ⟨1, 0⟩)) := by
  have hchars : "\x7b".toList = ['{'] := String.toList_ofList
  refine ⟨?_, by decide +kernel⟩
  rintro ⟨value, htext⟩
  rw [hchars] at htext
  obtain ⟨hblanks, h, _⟩ := htext
  cases hblanks with
  | none => exact not_spells_brace h
  | more hc _ => exact absurd hc (by decide)

end Table

end ShaderBinding
