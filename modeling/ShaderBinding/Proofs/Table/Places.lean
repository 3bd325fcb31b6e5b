import Mathlib.Data.List.DropRight
import ShaderBinding.Proofs.Json.Outcomes
import ShaderBinding.Proofs.Text.Lines
import ShaderBinding.Table.Source

/-! The places that messages name. Main statement: a message about a table ends with the line and the
column of a point in its bytes, which lies on one of their lines. -/

namespace ShaderBinding

/-- The message of an error ends with the place behind the first of some bytes. -/
def Error.Names (error : Error) (place : Place) : Prop :=
  ∃ cause, error.message = cause ++ place.text

theorem Fault.Of.names {shapes : Bool} {delivery : Delivery} {input : List UInt8} {fault : Fault}
    (h : fault.Of shapes delivery input) (hdelivery : ∀ failure, delivery ≠ .stream (some failure)) :
    ∃ place : Place, place.IsIn input ∧ (Error.table fault).Names place := by
  cases h with
  | stream hfailing => exact absurd hfailing (hdelivery _)
  | parse cause hplace =>
    exact ⟨_, hplace, "error decoding JSON: " ++ cause.text, (String.append_assoc ..).symm⟩
  | schema cause _ hplace =>
    exact ⟨_, hplace, "malformed shader binding table: " ++ cause.text, (String.append_assoc ..).symm⟩

namespace Place

/-- The lines of some bytes, the last of which may be empty. -/
def lines (bytes : List UInt8) : List (List UInt8) := bytes.splitOn lineBreak

theorem text_after (before : List UInt8) : (after before.reverse).text =
    " at line " ++ toString (before.count lineBreak + 1) ++
      " column " ++ toString (before.rtakeWhile (· != lineBreak)).length := by
  rw [text, after, List.count_reverse, List.rtakeWhile, List.length_reverse]

/-- Bytes up to a point are on as many lines as there are line breaks, and one more. -/
theorem exists_line (before rest : List UInt8) : ∃ line,
    (lines (before ++ rest))[before.count lineBreak]? = some line ∧
      (before.rtakeWhile (· != lineBreak)).length ≤ line.length := by
  have hline := getElem?_splitOn_count lineBreak before.reverse rest
  rw [List.reverse_reverse, List.count_reverse] at hline
  exact ⟨_, hline, by simp [List.rtakeWhile]⟩

end Place

namespace Table

theorem names_of_refused {delivery : Delivery} {bytes : List UInt8} {error : Error}
    (hdelivery : ∀ failure, delivery ≠ .stream (some failure))
    (h : (read delivery bytes).mapError Error.table = .error error) :
    ∃ place : Place, place.IsIn bytes ∧ error.Names place := by
  have hrun := Reader.built_table.sound delivery (.start bytes)
  cases houtcome : Reader.table delivery (.start bytes) with
  | done table after => simp [read, houtcome, Except.mapError] at h
  | failed fault after =>
    obtain rfl : .table fault = error := by simpa [read, houtcome, Except.mapError] using h
    rw [houtcome] at hrun
    exact hrun.fault_of.names hdelivery

/-- If bytes are refused as a text, or as a stream that does not fail, the message ends with the line
and the column of a point in them: the line breaks before it, and one more; and the bytes since the
last of these breaks. There is such a line, and it is that long. -/
theorem message_places {bytes : List UInt8} {error : Error}
    (h : (∃ text, utf8Bytes text = bytes ∧ ofText text = .error error) ∨
      ∃ stream : Stream, stream.bytes = bytes ∧ stream.failure = none ∧
        ofStream stream = .error error) :
    ∃ cause before after, bytes = before ++ after ∧
      let line := before.count Place.lineBreak + 1
      let column := (before.rtakeWhile (· != Place.lineBreak)).length
      error.message = cause ++ (" at line " ++ toString line ++ " column " ++ toString column) ∧
      1 ≤ line ∧ line ≤ (Place.lines bytes).length ∧
      ∃ content, (Place.lines bytes)[line - 1]? = some content ∧ column ≤ content.length := by
  obtain ⟨place, hplace, cause, hmessage⟩ :
      ∃ place : Place, place.IsIn bytes ∧ error.Names place := by
    rcases h with ⟨text, rfl, hfailed⟩ | ⟨⟨arrivals, failure⟩, rfl, rfl, hfailed⟩
    · exact names_of_refused (by simp) hfailed
    · exact names_of_refused (by simp) hfailed
  obtain ⟨behind, after, rfl, rfl⟩ := hplace
  have htext := Place.text_after behind.reverse
  rw [List.reverse_reverse] at htext
  obtain ⟨content, hcontent, hcolumn⟩ := Place.exists_line behind.reverse after
  have hline := (List.getElem?_eq_some_iff.mp hcontent).1
  exact ⟨cause, behind.reverse, after, rfl, htext ▸ hmessage, Nat.le_add_left 1 _, hline, content,
    hcontent, hcolumn⟩

/-- A stream whose second line holds a string that is no text. -/
def brokenLine : Stream where
  arrivals := [.chunk 0x5B [0x0A, 0x7B, 0x22, 0x6D, 0x69, 0x73, 0x73, 0x22, 0x3A, 0x22],
    .interruption, .chunk 0x61 [0xFF, 0x62, 0x22, 0x7D, 0x5D]]
  failure := none

theorem message_places_brokenLine :
    ofStream brokenLine = .error (.table (.parse .invalidCodePoint ⟨2, 11⟩)) ∧
    ∃ cause before after, brokenLine.bytes = before ++ after ∧
      let line := before.count Place.lineBreak + 1
      let column := (before.rtakeWhile (· != Place.lineBreak)).length
      (Error.table (.parse .invalidCodePoint ⟨2, 11⟩)).message =
        cause ++ (" at line " ++ toString line ++ " column " ++ toString column) ∧
      1 ≤ line ∧ line ≤ (Place.lines brokenLine.bytes).length ∧
      ∃ content, (Place.lines brokenLine.bytes)[line - 1]? = some content ∧
        column ≤ content.length := by
  have hfailed : ofStream brokenLine = .error (.table (.parse .invalidCodePoint ⟨2, 11⟩)) := by
    decide +kernel
  exact ⟨hfailed, message_places (.inr ⟨brokenLine, rfl, rfl, hfailed⟩)⟩

end Table

end ShaderBinding
