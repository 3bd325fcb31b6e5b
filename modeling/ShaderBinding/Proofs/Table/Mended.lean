import ShaderBinding.Artifact.Files
import ShaderBinding.Proofs.Json.MendedStrings
import ShaderBinding.Proofs.Table.Deliveries
import ShaderBinding.Proofs.Table.Reading

/-! Tables in streams whose bytes need not be a text. A file with such bytes is refused before it is
read; a stream is read, and a byte that belongs to no character is noticed only in what is kept. -/

namespace ShaderBinding

namespace Reader

open Utf8

theorem mirrored_symbol : Mirrored symbol := by
  refine mirrors_token.bind_byte (refuses_refuseNext _).mirrors fun b b' hb => ?_
  refine mirrors_if_byte hb (by decide) ?_ ?_
  · refine mirrored_eat.bind fun _ => ?_
    exact (mirrored_word (by decide)).bind fun _ => mirrors_pure rfl
  · refine mirrors_if_byte hb (by decide) ?_ (refuses_refuseShape _ _).mirrors
    exact mirrored_eat.bind fun _ => mirrored_string.map some

theorem mirrored_members : Mirrored members := by
  refine Mirrored.loop (fun (first, members) => (mirrored_hasMember first).bind fun more => ?_)
    (true, [])
  split
  · refine mirrored_eat.bind fun _ => mirrored_string.bind fun key => ?_
    split
    · split
      · exact mirrors_pure rfl
      · exact mirrored_colon.bind fun _ => mirrored_symbol.bind fun _ => mirrors_pure rfl
    · exact mirrored_colon.bind fun _ => mirrored_skipValue.bind fun _ => mirrors_pure rfl
  · exact mirrors_pure rfl

theorem mirrored_fields (count : Nat) (stages : List Stage) (read : Members) :
    Mirrored (fields count stages read) := by
  induction stages generalizing count read with
  | nil => exact mirrors_pure rfl
  | cons stage stages ih =>
    refine (mirrored_hasElement _).bind fun more => ?_
    split
    · exact mirrored_symbol.bind fun _ => ih _ _
    · exact mirrors_pure rfl

theorem mirrored_record : Mirrored record := by
  refine mirrors_valueStart.bind fun b b' hb => ?_
  refine mirrors_if_byte hb (by decide) ?_ ?_
  · exact (mirrored_objectEnd.enclosed mirrored_members).map _
  · refine mirrors_if_byte hb (by decide) ?_ (refuses_refuseShape _ _).mirrors
    exact (mirrored_listEnd.enclosed (mirrored_fields _ _ _)).map _

theorem mirrored_records : Mirrored records := by
  refine Mirrored.loop (fun records => (mirrored_hasElement _).bind fun more => ?_) []
  split
  · exact mirrored_record.bind fun _ => mirrors_pure rfl
  · exact mirrors_pure rfl

theorem mirrored_table : Mirrored table := by
  refine mirrors_valueStart.bind fun b b' hb => ?_
  refine mirrors_if_byte hb (by decide) ?_ (refuses_refuseShape _ _).mirrors
  refine (mirrored_listEnd.enclosed (mirrored_records.map _)).bind fun records => ?_
  exact mirrors_token.bind_byte (mirrors_pure rfl) fun _ _ _ => (refuses_refuseNext _).mirrors

end Reader

namespace Table

/-- Bytes that a stream is read from as a table are read alike once they are mended. -/
theorem ofText_mend {stream : Stream} {table : Table} (hfailure : stream.failure = none)
    (h : ofStream stream = .ok table) :
    ofText (String.ofList (Utf8.mend stream.bytes)) = .ok table := by
  have halike := Reader.built_table.uniform (.start stream.bytes)
  rw [ofStream, read, hfailure] at h
  generalize hrun : Reader.table .text (.start stream.bytes) = run,
    Reader.table (.stream none) (.start stream.bytes) = run' at halike h
  cases halike with
  | failed _ _ _ => cases h
  | done result after =>
    obtain rfl := Except.ok.inj h
    have hmended : Utf8.Mended (Cursor.start stream.bytes).ahead
        (Cursor.start (Utf8.encode (Utf8.mend stream.bytes))).ahead :=
      Utf8.mended_mend stream.bytes
    obtain ⟨_, after', hrun', rfl, _⟩ := Reader.mirrored_table _ _ _ _ hmended hrun
    rw [ofText, read, utf8Bytes, String.toList_ofList, hrun']
    rfl

/-- A stream that is read as a table either holds a text, and then a file with the same bytes is
read as that table, or it holds bytes that belong to no character. Then the file is refused, and
the table is the one that is read with a question mark in place of every such byte. -/
theorem ofStream_mended {stream : Stream} {table : Table} {files : FileSystem} {path : String}
    (hfailure : stream.failure = none) (h : ofStream stream = .ok table)
    (hfile : files.read path = .ok stream.bytes) :
    (∃ text, utf8Bytes text = stream.bytes ∧ load files path = .ok table) ∨
      Utf8.text? stream.bytes = none ∧ load files path = .error (.io path .notUtf8) ∧
        ofText (String.ofList (Utf8.mend stream.bytes)) = .ok table := by
  have hmended := ofText_mend hfailure h
  cases htext : Utf8.text? stream.bytes with
  | none =>
    refine .inr ⟨rfl, ?_, hmended⟩
    simp only [load, ofFile, hfile, readText, htext]
    rfl
  | some text =>
    have hbytes := Utf8.text?_eq_some_iff.mp htext
    refine .inl ⟨text, hbytes, ?_⟩
    rw [← hbytes, utf8Bytes, Utf8.mend_encode, String.ofList_toList] at hmended
    simp only [load, ofFile, hfile, readText, htext]
    exact hmended

/-- A record with a member that is passed over, whose value holds a byte that belongs to no
character. -/
def stray : Stream where
  arrivals := [.chunk 0x5B [0x7B, 0x22, 0x78, 0x22, 0x3A, 0x22, 0xFF, 0x22, 0x7D, 0x5D]]
  failure := none

theorem read_stray : ofStream stray = .ok ⟨[⟨none, none, none, none⟩]⟩ := by
  decide +kernel

/-- A stream is read as a table though a file with the same bytes is refused. -/
theorem ofStream_stray : stray.failure = none ∧
    ofStream stray = .ok ⟨[⟨none, none, none, none⟩]⟩ ∧ Utf8.text? stray.bytes = none ∧
      ofFile "table.json" (.ok stray.bytes) = .error (.io "table.json" .notUtf8) := by
  have htext : Utf8.text? stray.bytes = none := by decide +kernel
  refine ⟨rfl, read_stray, htext, ?_⟩
  simp only [ofFile, readText, htext]
  rfl

def strayFiles : FileSystem :=
  FileSystem.scratch.set ["table.json", "scratch"] (some (.file stray.bytes))

theorem ofStream_mended_stray : stray.failure = none ∧
    ofStream stray = .ok ⟨[⟨none, none, none, none⟩]⟩ ∧
    strayFiles.read "table.json" = .ok stray.bytes ∧
    ((∃ text, utf8Bytes text = stray.bytes ∧
        load strayFiles "table.json" = .ok ⟨[⟨none, none, none, none⟩]⟩) ∨
      Utf8.text? stray.bytes = none ∧
        load strayFiles "table.json" = .error (.io "table.json" .notUtf8) ∧
          ofText (String.ofList (Utf8.mend stray.bytes)) = .ok ⟨[⟨none, none, none, none⟩]⟩) := by
  have hfile : strayFiles.read "table.json" = .ok stray.bytes := rfl
  exact ⟨rfl, read_stray, hfile, ofStream_mended rfl read_stray hfile⟩

end Table

end ShaderBinding
