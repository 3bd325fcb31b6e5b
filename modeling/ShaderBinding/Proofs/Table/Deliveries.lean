import ShaderBinding.Proofs.Json.Built
import ShaderBinding.Proofs.Json.Run
import ShaderBinding.Table.Source

/-! A text and a stream with the same bytes. Readers go through both in step: as long as they
succeed they stand at the same place, and they fail for the same cause. -/

namespace ShaderBinding

/-- The same failure, perhaps at another place. Failures of a stream are none of these. -/
inductive Fault.Alike : Fault → Fault → Prop
  | parse (cause : ParseCause) (place place' : Place) :
      Alike (.parse cause place) (.parse cause place')
  | schema (cause : SchemaCause) (place place' : Place) :
      Alike (.schema cause place) (.schema cause place')

theorem Fault.Alike.symm {fault fault' : Fault} (h : fault.Alike fault') : fault'.Alike fault := by
  cases h with
  | parse cause place place' => exact .parse cause place' place
  | schema cause place place' => exact .schema cause place' place

inductive Outcome.Alike {α : Type} : Outcome α → Outcome α → Prop
  | done (value : α) (cursor : Cursor) : Alike (.done value cursor) (.done value cursor)
  | failed {fault fault' : Fault} (cursor cursor' : Cursor) :
      Fault.Alike fault fault' → Alike (.failed fault cursor) (.failed fault' cursor')

namespace Reader

variable {α β σ : Type}

/-- A reader that treats a text and a stream that does not fail alike. -/
def Uniform (reader : Reader α) : Prop :=
  ∀ cursor, (reader .text cursor).Alike (reader (.stream none) cursor)

theorem Uniform.pure (value : α) : Uniform (Pure.pure value : Reader α) :=
  fun cursor => .done value cursor

theorem Uniform.bind {first : Reader α} {next : α → Reader β} (h : Uniform first)
    (h' : ∀ value, Uniform (next value)) : Uniform (first >>= next) := by
  intro cursor
  rw [bind_apply, bind_apply]
  have halike := h cursor
  generalize first .text cursor = run, first (.stream none) cursor = run' at halike
  cases halike with
  | done value after => exact h' value after
  | failed after after' hfault => exact .failed after after' hfault

theorem uniform_look : Uniform look := by
  rintro ⟨behind, ahead, held, left, hleft⟩
  cases ahead with
  | nil => exact .done _ _
  | cons b rest => exact .done _ _

theorem uniform_refuse (cause : ParseCause) : Uniform (refuse cause : Reader α) :=
  fun _ => .failed _ _ (.parse _ _ _)

theorem uniform_mismatch (cause : SchemaCause) : Uniform (mismatch cause : Reader α) :=
  fun _ => .failed _ _ (.schema _ _ _)

theorem Uniform.loop {turn : σ → Reader (Turn σ α)} (h : ∀ state, Uniform (turn state))
    (state : σ) : Uniform (Reader.loop turn state) := by
  intro cursor
  generalize hleft : cursor.left = left
  induction left using Nat.strongRecOn generalizing state cursor with
  | ind left ih =>
    rw [Reader.loop, Reader.loop]
    have halike := h state cursor
    generalize turn state .text cursor = run, turn state (.stream none) cursor = run' at halike
    cases halike with
    | failed after after' hfault => exact .failed after after' hfault
    | done turned after =>
      cases turned with
      | stop value => exact .done value after
      | again state' =>
        dsimp only
        split
        · rename_i hlt
          exact ih after.left (hleft ▸ hlt) state' after rfl
        · exact uniform_refuse _ after

/-- The closing bracket that is looked for after a failure can only move its place. -/
theorem Uniform.enclosed {close : Reader Unit} {body : Reader (Except SchemaCause α)}
    (hclose : Uniform close) (hbody : Uniform body) : Uniform (Reader.enclosed close body) := by
  intro cursor
  simp only [Reader.enclosed]
  have halike := hbody cursor.advance
  generalize body .text cursor.advance = run,
    body (.stream none) cursor.advance = run' at halike
  cases halike with
  | failed after after' hfault => exact .failed _ _ hfault
  | done result after =>
    cases result with
    | error cause => exact .failed _ _ (.schema _ _ _)
    | ok value => exact Uniform.bind hclose (fun _ => .pure value) after

/-- A control character is refused before it in a text and after it in a stream. -/
theorem uniform_plainByte : Uniform plainByte := by
  intro cursor
  simp only [plainByte, bind_apply]
  have halike := uniform_look cursor
  generalize look .text cursor = run, look (.stream none) cursor = run' at halike
  cases halike with
  | failed after after' hfault => exact .failed after after' hfault
  | done next after =>
    cases next with
    | none => exact uniform_refuse _ after
    | some b =>
      cases hcontrol : isControl b with
      | true =>
        simp only [bind_apply, delivery, hcontrol]
        exact .failed _ _ (.parse _ _ _)
      | false =>
        simp only [bind_apply, delivery, hcontrol]
        exact .done _ _

/-- Only the failure of a stream can stop the search for a token. -/
theorem exists_token_done (cursor : Cursor) :
    ∃ next after, token .text cursor = .done next after := by
  rw [cursor.eq_between]
  generalize cursor.behind = behind, cursor.ahead = ahead, cursor.held = held
  induction ahead generalizing behind held with
  | nil => exact ⟨none, .between behind [] held, loop_stop rfl⟩
  | cons b rest ih =>
    cases hblank : isBlank b with
    | false => exact ⟨some b, .between behind (b :: rest) true, token_stop rfl hblank⟩
    | true =>
      obtain ⟨next, after, hdone⟩ := ih (b :: behind) false
      exact ⟨next, after, (token_blank hblank behind rest held).trans hdone⟩

theorem uniform_tokenOrFailure (h : Uniform token) : Uniform tokenOrFailure := by
  intro cursor
  have halike := h cursor
  obtain ⟨next, after, hdone⟩ := exists_token_done cursor
  rw [hdone] at halike
  simp only [tokenOrFailure, hdone]
  generalize token (.stream none) cursor = run at halike
  cases halike
  exact .done next after

theorem uniform_listEnd (h : Uniform token) : Uniform listEnd := by
  have hrefuse : ∀ cause, Uniform (refuseNext cause : Reader Unit) :=
    fun _ _ => .failed _ _ (.parse _ _ _)
  have heat : Uniform eat := fun cursor => .done () cursor.advance
  refine .bind h fun next => ?_
  split
  · exact hrefuse _
  · split
    · exact heat
    · split
      · refine .bind heat fun _ => .bind (uniform_tokenOrFailure h) fun next => ?_
        split
        · split <;> exact hrefuse _
        · exact hrefuse _
      · exact hrefuse _

theorem Built.uniform {shapes : Bool} {reader : Reader α} (h : Built shapes reader) :
    Uniform reader := by
  induction h with
  | pure value => exact .pure value
  | bind _ _ ih ih' => exact .bind ih ih'
  | look => exact uniform_look
  | eat => exact fun cursor => .done () cursor.advance
  | refuse cause => exact uniform_refuse cause
  | refuseNext cause => exact fun _ => .failed _ _ (.parse _ _ _)
  | refuseBack cause bytes => exact fun _ => .failed _ _ (.parse _ _ _)
  | mismatch cause _ => exact uniform_mismatch cause
  | loop state _ _ ih => exact .loop ih state
  | enclosed _ _ _ ih ih' => exact .enclosed ih ih'
  | plainByte => exact uniform_plainByte
  | listEnd _ ih => exact uniform_listEnd ih

end Reader

/-- Errors of the same kind, which says that the text is at fault, and with the same message but for
the place. -/
structure Error.Alike (error error' : Error) : Prop where
  kind : error.kind = error'.kind
  text : error.kind = .parse ∨ error.kind = .schema
  message : ∃ cause place place', error.message = cause ++ Place.text place ∧
    error'.message = cause ++ Place.text place'

theorem Fault.Alike.error {fault fault' : Fault} (h : fault.Alike fault') :
    (Error.table fault).Alike (Error.table fault') := by
  cases h with
  | parse cause place place' =>
    refine ⟨rfl, .inl rfl, "error decoding JSON: " ++ cause.text, place, place', ?_, ?_⟩
    · exact (String.append_assoc ..).symm
    · exact (String.append_assoc ..).symm
  | schema cause place place' =>
    refine ⟨rfl, .inr rfl, "malformed shader binding table: " ++ cause.text, place, place', ?_, ?_⟩
    · exact (String.append_assoc ..).symm
    · exact (String.append_assoc ..).symm

/-- A text and a stream of its bytes, in whatever pieces they arrive, hold the same table, or they
are refused alike. -/
theorem Table.ofStream_ofText {text : String} {stream : Stream}
    (hbytes : stream.bytes = utf8Bytes text) (hfailure : stream.failure = none) :
    (∃ table, Table.ofStream stream = .ok table ∧ Table.ofText text = .ok table) ∨
      ∃ error error', Table.ofStream stream = .error error ∧ Table.ofText text = .error error' ∧
        error.Alike error' := by
  have halike := Reader.built_table.uniform (.start (utf8Bytes text))
  rw [Table.ofStream, Table.ofText, Table.read, Table.read, hbytes, hfailure]
  generalize Reader.table .text (.start (utf8Bytes text)) = run,
    Reader.table (.stream none) (.start (utf8Bytes text)) = run' at halike
  cases halike with
  | done table _ => exact .inl ⟨table, rfl, rfl⟩
  | failed _ _ hfault => exact .inr ⟨_, _, rfl, rfl, hfault.symm.error⟩

/-- A control character in a string that is passed over is refused at two places. -/
example : Table.ofText "[\x7b\"x\":\"\x01\"\x7d]" =
    .error (.table (.parse .controlCharacter ⟨1, 7⟩)) := by
  cbv

example : Table.ofStream
    ⟨[.chunk 0x5B [0x7B, 0x22, 0x78, 0x22, 0x3A, 0x22, 1, 0x22, 0x7D, 0x5D]], none⟩ =
      .error (.table (.parse .controlCharacter ⟨1, 8⟩)) := by
  cbv

/-- The bytes of a text in three pieces, one of which ends inside a character. -/
def pieces : Stream where
  arrivals := [.interruption, .chunk 0x5B [0x7B, 0x22, 0x6D, 0x69, 0x73, 0x73, 0x22, 0x3A],
    .chunk 0x22 [0xC3], .interruption, .interruption, .chunk 0xA9 [0x22, 0x7D, 0x5D]]
  failure := none

theorem Table.ofStream_ofText_pieces :
    pieces.bytes = utf8Bytes "[\x7b\"miss\":\"é\"\x7d]" ∧ pieces.failure = none ∧
      ((∃ table, Table.ofStream pieces = .ok table ∧
          Table.ofText "[\x7b\"miss\":\"é\"\x7d]" = .ok table) ∨
        ∃ error error', Table.ofStream pieces = .error error ∧
          Table.ofText "[\x7b\"miss\":\"é\"\x7d]" = .error error' ∧ error.Alike error') := by
  have hbytes : pieces.bytes = utf8Bytes "[\x7b\"miss\":\"é\"\x7d]" := by decide +kernel
  exact ⟨hbytes, rfl, ofStream_ofText hbytes rfl⟩

end ShaderBinding
