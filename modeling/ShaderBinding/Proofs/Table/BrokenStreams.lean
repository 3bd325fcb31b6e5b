import Mathlib.Control.Monad.Basic
import ShaderBinding.Proofs.Json.Continuation
import ShaderBinding.Proofs.Table.Deliveries

/-! A stream that fails, beside a stream that delivers the same bytes and goes on. What a reader says
about the first it says about the second as well, unless it reports the failure. There is one
exception: behind a comma that stands in the place of a closing bracket the failure is not noticed. -/

namespace ShaderBinding

/-- Some bytes of which the last, blanks apart, is a comma. -/
def EndsInComma (bytes : List UInt8) : Prop :=
  ∃ front blanks, bytes = front ++ byte ',' :: blanks ∧ ∀ b ∈ blanks, isBlank b = true

/-- The outcome over a stream that fails, whose bytes are `input`, beside the outcome over a stream
that goes on with `more`. -/
inductive Outcome.Foretells {α : Type} (input more : List UInt8) (fault : IoFault) :
    Outcome α → Outcome α → Prop
  | done (value : α) {after after' : Cursor} :
      after.input = input → Cursor.Beside more after after' →
      Foretells input more fault (.done value after) (.done value after')
  | broken (after : Cursor) (outcome : Outcome α) :
      Foretells input more fault (.failed (.stream fault) after) outcome
  | failed {verdict verdict' : Fault} (after after' : Cursor) : verdict.Alike verdict' →
      Foretells input more fault (.failed verdict after) (.failed verdict' after')
  | unnoticed (place place' : Place) (after after' : Cursor) : EndsInComma input →
      Foretells input more fault (.failed (.parse .trailingCharacters place) after)
        (.failed (.parse .trailingComma place') after')

namespace Reader

variable {α β σ : Type}

/-- A reader whose verdict on a stream that fails holds for every stream that goes on, whenever it
is not the failure itself. -/
def Steady (reader : Reader α) : Prop :=
  ∀ (more : List UInt8) (fault : IoFault) (cursor other : Cursor), cursor.Beside more other →
    (reader (.stream (some fault)) cursor).Foretells cursor.input more fault
      (reader (.stream none) other)

theorem Steady.pure (value : α) : Steady (Pure.pure value : Reader α) :=
  fun _ _ _ _ hbeside => .done value rfl hbeside

theorem Steady.bind {first : Reader α} {next : α → Reader β} (h : Steady first)
    (h' : ∀ value, Steady (next value)) : Steady (first >>= next) := by
  intro more fault cursor other hbeside
  rw [bind_apply, bind_apply]
  have hfirst := h more fault cursor other hbeside
  generalize first (.stream (some fault)) cursor = run, first (.stream none) other = run' at hfirst
  cases hfirst with
  | @done value after after' hinput hafter =>
    have hnext := h' value more fault after after' hafter
    rwa [hinput] at hnext
  | broken after outcome => exact .broken after _
  | failed after after' halike => exact .failed after after' halike
  | unnoticed place place' after after' hcomma => exact .unnoticed place place' after after' hcomma

theorem steady_look : Steady look := by
  intro more fault cursor other hbeside
  cases hahead : cursor.ahead with
  | nil =>
    have hbroken : look (.stream (some fault)) cursor = .failed (.stream fault) cursor := by
      simp only [look, hahead]
    rw [hbroken]
    exact .broken _ _
  | cons b rest =>
    obtain rfl := hbeside.eq_extend (by rw [hahead]; exact List.cons_ne_nil b rest)
    have hlook : look (.stream (some fault)) cursor = .done (some b) { cursor with held := true } := by
      simp only [look, hahead]
    have hlook' : look (.stream none) (cursor.extend more) =
        .done (some b) { cursor.extend more with held := true } := by
      simp only [look, Cursor.extend, Cursor.between, hahead, List.cons_append]
    rw [hlook, hlook']
    exact .done (some b) rfl (.level { cursor with held := true })

theorem steady_eat : Steady eat :=
  fun _ _ cursor _ hbeside => .done () cursor.input_advance hbeside.advance

theorem steady_refuse (cause : ParseCause) : Steady (refuse cause : Reader α) :=
  fun _ _ _ _ _ => .failed _ _ (.parse _ _ _)

theorem steady_refuseNext (cause : ParseCause) : Steady (refuseNext cause : Reader α) :=
  fun _ _ _ _ _ => .failed _ _ (.parse _ _ _)

theorem steady_mismatch (cause : SchemaCause) : Steady (mismatch cause : Reader α) :=
  fun _ _ _ _ _ => .failed _ _ (.schema _ _ _)

theorem Steady.loop {turn : σ → Reader (Turn σ α)} (h : ∀ state, Steady (turn state))
    (hwaits : ∀ state, Waits (turn state)) (state : σ) : Steady (Reader.loop turn state) := by
  intro more fault cursor other hbeside
  generalize hleft : cursor.left = left
  induction left using Nat.strongRecOn generalizing state cursor other with
  | ind left ih =>
    rw [Reader.loop, Reader.loop]
    have hturn := h state more fault cursor other hbeside
    have hwait := hwaits state fault cursor
    generalize turn state (.stream (some fault)) cursor = run,
      turn state (.stream none) other = run' at hturn hwait
    cases hturn with
    | broken after outcome => exact .broken after _
    | failed after after' halike => exact .failed after after' halike
    | unnoticed place place' after after' hcomma => exact .unnoticed place place' after after' hcomma
    | @done turned after after' hinput hafter =>
      cases turned with
      | stop value => exact .done value hinput hafter
      | again state' =>
        -- No turn follows one at the end of a stream that fails, so both runs have consumed alike.
        have hahead : cursor.ahead ≠ [] := fun hend => hwait hend state' after rfl
        obtain rfl := hbeside.eq_extend hahead
        have hextend := cursor.left_extend more
        dsimp only
        by_cases hlt : after.left < cursor.left
        · have hle := hafter.left_le
          rw [if_pos hlt, if_pos (by omega), ← hinput]
          exact ih after.left (hleft ▸ hlt) state' after after' hafter rfl
        · have hstay : after.ahead ≠ [] := by
            rw [ne_eq, ← Cursor.left_eq_zero_iff] at hahead ⊢
            omega
          obtain rfl := hafter.eq_extend hstay
          have hextend' := after.left_extend more
          rw [if_neg hlt, if_neg (by omega), ← hinput]
          exact steady_refuse _ more fault after _ hafter

theorem Steady.enclosed {close : Reader Unit} {body : Reader (Except SchemaCause α)}
    (hclose : Steady close) (hbody : Steady body) : Steady (Reader.enclosed close body) := by
  intro more fault cursor other hbeside
  simp only [Reader.enclosed]
  have hrun := hbody more fault cursor.advance other.advance hbeside.advance
  rw [Cursor.input_advance] at hrun
  generalize body (.stream (some fault)) cursor.advance = run,
    body (.stream none) other.advance = run' at hrun
  cases hrun with
  -- What happens at the closing bracket does not replace an earlier failure.
  | broken after outcome => exact .broken _ _
  | failed after after' halike => exact .failed _ _ halike
  | unnoticed place place' after after' hcomma => exact .unnoticed place place' _ _ hcomma
  | @done result after after' hinput hafter =>
    cases result with
    | error cause => exact .failed _ _ (.schema _ _ _)
    | ok value =>
      have hclosed := Steady.bind hclose (fun _ => .pure value) more fault after after' hafter
      rwa [hinput] at hclosed

theorem steady_plainByte : Steady plainByte := by
  refine Steady.bind steady_look fun next => ?_
  cases next with
  | none => exact steady_refuse _
  | some b =>
    intro more fault cursor other hbeside
    cases hcontrol : isControl b with
    | true =>
      simp only [bind_apply, delivery, hcontrol]
      exact .failed _ _ (.parse _ _ _)
    | false =>
      simp only [bind_apply, delivery, hcontrol]
      exact .done _ cursor.input_advance hbeside.advance

/-! The search for a token, which stops only at the end of what the stream delivers. -/

theorem token_broken (fault : IoFault) (cursor : Cursor) :
    (∃ b after, token (.stream (some fault)) cursor = .done (some b) after ∧
      ∃ rest, after.ahead = b :: rest) ∨
    (∃ after, token (.stream (some fault)) cursor = .failed (.stream fault) after ∧
      ∀ b ∈ cursor.ahead, isBlank b = true) := by
  rw [cursor.eq_between]
  generalize cursor.behind = behind, cursor.ahead = ahead, cursor.held = held
  induction ahead generalizing behind held with
  | nil =>
    obtain ⟨after, hfailed⟩ := asks_token fault (.between behind [] held) rfl
    exact .inr ⟨after, hfailed, by simp [Cursor.between]⟩
  | cons b rest ih =>
    cases hblank : isBlank b with
    | false =>
      exact .inl ⟨b, .between behind (b :: rest) true, token_stop rfl hblank, rest, rfl⟩
    | true =>
      rw [token_blank hblank]
      rcases ih (b :: behind) false with hdone | ⟨after, hfailed, hblanks⟩
      · exact .inl hdone
      · refine .inr ⟨after, hfailed, ?_⟩
        intro d hd
        rcases List.mem_cons.mp hd with rfl | hd
        · exact hblank
        · exact hblanks d hd

/-- What is said of a list that has a comma in the place of its closing bracket. -/
def overlong : Reader Unit := do
  match ← tokenOrFailure with
  | some b => if b = byte ']' then refuseNext .trailingComma else refuseNext .trailingCharacters
  | none => refuseNext .trailingCharacters

theorem overlong_failed (delivery : Delivery) (cursor : Cursor) : ∃ cause place after,
    overlong delivery cursor = .failed (.parse cause place) after ∧
      (cause = .trailingComma ∨ cause = .trailingCharacters) := by
  simp only [overlong, bind_apply, tokenOrFailure]
  cases token delivery cursor with
  | failed fault after => exact ⟨_, _, _, rfl, .inr rfl⟩
  | done next after =>
    cases next with
    | none => exact ⟨_, _, _, rfl, .inr rfl⟩
    | some b =>
      dsimp only
      split
      · exact ⟨_, _, _, rfl, .inl rfl⟩
      · exact ⟨_, _, _, rfl, .inr rfl⟩

variable {more : List UInt8} {fault : IoFault} {cursor other : Cursor}

theorem endsInComma_input {behind : List UInt8} (hbehind : cursor.behind = byte ',' :: behind)
    (hblanks : ∀ b ∈ cursor.ahead, isBlank b = true) : EndsInComma cursor.input := by
  refine ⟨behind.reverse, cursor.ahead, ?_, hblanks⟩
  rw [Cursor.input, hbehind, List.reverse_cons, List.append_assoc]
  rfl

/-- The failure behind the comma is taken for a character that does not belong there. -/
theorem foretells_overlong (h : Steady token) (hbeside : cursor.Beside more other)
    {behind : List UInt8} (hbehind : cursor.behind = byte ',' :: behind) :
    (overlong (.stream (some fault)) cursor).Foretells cursor.input more fault
      (overlong (.stream none) other) := by
  have hrun := h more fault cursor other hbeside
  rcases token_broken fault cursor with ⟨b, after, hdone, _⟩ | ⟨after, hfailed, hblanks⟩
  · rw [hdone] at hrun
    generalize hother : token (.stream none) other = run at hrun
    cases hrun with
    | @done _ _ after' hinput hafter =>
      simp only [overlong, bind_apply, tokenOrFailure, hdone, hother]
      rw [← hinput]
      split
      · exact steady_refuseNext _ more fault after after' hafter
      · exact steady_refuseNext _ more fault after after' hafter
  · have hcharacters : overlong (.stream (some fault)) cursor =
        refuseNext .trailingCharacters (.stream (some fault)) after := by
      simp only [overlong, bind_apply, tokenOrFailure, hfailed]
    obtain ⟨cause, place, after', hoverlong, hcause⟩ := overlong_failed (.stream none) other
    rw [hcharacters, hoverlong]
    rcases hcause with rfl | rfl
    · exact .unnoticed _ _ _ _ (endsInComma_input hbehind hblanks)
    · exact .failed _ _ (.parse _ _ _)

theorem steady_listEnd (h : Steady token) : Steady listEnd := by
  intro more fault cursor other hbeside
  have hrun := h more fault cursor other hbeside
  rw [listEnd, bind_apply, bind_apply]
  rcases token_broken fault cursor with ⟨b, after, hdone, rest, hahead⟩ | ⟨after, hfailed, _⟩
  · rw [hdone] at hrun ⊢
    generalize token (.stream none) other = run at hrun ⊢
    cases hrun with
    | @done _ _ after' hinput hafter =>
      dsimp only
      rw [← hinput]
      split
      · exact steady_eat more fault after after' hafter
      · split
        · rename_i hcomma
          subst hcomma
          have hbehind : after.advance.behind = byte ',' :: after.behind := by
            rw [after.eq_between, hahead]
            rfl
          rw [← Cursor.input_advance]
          exact foretells_overlong h hafter.advance hbehind
        · exact steady_refuseNext _ more fault after after' hafter
  · rw [hfailed]
    exact .broken _ _

theorem Built.steady {shapes : Bool} {reader : Reader α} (h : Built shapes reader) :
    Steady reader := by
  induction h with
  | pure value => exact .pure value
  | bind _ _ ih ih' => exact .bind ih ih'
  | look => exact steady_look
  | eat => exact steady_eat
  | refuse cause => exact steady_refuse cause
  | refuseNext cause => exact steady_refuseNext cause
  | refuseBack cause bytes => exact fun _ _ _ _ _ => .failed _ _ (.parse _ _ _)
  | mismatch cause _ => exact steady_mismatch cause
  | loop state _ hwaits ih => exact .loop ih hwaits state
  | enclosed _ _ _ ih ih' => exact .enclosed ih ih'
  | plainByte => exact steady_plainByte
  | listEnd _ ih => exact steady_listEnd ih

/-- Whatever has been read of a table, the stream is asked once more, and then it fails. -/
theorem table_broken (fault : IoFault) (cursor : Cursor) (value : Table) (after : Cursor) :
    table (.stream (some fault)) cursor ≠ .done value after := by
  intro hdone
  rw [table, bind_apply] at hdone
  cases hstart : valueStart (.stream (some fault)) cursor with
  | failed verdict between => simp [hstart] at hdone
  | done b between =>
    simp only [hstart] at hdone
    split at hdone
    · rw [bind_apply] at hdone
      cases hrecords : enclosed listEnd (.ok <$> records) (.stream (some fault)) between with
      | failed verdict last => simp [hrecords] at hdone
      | done read last =>
        simp only [hrecords, bind_apply] at hdone
        rcases token_broken fault last with ⟨b, _, htoken, _⟩ | ⟨_, htoken, _⟩
        · simp [htoken, refuseNext] at hdone
        · simp [htoken] at hdone
    · rw [refuseShape, bind_apply] at hdone
      cases hfound : found b (.stream (some fault)) between with
      | failed verdict last => simp [hfound] at hdone
      | done what last => simp [hfound, mismatch] at hdone

end Reader

/-- An error over a stream that fails after some bytes, beside the error over a stream that goes on.
They are alike, or the failure behind a comma was taken for a character that does not belong there,
where the other stream has the closing bracket. -/
inductive Error.Foretells (bytes : List UInt8) (error error' : Error) : Prop
  | alike : error.Alike error' → Foretells bytes error error'
  | unnoticed (place place' : Place) : EndsInComma bytes →
      error = .table (.parse .trailingCharacters place) →
      error' = .table (.parse .trailingComma place') → Foretells bytes error error'

namespace Table

theorem foretells_start (bytes more : List UInt8) (fault : IoFault) :
    (Reader.table (.stream (some fault)) (.start bytes)).Foretells bytes more fault
      (Reader.table (.stream none) (.start (bytes ++ more))) :=
  Reader.built_table.steady more fault (.start bytes) _ (.level _)

/-- A stream that fails holds no table. Either the failure is reported, or the error is a verdict on
the bytes delivered, which is foretold for every stream that goes on after them. -/
theorem ofStream_broken {stream : Stream} {fault : IoFault} (hfailure : stream.failure = some fault) :
    ∃ error, Table.ofStream stream = .error error ∧
      (error = .table (.stream fault) ∨
        (error.kind = .parse ∨ error.kind = .schema) ∧
          ∀ whole : Stream, whole.failure = none → stream.bytes <+: whole.bytes →
            ∃ error', Table.ofStream whole = .error error' ∧
              error.Foretells stream.bytes error') := by
  have hstream : Table.ofStream stream =
      (Table.read (.stream (some fault)) stream.bytes).mapError Error.table := by
    rw [Table.ofStream, hfailure]
  rw [hstream, Table.read]
  cases hrun : Reader.table (.stream (some fault)) (.start stream.bytes) with
  | done table after => exact absurd hrun (Reader.table_broken fault _ table after)
  | failed verdict after =>
    refine ⟨.table verdict, rfl, ?_⟩
    have hforetells := fun more => foretells_start stream.bytes more fault
    simp only [hrun] at hforetells
    have hwhole : ∀ whole : Stream, whole.failure = none → stream.bytes <+: whole.bytes →
        verdict ≠ .stream fault → ∃ error', Table.ofStream whole = .error error' ∧
          (Error.table verdict).Foretells stream.bytes error' := by
      rintro whole hnone ⟨more, hmore⟩ hverdict
      have hrun' := hforetells more
      rw [Table.ofStream, hnone, Table.read, ← hmore]
      generalize Reader.table (.stream none) (.start (stream.bytes ++ more)) = run at hrun'
      cases hrun' with
      | broken => exact absurd rfl hverdict
      | failed _ _ halike => exact ⟨_, rfl, .alike halike.error⟩
      | unnoticed place place' _ _ hcomma => exact ⟨_, rfl, .unnoticed place place' hcomma rfl rfl⟩
    cases verdict with
    | stream reported =>
      left
      have hempty := hforetells []
      generalize Reader.table (.stream none) (.start (stream.bytes ++ [])) = run at hempty
      cases hempty with
      | broken => rfl
      | failed _ _ halike => cases halike
    | parse cause place =>
      refine .inr ⟨.inl rfl, fun whole hnone hmore => hwhole whole hnone hmore ?_⟩
      intro he
      cases he
    | schema cause place =>
      refine .inr ⟨.inr rfl, fun whole hnone hmore => hwhole whole hnone hmore ?_⟩
      intro he
      cases he

/-- A stream that fails behind a value of the wrong type, before the record is closed. -/
def brokenRecord : Stream where
  arrivals := [.chunk 0x5B [0x7B, 0x22, 0x6D, 0x69, 0x73], .interruption,
    .chunk 0x73 [0x22, 0x3A, 0x74, 0x72, 0x75, 0x65]]
  failure := some (.other "disk")

theorem ofStream_broken_record :
    brokenRecord.failure = some (.other "disk") ∧
      ∃ error, Table.ofStream brokenRecord = .error error ∧
        (error = .table (.stream (.other "disk")) ∨
          (error.kind = .parse ∨ error.kind = .schema) ∧
            ∀ whole : Stream, whole.failure = none → brokenRecord.bytes <+: whole.bytes →
              ∃ error', Table.ofStream whole = .error error' ∧
                error.Foretells brokenRecord.bytes error') :=
  ⟨rfl, ofStream_broken rfl⟩

/-- A record of four fields and a comma, behind which a stream fails or goes on. -/
def overlongRecord (later : List Arrival) (failure : Option IoFault) : Stream where
  arrivals := .chunk 0x5B [0x5B, 0x22, 0x61, 0x22, 0x2C, 0x22, 0x62, 0x22, 0x2C, 0x22, 0x63, 0x22,
    0x2C, 0x22, 0x64, 0x22, 0x2C] :: later
  failure := failure

def charactersMessage : String := (Error.table (.parse .trailingCharacters ⟨1, 18⟩)).message

def commaMessage : String := (Error.table (.parse .trailingComma ⟨1, 19⟩)).message

theorem append_place_prefix {cause message : String} {place : Place}
    (h : message = cause ++ place.text) : cause.toList ++ " at line ".toList <+: message.toList := by
  rw [h, Place.text, String.append_assoc, String.append_assoc]
  simp only [String.toList_append]
  exact (List.prefix_append_right_inj _).mpr (List.prefix_append _ _)

theorem not_alike_trailing : ¬ (Error.table (.parse .trailingCharacters ⟨1, 18⟩)).Alike
    (.table (.parse .trailingComma ⟨1, 19⟩)) := by
  rintro ⟨_, _, cause, place, place', hmessage, hmessage'⟩
  have hcharacters := append_place_prefix hmessage
  have hcomma := append_place_prefix hmessage'
  have htake := List.prefix_iff_eq_take.mp ((List.prefix_append _ _).trans hcharacters)
  have hparts : ∀ count < 64, ¬ (charactersMessage.toList.take count ++ " at line ".toList <+:
      charactersMessage.toList ∧ charactersMessage.toList.take count ++ " at line ".toList <+:
        commaMessage.toList) := by
    decide +kernel
  have hlength : charactersMessage.toList.length < 64 := by decide +kernel
  have hle := ((List.prefix_append _ _).trans hcharacters).length_le
  rw [htake] at hcharacters hcomma
  exact hparts cause.toList.length (Nat.lt_of_le_of_lt hle hlength) ⟨hcharacters, hcomma⟩

/-- What is said of a stream that fails is not always said of those that go on: a comma behind the
fields of a record is followed by a wrong character, or it is one too many. -/
theorem ofStream_broken_not_alike :
    ¬ ∀ (stream : Stream) (fault : IoFault), stream.failure = some fault →
      ∃ error, Table.ofStream stream = .error error ∧
        (error = .table (.stream fault) ∨
          (error.kind = .parse ∨ error.kind = .schema) ∧
            ∀ whole : Stream, whole.failure = none → stream.bytes <+: whole.bytes →
              ∃ error', Table.ofStream whole = .error error' ∧ error.Alike error') := by
  intro h
  have hbroken : Table.ofStream (overlongRecord [] (some (.other "gone"))) =
      .error (.table (.parse .trailingCharacters ⟨1, 18⟩)) := by
    decide +kernel
  have hclosed : Table.ofStream (overlongRecord [.chunk 0x5D [0x5D]] none) =
      .error (.table (.parse .trailingComma ⟨1, 19⟩)) := by
    decide +kernel
  obtain ⟨error, herror, hverdict⟩ := h (overlongRecord [] (some (.other "gone"))) _ rfl
  rw [hbroken] at herror
  cases herror
  rcases hverdict with hstream | ⟨_, hwhole⟩
  · cases hstream
  · obtain ⟨error', herror', halike⟩ := hwhole (overlongRecord [.chunk 0x5D [0x5D]] none) rfl ⟨_, rfl⟩
    rw [hclosed] at herror'
    cases herror'
    exact not_alike_trailing halike

end Table

end ShaderBinding
