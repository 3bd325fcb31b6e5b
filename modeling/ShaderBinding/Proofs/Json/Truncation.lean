import ShaderBinding.Proofs.Json.Outcomes

/-! Texts that have been cut off, beside the whole texts. Where the run over the whole text succeeds,
the run over its beginning goes along with it, or it fails to parse: no cut turns a value into another
one, and none gives a value the wrong shape. -/

namespace ShaderBinding

def Outcome.FailsToParse {α : Type} (outcome : Outcome α) : Prop :=
  ∃ cause place after, outcome = .failed (.parse cause place) after

namespace Reader

variable {α β σ : Type}

/-- A reader that goes along with its run over the whole text, or fails to parse. -/
def Wary (reader : Reader α) : Prop :=
  ∀ (more : List UInt8) (cursor other : Cursor) (value : α) (after' : Cursor),
    cursor.Beside more other → reader .text other = .done value after' →
      (∃ after, reader .text cursor = .done value after ∧ after.Beside more after') ∨
        (reader .text cursor).FailsToParse

/-- A reader that fails to parse where there is nothing more to read. -/
def Starves (reader : Reader α) : Prop :=
  ∀ cursor, cursor.ahead = [] → (reader .text cursor).FailsToParse

theorem starves_refuse (cause : ParseCause) : Starves (refuse cause : Reader α) :=
  fun _ _ => ⟨_, _, _, rfl⟩

theorem starves_refuseNext (cause : ParseCause) : Starves (refuseNext cause : Reader α) :=
  fun _ _ => ⟨_, _, _, rfl⟩

theorem FailsToParse.bind {first : Reader α} {cursor : Cursor}
    (h : (first .text cursor).FailsToParse) (next : α → Reader β) :
    ((first >>= next) .text cursor).FailsToParse := by
  obtain ⟨cause, place, after, hfailed⟩ := h
  exact ⟨cause, place, after, by rw [bind_apply, hfailed]⟩

theorem wary_pure (value : α) : Wary (Pure.pure value : Reader α) := by
  rintro more cursor other _ _ hbeside ⟨⟩
  exact .inl ⟨cursor, rfl, hbeside⟩

theorem Refuses.wary {reader : Reader α} (h : Refuses reader) : Wary reader :=
  fun _ _ other value after' _ hdone => absurd hdone (h other value after')

theorem wary_refuse (cause : ParseCause) : Wary (refuse cause : Reader α) :=
  (refuses_refuse cause).wary

theorem wary_refuseNext (cause : ParseCause) : Wary (refuseNext cause : Reader α) :=
  (refuses_refuseNext cause).wary

theorem Wary.bind {first : Reader α} {next : α → Reader β} (h : Wary first)
    (h' : ∀ value, Wary (next value)) : Wary (first >>= next) := by
  intro more cursor other value after' hbeside hdone
  obtain ⟨between, cursor', hfirst', hnext'⟩ := exists_of_bind_done hdone
  rcases h more cursor other between cursor' hbeside hfirst' with ⟨after, hfirst, hafter⟩ | hfails
  · rw [bind_apply, hfirst]
    exact h' between more after cursor' value after' hafter hnext'
  · exact .inr (FailsToParse.bind hfails next)

theorem Wary.map {reader : Reader α} (h : Wary reader) (f : α → β) : Wary (f <$> reader) :=
  .bind h fun value => wary_pure (f value)

theorem wary_eat : Wary eat := by
  rintro more cursor other _ _ hbeside ⟨⟩
  exact .inl ⟨cursor.advance, rfl, hbeside.advance⟩

theorem Wary.loop {turn : σ → Reader (Turn σ α)} (h : ∀ state, Wary (turn state)) (state : σ) :
    Wary (Reader.loop turn state) := by
  intro more cursor other value after' hbeside hdone
  -- The whole text is measured: the cut one may have ended, and then its turns consume nothing.
  generalize hleft : other.left = left
  induction left using Nat.strongRecOn generalizing state cursor other with
  | ind left ih =>
    rw [Reader.loop] at hdone ⊢
    cases hturn' : turn state .text other with
    | failed fault between' => simp [hturn'] at hdone
    | done turned between' =>
      rcases h state more cursor other turned between' hbeside hturn' with
        ⟨between, hturn, hbetween⟩ | ⟨cause, place, between, hfailed⟩
      · rw [hturn]
        cases turned with
        | stop stopped =>
          simp only [hturn'] at hdone
          obtain ⟨rfl, rfl⟩ := Outcome.done.inj hdone
          exact .inl ⟨between, rfl, hbetween⟩
        | again state' =>
          simp only [hturn'] at hdone
          split at hdone
          · rename_i hlt
            dsimp only
            split
            · exact ih between'.left (hleft ▸ hlt) state' between between' hbetween hdone rfl
            · exact .inr ⟨_, _, _, rfl⟩
          · exact absurd hdone (refuses_refuse _).not_done
      · rw [hfailed]
        exact .inr ⟨cause, place, between, rfl⟩

theorem Wary.enclosed {close : Reader Unit} {body : Reader (Except SchemaCause α)}
    (hclose : Wary close) (hbody : Wary body) : Wary (Reader.enclosed close body) := by
  intro more cursor other value after' hbeside hdone
  simp only [Reader.enclosed] at hdone ⊢
  cases hbody' : body .text other.advance with
  | failed fault between' => simp [hbody'] at hdone
  | done result between' =>
    cases result with
    | error cause => simp [hbody', mismatch] at hdone
    | ok read =>
      simp only [hbody'] at hdone
      rcases hbody more cursor.advance other.advance (.ok read) between' hbeside.advance hbody' with
        ⟨between, hrun, hbetween⟩ | ⟨cause, place, between, hfailed⟩
      · rw [hrun]
        exact Wary.bind hclose (fun _ => wary_pure read) more between between' value after' hbetween hdone
      · rw [hfailed]
        exact .inr ⟨cause, place, _, rfl⟩

/-! Looking ahead. -/

theorem look_end {cursor : Cursor} (hend : cursor.ahead = []) : look .text cursor = .done none cursor := by
  simp only [look, hend]

theorem look_beside {more : List UInt8} {cursor other : Cursor} (hbeside : cursor.Beside more other)
    (hahead : cursor.ahead ≠ []) : ∃ b after after', look .text cursor = .done (some b) after ∧
      look .text other = .done (some b) after' ∧ after.Beside more after' := by
  obtain rfl := hbeside.eq_extend hahead
  obtain ⟨b, rest, hcons⟩ := List.exists_cons_of_ne_nil hahead
  refine ⟨b, { cursor with held := true }, { cursor.extend more with held := true }, ?_, ?_,
    .level { cursor with held := true }⟩
  · simp only [look, hcons]
  · simp only [look, Cursor.extend, Cursor.between, hcons, List.cons_append]

theorem Wary.look_bind {next : Option UInt8 → Reader β} (hnone : Starves (next none))
    (hsome : ∀ b, Wary (next (some b))) : Wary (look >>= next) := by
  intro more cursor other value after' hbeside hdone
  by_cases hend : cursor.ahead = []
  · right
    rw [bind_apply, look_end hend]
    exact hnone cursor hend
  · obtain ⟨b, after, between, hlook, hlook', hafter⟩ := look_beside hbeside hend
    rw [bind_apply, hlook'] at hdone
    rw [bind_apply, hlook]
    exact hsome b more after between value after' hafter hdone

theorem Starves.eat {next : Unit → Reader β} (h : Starves (next ())) :
    Starves (Reader.eat >>= next) := by
  intro cursor hend
  refine h cursor.advance ?_
  rw [← Cursor.left_eq_zero_iff] at hend ⊢
  exact Nat.le_zero.mp (hend ▸ cursor.left_advance_le)

theorem next_bind (next : Option UInt8 → Reader β) :
    Reader.next >>= next = look >>= fun b => eat >>= fun _ => next b := by
  rw [Reader.next, bind_assoc]
  rfl

theorem Wary.next_bind {next : Option UInt8 → Reader β} (hnone : Starves (next none))
    (hsome : ∀ b, Wary (next (some b))) : Wary (Reader.next >>= next) := by
  rw [Reader.next_bind]
  exact .look_bind hnone.eat fun b => .bind wary_eat fun _ => hsome b

theorem token_end {more : List UInt8} {cursor other : Cursor} (hbeside : cursor.Beside more other)
    (hend : cursor.ahead = []) : ∃ after, token .text cursor = .done none after ∧ after.ahead = [] ∧
      ∀ next after', token .text other = .done next after' → after.Beside more after' := by
  refine ⟨cursor, token_stop (look_end hend) rfl, hend, ?_⟩
  intro next after' hdone
  have hother := hbeside.left_le
  rw [(Cursor.left_eq_zero_iff cursor).mpr hend, Nat.zero_add] at hother
  have hbuilt : Built false token := built_token
  exact .ended hend (Nat.le_trans (hbuilt.left_le hdone) hother)

theorem token_beside {more : List UInt8} {cursor other : Cursor} (hbeside : cursor.Beside more other) :
    (∃ b after after', token .text cursor = .done (some b) after ∧
      token .text other = .done (some b) after' ∧ after.Beside more after') ∨
    ∃ after, token .text cursor = .done none after ∧ after.ahead = [] ∧
      ∀ next after', token .text other = .done next after' → after.Beside more after' := by
  cases hbeside with
  | ended hend hleft => exact .inr (token_end (.ended hend hleft) hend)
  | level =>
    rw [cursor.eq_between]
    generalize cursor.behind = behind, cursor.ahead = ahead, cursor.held = held
    induction ahead generalizing behind held with
    | nil => exact .inr (token_end (.level _) rfl)
    | cons b rest ih =>
      have hextend : (Cursor.between behind (b :: rest) held).extend more =
          .between behind (b :: (rest ++ more)) held := rfl
      rw [hextend]
      cases hblank : isBlank b with
      | true =>
        rw [token_blank hblank, token_blank hblank]
        exact ih (b :: behind) false
      | false =>
        exact .inl ⟨b, .between behind (b :: rest) true, .between behind (b :: (rest ++ more)) true,
          token_stop rfl hblank, token_stop rfl hblank, .level _⟩

theorem Wary.token_bind {next : Option UInt8 → Reader β} (hnone : Starves (next none))
    (hsome : ∀ b, Wary (next (some b))) : Wary (token >>= next) := by
  intro more cursor other value after' hbeside hdone
  rcases token_beside hbeside with
    ⟨b, after, between, htoken, htoken', hafter⟩ | ⟨after, htoken, hend, _⟩
  · rw [bind_apply, htoken'] at hdone
    rw [bind_apply, htoken]
    exact hsome b more after between value after' hafter hdone
  · right
    rw [bind_apply, htoken]
    exact hnone after hend

/-! Signs and words. -/

theorem wary_valueStart : Wary valueStart :=
  .token_bind (starves_refuseNext _) fun b => wary_pure b

theorem wary_word (letters : List Char) : Wary (word letters) := by
  induction letters with
  | nil => exact wary_pure ()
  | cons c letters ih =>
    refine .next_bind (starves_refuse _) fun b => ?_
    dsimp only
    split
    · exact ih
    · exact wary_refuse _

theorem wary_colon : Wary colon := by
  refine .token_bind (starves_refuseNext _) fun b => ?_
  dsimp only
  split
  · exact wary_eat
  · exact wary_refuseNext _

theorem wary_comma (bracket : Part) (b : UInt8) : Wary (comma bracket b) := by
  unfold comma
  split
  · exact wary_eat
  · exact wary_refuseNext _

theorem wary_keyStart (b : UInt8) : Wary (keyStart b) := by
  unfold keyStart
  split
  · exact wary_pure ()
  · exact wary_refuseNext _

theorem wary_hasElement (first : Bool) : Wary (hasElement first) := by
  refine .token_bind (starves_refuseNext _) fun b => ?_
  dsimp only
  split
  · exact wary_pure false
  · split
    · exact wary_pure true
    · refine .bind (wary_comma _ _) fun _ => .token_bind (starves_refuseNext _) fun b => ?_
      dsimp only
      split
      · exact wary_refuseNext _
      · exact wary_pure true

theorem wary_hasMember (first : Bool) : Wary (hasMember first) := by
  refine .token_bind (starves_refuseNext _) fun b => ?_
  dsimp only
  split
  · exact wary_pure false
  · split
    · exact .bind (wary_keyStart _) fun _ => wary_pure true
    · refine .bind (wary_comma _ _) fun _ => .token_bind (starves_refuseNext _) fun b => ?_
      dsimp only
      split
      · exact wary_refuseNext _
      · exact .bind (wary_keyStart _) fun _ => wary_pure true

theorem wary_listEnd : Wary listEnd := by
  refine .token_bind (starves_refuseNext _) fun b => ?_
  dsimp only
  split
  · exact wary_eat
  · split
    · refine .bind wary_eat fun _ => Refuses.wary (Refuses.bind fun next => ?_)
      split
      · split <;> exact refuses_refuseNext _
      · exact refuses_refuseNext _
    · exact wary_refuseNext _

theorem wary_objectEnd : Wary objectEnd := by
  refine .token_bind (starves_refuseNext _) fun b => ?_
  dsimp only
  split
  · exact wary_eat
  · split <;> exact wary_refuseNext _

/-! Strings. -/

theorem wary_stringByte : Wary stringByte :=
  .next_bind (starves_refuse _) fun b => wary_pure b

theorem wary_hexUnit : Wary hexUnit := by
  refine .bind wary_stringByte fun _ => .bind wary_stringByte fun _ => ?_
  refine .bind wary_stringByte fun _ => .bind wary_stringByte fun _ => ?_
  split
  · exact wary_pure _
  · exact wary_refuse _

theorem wary_pairByte (c : Char) : Wary (pairByte c) := by
  refine .bind wary_stringByte fun _ => ?_
  split
  · exact wary_pure ()
  · exact wary_refuse _

theorem wary_hexEscape : Wary hexEscape := by
  refine .bind wary_hexUnit fun unit => ?_
  split
  · exact wary_refuse _
  · split
    · refine .bind (wary_pairByte _) fun _ => .bind (wary_pairByte _) fun _ => ?_
      refine .bind wary_hexUnit fun second => ?_
      split
      · exact wary_pure _
      · exact wary_refuse _
    · exact wary_pure _

theorem wary_escape : Wary escape := by
  refine .bind wary_stringByte fun _ => ?_
  split
  · exact wary_hexEscape
  · split
    · exact wary_pure _
    · exact wary_refuse _

theorem wary_string : Wary string := by
  refine .bind (.loop (fun collected => .bind wary_stringByte fun _ => ?_) []) fun bytes => ?_
  · split
    · exact wary_pure _
    · split
      · exact .bind wary_escape fun _ => wary_pure _
      · split
        · exact wary_refuse _
        · exact wary_pure _
  · split
    · exact wary_pure _
    · exact Refuses.wary fun _ _ _ => nofun

theorem wary_skipEscape : Wary skipEscape := by
  refine .bind wary_stringByte fun _ => ?_
  split
  · exact .bind wary_hexUnit fun _ => wary_pure ()
  · split
    · exact wary_pure ()
    · exact wary_refuse _

theorem wary_plainByte : Wary plainByte := by
  refine .look_bind (starves_refuse _) fun b => ?_
  have hdelivery : Wary delivery := by
    rintro more cursor other _ _ hbeside ⟨⟩
    exact .inl ⟨cursor, rfl, hbeside⟩
  refine .bind hdelivery fun way => ?_
  split
  · exact wary_refuse _
  · exact .bind wary_eat fun _ => wary_refuse _
  · exact .bind wary_eat fun _ => wary_pure _

theorem wary_skipString : Wary skipString := by
  refine .loop (fun _ => .bind wary_plainByte fun _ => ?_) ()
  split
  · exact wary_pure _
  · split
    · exact .bind wary_skipEscape fun _ => wary_pure _
    · exact wary_pure _

/-! Numbers that are passed over. Only they may end where a text has been cut off. -/

/-- A reader of nothing that may end where there is nothing more to read. -/
theorem Wary.look_bind_or_end {next : Option UInt8 → Reader Unit} (hbuilt : Built false (look >>= next))
    (hnone : ∀ cursor, cursor.ahead = [] →
      ∃ after, after.ahead = [] ∧ next none .text cursor = .done () after)
    (hsome : ∀ b, Wary (next (some b))) : Wary (look >>= next) := by
  intro more cursor other value after' hbeside hdone
  by_cases hend : cursor.ahead = []
  · left
    obtain ⟨after, hafter, hnext⟩ := hnone cursor hend
    have hleft := Nat.le_trans (hbuilt.left_le hdone) hbeside.left_le
    rw [(Cursor.left_eq_zero_iff cursor).mpr hend, Nat.zero_add] at hleft
    exact ⟨after, by rw [bind_apply, look_end hend]; exact hnext, .ended hafter hleft⟩
  · obtain ⟨b, after, between, hlook, hlook', hafter⟩ := look_beside hbeside hend
    rw [bind_apply, hlook'] at hdone
    rw [bind_apply, hlook]
    exact hsome b more after between value after' hafter hdone

theorem skipDigits_stop {delivery : Delivery} {cursor after : Cursor} {next : Option UInt8}
    (hlook : look delivery cursor = .done next after) (hnext : next.any isDigit = false) (count : Nat) :
    loop skipDigitsTurn count delivery cursor = .done count after := by
  refine loop_stop ?_
  cases next with
  | none => simp only [skipDigitsTurn, bind_apply, hlook]; rfl
  | some b =>
    have hdigit : isDigit b = false := hnext
    simp only [skipDigitsTurn, bind_apply, hlook, hdigit]
    rfl

theorem skipDigits_digit {delivery : Delivery} {b : UInt8} (hdigit : isDigit b = true)
    (behind rest : List UInt8) (held : Bool) (count : Nat) :
    loop skipDigitsTurn count delivery (.between behind (b :: rest) held) =
      loop skipDigitsTurn (count + 1) delivery (.between (b :: behind) rest false) := by
  refine loop_again ?_ (Nat.lt_succ_self rest.length)
  simp only [skipDigitsTurn, bind_apply, look, Cursor.between, hdigit]
  rfl

theorem skipDigits_beside {more : List UInt8} {cursor other after' : Cursor} {read read' count' : Nat}
    (hbeside : cursor.Beside more other)
    (hdone : loop skipDigitsTurn read' .text other = .done count' after') : ∃ count after,
      loop skipDigitsTurn read .text cursor = .done count after ∧ after.Beside more after' := by
  -- Digits may have been cut off, so the counts differ, and only the places are compared.
  have hend : ∀ {cursor other : Cursor} {read read' : Nat}, cursor.Beside more other →
      cursor.ahead = [] → loop skipDigitsTurn read' .text other = .done count' after' →
      ∃ count after, loop skipDigitsTurn read .text cursor = .done count after ∧
        after.Beside more after' := by
    intro cursor other read read' hbeside hend hdone
    have hbuilt : Built false (loop skipDigitsTurn read') := built_skipDigitsFrom read'
    have hleft := Nat.le_trans (hbuilt.left_le hdone) hbeside.left_le
    rw [(Cursor.left_eq_zero_iff cursor).mpr hend, Nat.zero_add] at hleft
    exact ⟨read, cursor, skipDigits_stop (look_end hend) rfl read, .ended hend hleft⟩
  cases hbeside with
  | ended hahead hleft => exact hend (.ended hahead hleft) hahead hdone
  | level =>
    rw [cursor.eq_between] at hdone ⊢
    generalize cursor.behind = behind, cursor.ahead = ahead, cursor.held = held at hdone ⊢
    induction ahead generalizing behind held read read' with
    | nil => exact hend (.level _) rfl hdone
    | cons b rest ih =>
      have hextend : (Cursor.between behind (b :: rest) held).extend more =
          .between behind (b :: (rest ++ more)) held := rfl
      rw [hextend] at hdone
      cases hdigit : isDigit b with
      | true =>
        rw [skipDigits_digit hdigit] at hdone ⊢
        exact ih (b :: behind) false hdone
      | false =>
        have hnext : (some b).any isDigit = false := hdigit
        have hstop : ∀ count rest, loop skipDigitsTurn count .text (.between behind (b :: rest) held) =
            .done count (.between behind (b :: rest) true) :=
          fun count _ => skipDigits_stop rfl hnext count
        rw [hstop] at hdone
        obtain ⟨rfl, rfl⟩ := Outcome.done.inj hdone
        exact ⟨read, .between behind (b :: rest) true, hstop read rest, .level _⟩

theorem Wary.skipDigits_bind {next : Nat → Reader β} (h : ∀ count, Wary (next count))
    (hcount : ∀ count count', next count = next count' ∨ (∀ cursor, (next count .text cursor).FailsToParse) ∨
      Refuses (next count')) : Wary (skipDigits >>= next) := by
  intro more cursor other value after' hbeside hdone
  obtain ⟨count', between', hdigits', hnext'⟩ := exists_of_bind_done hdone
  obtain ⟨count, between, hdigits, hbetween⟩ : ∃ count between,
      skipDigits .text cursor = .done count between ∧ between.Beside more between' :=
    skipDigits_beside hbeside hdigits'
  rw [bind_apply, hdigits]
  rcases hcount count count' with he | hfails | hrefuses
  · rw [← he] at hnext'
    exact h count more between between' value after' hbetween hnext'
  · exact .inr (hfails between)
  · exact absurd hnext' hrefuses.not_done

theorem Wary.exponentSign_bind {next : Bool → Reader β} (h : ∀ positive, Wary (next positive))
    (hend : Starves (next true)) : Wary (exponentSign >>= next) := by
  rw [exponentSign, bind_assoc]
  refine .look_bind hend fun b => ?_
  dsimp only
  split
  · exact .bind (.bind wary_eat fun _ => wary_pure true) h
  · split
    · exact .bind (.bind wary_eat fun _ => wary_pure false) h
    · exact h true

theorem wary_skipExponent : Wary skipExponent := by
  refine .look_bind_or_end built_skipExponent (fun cursor hend => ⟨cursor, hend, rfl⟩) fun b => ?_
  dsimp only
  split
  · refine .bind wary_eat fun _ => .exponentSign_bind (fun _ => ?_) ?_
    · refine .next_bind (starves_refuse _) fun b => ?_
      dsimp only
      split
      · exact .skipDigits_bind (fun _ => wary_pure ()) fun _ _ => .inl rfl
      · exact wary_refuse _
    · intro cursor hend
      rw [Reader.next_bind, bind_apply, look_end hend]
      exact Starves.eat (starves_refuse _) cursor hend
  · exact wary_pure ()

theorem wary_skipFraction : Wary skipFraction := by
  refine .look_bind_or_end built_skipFraction (fun cursor hend => ⟨cursor, hend, rfl⟩) fun b => ?_
  dsimp only
  split
  · refine .bind wary_eat fun _ => .skipDigits_bind (fun count => ?_) fun count count' => ?_
    · split
      · exact wary_refuseNext _
      · exact wary_skipExponent
    · by_cases hcount : count = 0
      · exact .inr (.inl fun cursor => ⟨_, _, _, by rw [if_pos hcount]; rfl⟩)
      · by_cases hcount' : count' = 0
        · exact .inr (.inr (by rw [if_pos hcount']; exact refuses_refuseNext _))
        · exact .inl (by rw [if_neg hcount, if_neg hcount'])
  · exact wary_skipExponent

theorem wary_skipNumber : Wary skipNumber := by
  refine .next_bind (starves_refuse _) fun b => ?_
  dsimp only
  split
  · refine .look_bind_or_end ?_ (fun cursor hend => ⟨cursor, hend, ?_⟩) fun b => ?_
    · refine .bind .look fun next => ?_
      split
      · split
        · exact .refuseNext _
        · exact built_skipFraction
      · exact built_skipFraction
    · dsimp only
      rw [skipFraction, bind_apply, look_end hend]
      rfl
    · dsimp only
      split
      · exact wary_refuseNext _
      · exact wary_skipFraction
  · split
    · exact .skipDigits_bind (fun _ => wary_skipFraction) fun _ _ => .inl rfl
    · exact wary_refuse _

/-! Values that are passed over. -/

theorem wary_skipStart : Wary skipStart := by
  have hleaf : ∀ {rest : Reader Unit}, Wary rest → Wary (skipStart.leaf rest) :=
    fun h => .bind wary_eat fun _ => .bind h fun _ => wary_pure none
  refine .bind wary_valueStart fun b => ?_
  repeat' split
  · exact hleaf (wary_word _)
  · exact hleaf (wary_word _)
  · exact hleaf (wary_word _)
  · exact hleaf wary_skipNumber
  · exact .bind wary_skipNumber fun _ => wary_pure none
  · exact hleaf wary_skipString
  · exact .bind wary_eat fun _ => wary_pure _
  · exact .bind wary_eat fun _ => wary_pure _
  · exact wary_refuseNext _

theorem wary_closeBrackets (brackets : List Bracket) (fresh : Bool) :
    Wary (closeBrackets brackets fresh) := by
  refine .loop (fun ⟨brackets, fresh⟩ => ?_) (brackets, fresh)
  cases brackets with
  | nil => exact wary_pure _
  | cons top rest =>
    refine .token_bind (starves_refuseNext _) fun b => ?_
    dsimp only
    split
    · exact .bind wary_eat fun _ => wary_pure _
    · split
      · exact wary_pure _
      · exact .bind (wary_comma _ _) fun _ => wary_pure _

theorem wary_skipKey : Wary skipKey := by
  refine .token_bind (starves_refuseNext _) fun b => ?_
  refine .bind (wary_keyStart _) fun _ => .bind wary_eat fun _ => ?_
  exact .bind wary_skipString fun _ => wary_colon

theorem wary_skipValue : Wary skipValue := by
  refine .loop (fun brackets => .bind wary_skipStart fun opened => ?_) []
  refine .bind (wary_closeBrackets _ _) fun left => ?_
  split
  · exact wary_pure _
  · exact wary_pure _
  · exact .bind wary_skipKey fun _ => wary_pure _

end Reader

end ShaderBinding
