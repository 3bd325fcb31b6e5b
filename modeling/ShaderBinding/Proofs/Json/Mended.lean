import ShaderBinding.Proofs.Json.SkippedValues
import ShaderBinding.Proofs.Text.Mending

/-! Runs over bytes that need not be a text, beside runs over the mended bytes. The syntax knows no
question mark, and a byte that belongs to no character is accepted only in a string that is passed
over. So both runs go on in step, and they read the same. -/

namespace ShaderBinding

namespace Utf8

variable {b b' : UInt8}

/-- What is known of every byte beyond the first 128, and of a question mark, is kept. -/
theorem Mends.apply_eq {γ : Type} {f : UInt8 → γ} {value : γ} (h : Mends b b')
    (hhigh : ∀ k, 0x80 ≤ k → f k = value) (hmark : f (byte '?') = value) : f b' = f b := by
  cases h with
  | same => rfl
  | broken hb => exact hmark.trans (hhigh b hb).symm

theorem Mends.eq_byte_iff {a : Char} (h : Mends b b') (ha : a.toNat < 0x80 ∧ byte '?' ≠ byte a) :
    b' = byte a ↔ b = byte a := by
  cases h with
  | same => exact Iff.rfl
  | broken hb => exact iff_of_false ha.2 (ne_byte_of_le hb ha.1)

theorem Mends.isDigit_eq (h : Mends b b') : isDigit b' = isDigit b :=
  h.apply_eq (fun _ => isDigit_of_byte_le) rfl

theorem Mends.hexValue?_eq (h : Mends b b') : hexValue? b' = hexValue? b :=
  h.apply_eq (fun _ => hexValue?_of_byte_le) rfl

theorem Mends.simpleEscape?_eq (h : Mends b b') : simpleEscape? b' = simpleEscape? b :=
  h.apply_eq (fun _ => simpleEscape?_of_byte_le) rfl

theorem Mends.isBlank_eq (h : Mends b b') : isBlank b' = isBlank b :=
  h.apply_eq (fun _ => isBlank_of_byte_le) rfl

theorem Mends.startsExponent_eq (h : Mends b b') : startsExponent b' = startsExponent b :=
  h.apply_eq (fun _ => startsExponent_of_byte_le) rfl

theorem Mends.isControl_eq (h : Mends b b') : isControl b' = isControl b :=
  h.apply_eq (fun _ => isControl_of_byte_le) rfl

end Utf8

namespace Reader

open Json Utf8

variable {α β σ : Type} {rel : α → α → Prop} {first second : Reader α} {b b' : UInt8}

/-- What the first reader reads from some bytes, the second one reads from the mended bytes. -/
def Mirrors (rel : α → α → Prop) (first second : Reader α) : Prop :=
  ∀ cursor mended value after, Mended cursor.ahead mended.ahead →
    first .text cursor = .done value after → ∃ value' after',
      second .text mended = .done value' after' ∧ rel value value' ∧ Mended after.ahead after'.ahead

/-- The same is read from some bytes and from the mended bytes. -/
abbrev Mirrored (reader : Reader α) : Prop := Mirrors Eq reader reader

theorem Refuses.mirrors (h : Refuses first) : Mirrors rel first second :=
  fun cursor _ value after _ hdone => absurd hdone (h cursor value after)

theorem mirrors_pure {value value' : α} (h : rel value value') :
    Mirrors rel (pure value) (pure value') := by
  rintro cursor mended _ _ hmended ⟨⟩
  exact ⟨value', mended, rfl, h, hmended⟩

theorem Mirrors.bind {rel' : β → β → Prop} {next next' : α → Reader β}
    (h : Mirrors rel first second)
    (h' : ∀ value value', rel value value' → Mirrors rel' (next value) (next' value')) :
    Mirrors rel' (first >>= next) (second >>= next') := by
  intro cursor mended value after hmended hdone
  obtain ⟨between, mid, hfirst, hnext⟩ := exists_of_bind_done hdone
  obtain ⟨between', mid', hsecond, hrel, hmid⟩ := h cursor mended between mid hmended hfirst
  obtain ⟨value', after', hlast, hrel', hafter⟩ :=
    h' between between' hrel mid mid' value after hmid hnext
  refine ⟨value', after', ?_, hrel', hafter⟩
  rw [bind_apply, hsecond]
  exact hlast

theorem Mirrored.bind {rel' : β → β → Prop} {reader : Reader α} {next next' : α → Reader β}
    (h : Mirrored reader) (h' : ∀ value, Mirrors rel' (next value) (next' value)) :
    Mirrors rel' (reader >>= next) (reader >>= next') := by
  refine Mirrors.bind h ?_
  rintro value _ rfl
  exact h' value

theorem Mirrored.map {reader : Reader α} (h : Mirrored reader) (f : α → β) :
    Mirrored (f <$> reader) :=
  h.bind fun _ => mirrors_pure rfl

theorem mirrors_if {p q : Prop} [Decidable p] [Decidable q] {yes yes' no no' : Reader α}
    (hiff : q ↔ p) (hyes : Mirrors rel yes yes') (hno : Mirrors rel no no') :
    Mirrors rel (if p then yes else no) (if q then yes' else no') := by
  by_cases h : p
  · rwa [if_pos h, if_pos (hiff.mpr h)]
  · rwa [if_neg h, if_neg fun hq => h (hiff.mp hq)]

theorem mirrors_if_byte {a : Char} {yes yes' no no' : Reader α} (h : Mends b b')
    (ha : a.toNat < 0x80 ∧ byte '?' ≠ byte a) (hyes : Mirrors rel yes yes')
    (hno : Mirrors rel no no') :
    Mirrors rel (if b = byte a then yes else no) (if b' = byte a then yes' else no') :=
  mirrors_if (h.eq_byte_iff ha) hyes hno

theorem mirrors_if_digit {yes yes' no no' : Reader α} (h : Mends b b')
    (hyes : Mirrors rel yes yes') (hno : Mirrors rel no no') :
    Mirrors rel (if isDigit b then yes else no) (if isDigit b' then yes' else no') :=
  mirrors_if (by rw [h.isDigit_eq]) hyes hno

theorem mended_advance {cursor mended : Cursor} (h : Mended cursor.ahead mended.ahead) :
    Mended cursor.advance.ahead mended.advance.ahead := by
  cases hahead : cursor.ahead with
  | nil =>
    rw [hahead] at h
    have hstay : ∀ c : Cursor, c.ahead = [] → c.advance.ahead = [] := by
      rintro ⟨behind, ahead, held, left, hleft⟩ rfl
      rfl
    rw [hstay cursor hahead, hstay mended h.nil]
    exact mended_nil
  | cons b rest =>
    rw [hahead] at h
    obtain ⟨b', rest', hahead', _, hrest⟩ := h.cons
    rwa [ahead_advance hahead, ahead_advance hahead']

theorem mirrored_eat : Mirrored eat := by
  rintro cursor mended _ _ hmended ⟨⟩
  exact ⟨(), mended.advance, rfl, rfl, mended_advance hmended⟩

theorem mirrors_look : Mirrors (Option.Rel Mends) look look := by
  intro cursor mended value after hmended hdone
  have h := hmended
  cases hahead : cursor.ahead with
  | nil =>
    rw [hahead] at h
    have hahead' : mended.ahead = [] := h.nil
    simp only [look, hahead] at hdone
    obtain ⟨rfl, rfl⟩ := Outcome.done.inj hdone
    exact ⟨none, mended, by simp only [look, hahead'], .none, hmended⟩
  | cons b rest =>
    rw [hahead] at h
    obtain ⟨b', rest', hahead', hb, _⟩ := h.cons
    simp only [look, hahead] at hdone
    obtain ⟨rfl, rfl⟩ := Outcome.done.inj hdone
    exact ⟨some b', { mended with held := true }, by simp only [look, hahead'], .some hb, h⟩

theorem Mirrors.bind_byte {rel' : β → β → Prop} {reader : Reader (Option UInt8)}
    {next : Option UInt8 → Reader β} (h : Mirrors (Option.Rel Mends) reader reader)
    (hnone : Mirrors rel' (next none) (next none))
    (hsome : ∀ b b', Mends b b' → Mirrors rel' (next (some b)) (next (some b'))) :
    Mirrors rel' (reader >>= next) (reader >>= next) := by
  refine Mirrors.bind h ?_
  intro byte byte' hbyte
  cases hbyte with
  | none => exact hnone
  | some hb => exact hsome _ _ hb

theorem mirrors_next : Mirrors (Option.Rel Mends) Reader.next Reader.next :=
  mirrors_look.bind fun _ _ hnext => mirrored_eat.bind fun _ => mirrors_pure hnext

/-- How two turns end alike: both stop, or both go on from the same state. -/
inductive Turn.Matches (rel : α → α → Prop) : Turn σ α → Turn σ α → Prop
  | again (state : σ) : Matches rel (.again state) (.again state)
  | stop {value value' : α} : rel value value' → Matches rel (.stop value) (.stop value')

theorem left_lt_of_mended {cursor mended after after' : Cursor} (hlt : after.left < cursor.left)
    (h : Mended cursor.ahead mended.ahead) (h' : Mended after.ahead after'.ahead) :
    after'.left < mended.left := by
  rw [after'.left_eq, mended.left_eq, h.length_eq, h'.length_eq, ← after.left_eq, ← cursor.left_eq]
  exact hlt

theorem Mirrors.loop {turn : σ → Reader (Turn σ α)}
    (h : ∀ state, Mirrors (Turn.Matches rel) (turn state) (turn state)) (state : σ) :
    Mirrors rel (Reader.loop turn state) (Reader.loop turn state) := by
  intro cursor mended value after hmended hdone
  induction hleft : cursor.left using Nat.strongRecOn generalizing state cursor mended with
  | ind left ih =>
    subst hleft
    rcases loop_done hdone with hstop | ⟨state', between, hagain, hlt, hrest⟩
    · obtain ⟨_, after', hstop', hmatch, hafter⟩ := h state cursor mended _ after hmended hstop
      cases hmatch with
      | stop hrel => exact ⟨_, after', loop_stop hstop', hrel, hafter⟩
    · obtain ⟨_, mid, hagain', hmatch, hmid⟩ := h state cursor mended _ between hmended hagain
      cases hmatch with
      | again =>
        obtain ⟨value', after', hdone', hrel, hafter⟩ :=
          ih between.left hlt state' between mid hmid hrest rfl
        refine ⟨value', after', ?_, hrel, hafter⟩
        rw [loop_again hagain' (left_lt_of_mended hlt hmended hmid)]
        exact hdone'

/-- Turns that end in the same way end alike. -/
theorem Mirrored.loop {turn : σ → Reader (Turn σ α)} (h : ∀ state, Mirrored (turn state))
    (state : σ) : Mirrored (Reader.loop turn state) := by
  refine Mirrors.loop (fun state cursor mended turned after hmended hdone => ?_) state
  obtain ⟨_, after', hdone', rfl, hafter⟩ := h state cursor mended turned after hmended hdone
  refine ⟨turned, after', hdone', ?_, hafter⟩
  cases turned with
  | again state' => exact .again state'
  | stop value => exact .stop rfl

theorem Mirrored.enclosed {close : Reader Unit} {body : Reader (Except SchemaCause α)}
    (hclose : Mirrored close) (hbody : Mirrored body) : Mirrored (Reader.enclosed close body) := by
  intro cursor mended value after hmended hdone
  cases hrun : body .text cursor.advance with
  | failed fault between => simp [Reader.enclosed, hrun] at hdone
  | done result between =>
    obtain ⟨_, between', hrun', rfl, hbetween⟩ :=
      hbody cursor.advance mended.advance result between (mended_advance hmended) hrun
    cases result with
    | error cause =>
      simp only [Reader.enclosed, hrun] at hdone
      exact absurd hdone (refuses_mismatch _).not_done
    | ok read =>
      simp only [Reader.enclosed, hrun] at hdone
      simp only [Reader.enclosed, hrun']
      exact (hclose.bind fun _ => mirrors_pure rfl) between between' value after hbetween hdone

/-! Tokens. -/

theorem mirrors_token : Mirrors (Option.Rel Mends) token token := by
  refine Mirrors.loop (fun _ => ?_) ()
  refine mirrors_look.bind_byte (mirrors_pure (.stop .none)) fun b b' hb => ?_
  refine mirrors_if (by rw [hb.isBlank_eq]) ?_ (mirrors_pure (.stop (.some hb)))
  exact mirrored_eat.bind fun _ => mirrors_pure (.again ())

theorem mirrors_valueStart : Mirrors Mends valueStart valueStart :=
  mirrors_token.bind_byte (refuses_refuseNext _).mirrors fun _ _ hb => mirrors_pure hb

theorem mirrored_word {letters : List Char}
    (h : letters.all (fun c => c.toNat < 0x80 ∧ byte '?' ≠ byte c) = true) :
    Mirrored (word letters) := by
  induction letters with
  | nil => exact mirrors_pure rfl
  | cons c letters ih =>
    rw [List.all_cons, Bool.and_eq_true, decide_eq_true_iff] at h
    obtain ⟨hc, hletters⟩ := h
    refine mirrors_next.bind_byte (refuses_refuse _).mirrors fun b b' hb => ?_
    exact mirrors_if_byte hb hc (ih hletters) (refuses_refuse _).mirrors

theorem mirrored_colon : Mirrored colon :=
  mirrors_token.bind_byte (refuses_refuseNext _).mirrors fun _ _ hb =>
    mirrors_if_byte hb (by decide) mirrored_eat (refuses_refuseNext _).mirrors

theorem mirrors_comma (h : Mends b b') (bracket : Part) :
    Mirrors Eq (comma bracket b) (comma bracket b') :=
  mirrors_if_byte h (by decide) mirrored_eat (refuses_refuseNext _).mirrors

theorem mirrors_keyStart (h : Mends b b') : Mirrors Eq (keyStart b) (keyStart b') :=
  mirrors_if_byte h (by decide) (mirrors_pure rfl) (refuses_refuseNext _).mirrors

theorem mirrored_hasElement (first : Bool) : Mirrored (hasElement first) := by
  refine mirrors_token.bind_byte (refuses_refuseNext _).mirrors fun b b' hb => ?_
  refine mirrors_if_byte hb (by decide) (mirrors_pure rfl) ?_
  split
  · exact mirrors_pure rfl
  · refine (mirrors_comma hb .list).bind fun _ _ _ => ?_
    refine mirrors_token.bind_byte (refuses_refuseNext _).mirrors fun d d' hd => ?_
    exact mirrors_if_byte hd (by decide) (refuses_refuseNext _).mirrors (mirrors_pure rfl)

theorem mirrored_hasMember (first : Bool) : Mirrored (hasMember first) := by
  refine mirrors_token.bind_byte (refuses_refuseNext _).mirrors fun b b' hb => ?_
  refine mirrors_if_byte hb (by decide) (mirrors_pure rfl) ?_
  split
  · exact (mirrors_keyStart hb).bind fun _ _ _ => mirrors_pure rfl
  · refine (mirrors_comma hb .object).bind fun _ _ _ => ?_
    refine mirrors_token.bind_byte (refuses_refuseNext _).mirrors fun d d' hd => ?_
    refine mirrors_if_byte hd (by decide) (refuses_refuseNext _).mirrors ?_
    exact (mirrors_keyStart hd).bind fun _ _ _ => mirrors_pure rfl

theorem mirrored_listEnd : Mirrored listEnd := by
  refine mirrors_token.bind_byte (refuses_refuseNext _).mirrors fun b b' hb => ?_
  refine mirrors_if_byte hb (by decide) mirrored_eat (Refuses.mirrors ?_)
  split
  · refine Refuses.bind fun _ => Refuses.bind fun next => ?_
    split
    · split <;> exact refuses_refuseNext _
    · exact refuses_refuseNext _
  · exact refuses_refuseNext _

theorem mirrored_objectEnd : Mirrored objectEnd := by
  refine mirrors_token.bind_byte (refuses_refuseNext _).mirrors fun b b' hb => ?_
  refine mirrors_if_byte hb (by decide) mirrored_eat (Refuses.mirrors ?_)
  split <;> exact refuses_refuseNext _

/-! Escapes. -/

theorem mirrors_stringByte : Mirrors Mends stringByte stringByte :=
  mirrors_next.bind_byte (refuses_refuse _).mirrors fun _ _ hb => mirrors_pure hb

theorem mirrored_hexUnit : Mirrored hexUnit := by
  refine mirrors_stringByte.bind fun a a' ha => mirrors_stringByte.bind fun b b' hb => ?_
  refine mirrors_stringByte.bind fun c c' hc => mirrors_stringByte.bind fun d d' hd => ?_
  rw [ha.hexValue?_eq, hb.hexValue?_eq, hc.hexValue?_eq, hd.hexValue?_eq]
  split
  · exact mirrors_pure rfl
  · exact (refuses_refuse _).mirrors

theorem mirrored_pairByte {c : Char} (hc : c.toNat < 0x80 ∧ byte '?' ≠ byte c) :
    Mirrored (pairByte c) :=
  mirrors_stringByte.bind fun _ _ hb =>
    mirrors_if_byte hb hc (mirrors_pure rfl) (refuses_refuse _).mirrors

theorem mirrored_hexEscape : Mirrored hexEscape := by
  refine mirrored_hexUnit.bind fun unit => ?_
  split
  · exact (refuses_refuse _).mirrors
  · split
    · refine (mirrored_pairByte (by decide)).bind fun _ => ?_
      refine (mirrored_pairByte (by decide)).bind fun _ => mirrored_hexUnit.bind fun second => ?_
      split
      · exact mirrors_pure rfl
      · exact (refuses_refuse _).mirrors
    · exact mirrors_pure rfl

theorem mirrored_escape : Mirrored escape := by
  refine mirrors_stringByte.bind fun b b' hb => ?_
  refine mirrors_if_byte hb (by decide) mirrored_hexEscape ?_
  rw [hb.simpleEscape?_eq]
  split
  · exact mirrors_pure rfl
  · exact (refuses_refuse _).mirrors

theorem mirrored_skipEscape : Mirrored skipEscape := by
  refine mirrors_stringByte.bind fun b b' hb => ?_
  refine mirrors_if_byte hb (by decide) (mirrored_hexUnit.bind fun _ => mirrors_pure rfl) ?_
  rw [hb.simpleEscape?_eq]
  split
  · exact mirrors_pure rfl
  · exact (refuses_refuse _).mirrors

/-! Strings that are passed over. -/

theorem plainByte_done {cursor after : Cursor} (h : plainByte .text cursor = .done b after) :
    cursor.ahead = b :: after.ahead ∧ isControl b = false := by
  cases hahead : cursor.ahead with
  | nil =>
    simp only [plainByte, bind_apply, look, hahead] at h
    exact absurd h (refuses_refuse _).not_done
  | cons d rest =>
    cases hcontrol : isControl d with
    | true =>
      simp only [plainByte, bind_apply, look, hahead, delivery, hcontrol] at h
      exact absurd h (refuses_refuse _).not_done
    | false =>
      obtain ⟨between, hbetween, hbyte⟩ := exists_plainByte hahead hcontrol
      rw [hbyte] at h
      obtain ⟨rfl, rfl⟩ := Outcome.done.inj h
      exact ⟨by rw [hbetween], hcontrol⟩

theorem mirrors_plainByte : Mirrors Mends plainByte plainByte := by
  intro cursor mended b after hmended hdone
  obtain ⟨hahead, hcontrol⟩ := plainByte_done hdone
  rw [hahead] at hmended
  obtain ⟨b', rest', hahead', hb, hrest⟩ := hmended.cons
  obtain ⟨after', rfl, hdone'⟩ := exists_plainByte hahead' (hb.isControl_eq.trans hcontrol)
  exact ⟨b', after', hdone', hb, hrest⟩

theorem mirrored_skipString : Mirrored skipString := by
  refine Mirrored.loop (fun _ => mirrors_plainByte.bind fun b b' hb => ?_) ()
  refine mirrors_if_byte hb (by decide) (mirrors_pure rfl) ?_
  refine mirrors_if_byte hb (by decide) ?_ (mirrors_pure rfl)
  exact mirrored_skipEscape.bind fun _ => mirrors_pure rfl

/-! Values that are passed over. -/

theorem mirrored_skipDigits : Mirrored skipDigits := by
  refine Mirrored.loop (fun count => ?_) 0
  refine mirrors_look.bind_byte (mirrors_pure rfl) fun b b' hb => ?_
  exact mirrors_if_digit hb (mirrored_eat.bind fun _ => mirrors_pure rfl) (mirrors_pure rfl)

theorem mirrored_exponentSign : Mirrored exponentSign := by
  have heat : ∀ positive : Bool, Mirrored (do eat; pure positive) :=
    fun _ => mirrored_eat.bind fun _ => mirrors_pure rfl
  refine mirrors_look.bind_byte (mirrors_pure rfl) fun b b' hb => ?_
  refine mirrors_if_byte hb (by decide) (heat true) ?_
  exact mirrors_if_byte hb (by decide) (heat false) (mirrors_pure rfl)

theorem mirrored_skipExponent : Mirrored skipExponent := by
  refine mirrors_look.bind_byte (mirrors_pure rfl) fun b b' hb => ?_
  refine mirrors_if (by rw [hb.startsExponent_eq]) ?_ (mirrors_pure rfl)
  refine mirrored_eat.bind fun _ => mirrored_exponentSign.bind fun _ => ?_
  refine mirrors_next.bind_byte (refuses_refuse _).mirrors fun d d' hd => ?_
  refine mirrors_if_digit hd ?_ (refuses_refuse _).mirrors
  exact mirrored_skipDigits.bind fun _ => mirrors_pure rfl

theorem mirrored_skipFraction : Mirrored skipFraction := by
  refine mirrors_look.bind_byte (mirrors_pure rfl) fun b b' hb => ?_
  refine mirrors_if_byte hb (by decide) ?_ mirrored_skipExponent
  refine mirrored_eat.bind fun _ => mirrored_skipDigits.bind fun count => ?_
  split
  · exact (refuses_refuseNext _).mirrors
  · exact mirrored_skipExponent

theorem mirrored_skipNumber : Mirrored skipNumber := by
  refine mirrors_next.bind_byte (refuses_refuse _).mirrors fun b b' hb => ?_
  refine mirrors_if_byte hb (by decide) ?_ ?_
  · refine mirrors_look.bind_byte mirrored_skipFraction fun d d' hd => ?_
    exact mirrors_if_digit hd (refuses_refuseNext _).mirrors mirrored_skipFraction
  · refine mirrors_if_digit hb ?_ (refuses_refuse _).mirrors
    exact mirrored_skipDigits.bind fun _ => mirrored_skipFraction

theorem mirrored_skipStart : Mirrored skipStart := by
  have hleaf : ∀ {rest : Reader Unit}, Mirrored rest → Mirrored (skipStart.leaf rest) :=
    fun h => mirrored_eat.bind fun _ => h.bind fun _ => mirrors_pure rfl
  have hopen : ∀ bracket : Bracket, Mirrored (do eat; pure (some bracket)) :=
    fun _ => mirrored_eat.bind fun _ => mirrors_pure rfl
  refine mirrors_valueStart.bind fun b b' hb => ?_
  refine mirrors_if_byte hb (by decide) (hleaf (mirrored_word (by decide))) ?_
  refine mirrors_if_byte hb (by decide) (hleaf (mirrored_word (by decide))) ?_
  refine mirrors_if_byte hb (by decide) (hleaf (mirrored_word (by decide))) ?_
  refine mirrors_if_byte hb (by decide) (hleaf mirrored_skipNumber) ?_
  refine mirrors_if_digit hb (mirrored_skipNumber.bind fun _ => mirrors_pure rfl) ?_
  refine mirrors_if_byte hb (by decide) (hleaf mirrored_skipString) ?_
  refine mirrors_if_byte hb (by decide) (hopen .list) ?_
  exact mirrors_if_byte hb (by decide) (hopen .object) (refuses_refuseNext _).mirrors

theorem mirrored_closeBrackets (brackets : List Bracket) (fresh : Bool) :
    Mirrored (closeBrackets brackets fresh) := by
  refine Mirrored.loop (fun (brackets, fresh) => ?_) (brackets, fresh)
  cases brackets with
  | nil => exact mirrors_pure rfl
  | cons top rest =>
    refine mirrors_token.bind_byte (refuses_refuseNext _).mirrors fun b b' hb => ?_
    have hclose : top.closeChar.toNat < 0x80 ∧ byte '?' ≠ byte top.closeChar := by
      cases top <;> decide
    rw [top.closing_eq]
    refine mirrors_if_byte hb hclose (mirrored_eat.bind fun _ => mirrors_pure rfl) ?_
    split
    · exact mirrors_pure rfl
    · exact (mirrors_comma hb _).bind fun _ _ _ => mirrors_pure rfl

theorem mirrored_skipKey : Mirrored skipKey := by
  refine mirrors_token.bind_byte (refuses_refuseNext _).mirrors fun b b' hb => ?_
  refine (mirrors_keyStart hb).bind fun _ _ _ => mirrored_eat.bind fun _ => ?_
  exact mirrored_skipString.bind fun _ => mirrored_colon

theorem mirrored_skipValue : Mirrored skipValue := by
  refine Mirrored.loop (fun brackets => mirrored_skipStart.bind fun opened => ?_) []
  refine (mirrored_closeBrackets _ _).bind fun left => ?_
  split
  · exact mirrors_pure rfl
  · exact mirrors_pure rfl
  · exact mirrored_skipKey.bind fun _ => mirrors_pure rfl

end Reader

end ShaderBinding
