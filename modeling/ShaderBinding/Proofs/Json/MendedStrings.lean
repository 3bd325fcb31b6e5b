import ShaderBinding.Proofs.Json.Mended

/-! Strings that are kept, read from bytes that need not be a text. A broken byte among them would
stay in what is collected, and the escapes, each of which spells a whole character, cannot make a
text of it. -/

namespace ShaderBinding

namespace Reader

open Json Utf8

variable {b : UInt8}

theorem stringByte_done {cursor after : Cursor} (h : stringByte .text cursor = .done b after) :
    cursor.ahead = b :: after.ahead := by
  cases hahead : cursor.ahead with
  | nil =>
    have hnext : Reader.next .text cursor = .done none cursor.advance := by
      simp only [Reader.next, bind_apply, look, hahead]
      rfl
    rw [stringByte, bind_apply, hnext] at h
    exact absurd h (refuses_refuse _).not_done
  | cons d rest =>
    obtain ⟨between, hbetween, hbyte⟩ := exists_stringByte hahead
    rw [hbyte] at h
    obtain ⟨rfl, rfl⟩ := Outcome.done.inj h
    rw [hbetween]

/-- What a turn over a string takes: the closing quote, an escape, or a byte that stands for
itself. -/
theorem stringTurn_done {collected : List UInt8} {cursor after : Cursor}
    {turned : Turn (List UInt8) (List UInt8)}
    (h : stringTurn collected .text cursor = .done turned after) :
    (cursor.ahead = byte '"' :: after.ahead ∧ turned = .stop collected) ∨
      (∃ between c, cursor.ahead = byte '\\' :: between.ahead ∧
        escape .text between = .done c after ∧
          turned = .again ((String.utf8EncodeChar c).reverse ++ collected)) ∨
      ∃ b, cursor.ahead = b :: after.ahead ∧ turned = .again (b :: collected) ∧
        b ≠ byte '"' ∧ b ≠ byte '\\' ∧ isControl b = false := by
  obtain ⟨b, between, hbyte, hnext⟩ := exists_of_bind_done h
  have hahead := stringByte_done hbyte
  by_cases hquote : b = byte '"'
  · rw [if_pos hquote] at hnext
    obtain ⟨rfl, rfl⟩ := Outcome.done.inj hnext
    exact .inl ⟨hquote ▸ hahead, rfl⟩
  · rw [if_neg hquote] at hnext
    by_cases hback : b = byte '\\'
    · rw [if_pos hback] at hnext
      obtain ⟨c, mid, hescape, hlast⟩ := exists_of_bind_done hnext
      obtain ⟨rfl, rfl⟩ := Outcome.done.inj hlast
      exact .inr (.inl ⟨between, c, hback ▸ hahead, hescape, rfl⟩)
    · rw [if_neg hback] at hnext
      cases hcontrol : isControl b with
      | true =>
        rw [if_pos hcontrol] at hnext
        exact absurd hnext (refuses_refuse _).not_done
      | false =>
        rw [if_neg (Bool.eq_false_iff.mp hcontrol)] at hnext
        obtain ⟨rfl, rfl⟩ := Outcome.done.inj hnext
        exact .inr (.inr ⟨b, hahead, rfl, hquote, hback, hcontrol⟩)

/-- What is collected stands behind what has been. Where it starts with bytes that go on with a
character, these are bytes ahead, since every escape spells a whole character. -/
theorem exists_collected {collected bytes : List UInt8} {cursor after : Cursor}
    (h : loop stringTurn collected .text cursor = .done bytes after) :
    ∃ tail, bytes = tail.reverse ++ collected ∧ ∀ more others, tail = more ++ others →
      (∀ k ∈ more, isContinuation k = true) → more <+: cursor.ahead := by
  induction hleft : cursor.left using Nat.strongRecOn generalizing collected cursor with
  | ind left ih =>
    subst hleft
    rcases loop_done h with hstop | ⟨state, between, hagain, hlt, hrest⟩
    · rcases stringTurn_done hstop with ⟨_, he⟩ | ⟨_, _, _, _, hno⟩ | ⟨_, _, hno, _⟩
      · cases he
        refine ⟨[], rfl, fun more others he _ => ?_⟩
        obtain ⟨rfl, _⟩ := List.append_eq_nil_iff.mp he.symm
        exact List.nil_prefix
      · cases hno
      · cases hno
    · obtain ⟨tail, rfl, htail⟩ := ih between.left hlt hrest rfl
      rcases stringTurn_done hagain with ⟨_, hno⟩ | ⟨_, c, _, _, he⟩ | ⟨b, hahead, he, _⟩
      · cases hno
      · cases he
        refine ⟨String.utf8EncodeChar c ++ tail, by simp, fun more others he hmore => ?_⟩
        cases more with
        | nil => exact List.nil_prefix
        | cons k more =>
          obtain ⟨first, rest, hencode, hfirst, _⟩ := exists_encodeChar_eq c
          rw [hencode] at he
          obtain rfl : first = k := (List.cons.inj he).1
          rw [hmore first (by simp)] at hfirst
          cases hfirst
      · cases he
        refine ⟨b :: tail, by simp, fun more others he hmore => ?_⟩
        cases more with
        | nil => exact List.nil_prefix
        | cons k more =>
          obtain ⟨rfl, rfl⟩ := List.cons.inj he
          rw [hahead, List.prefix_cons_inj]
          exact htail more others rfl fun k hk => hmore k (by simp [hk])

/-- A character stands for itself in a string when its first byte does. -/
theorem plain_of_first {d : Char} {rest others : List UInt8}
    (he : b :: rest = String.utf8EncodeChar d ++ others) (hquote : b ≠ byte '"')
    (hback : b ≠ byte '\\') (hcontrol : isControl b = false) :
    0x20 ≤ d.toNat ∧ d ≠ '"' ∧ d ≠ '\\' := by
  obtain ⟨first, more, hencode, _⟩ := exists_encodeChar_eq d
  rw [hencode, List.cons_append] at he
  have hlead : lead d = b := by
    rw [lead, hencode, (List.cons.inj he).1]
    rfl
  rw [← hlead] at hquote hback hcontrol
  rw [isControl_lead, decide_eq_false_iff_not] at hcontrol
  refine ⟨Nat.le_of_not_lt hcontrol, ?_, ?_⟩
  · exact fun hd => hquote ((lead_eq_byte_iff (by decide)).mpr hd)
  · exact fun hd => hback ((lead_eq_byte_iff (by decide)).mpr hd)

theorem exists_mended_byte {a : Char} {rest : List UInt8} {mended : Cursor}
    (ha : a.toNat < 0x80 ∧ byte '?' ≠ byte a) (h : Mended (byte a :: rest) mended.ahead) :
    ∃ after : Cursor,
      stringByte .text mended = .done (byte a) after ∧ Mended rest after.ahead := by
  obtain ⟨b', rest', hahead, hb, hrest⟩ := h.cons
  obtain rfl := (hb.eq_byte_iff ha).mpr rfl
  obtain ⟨after, rfl, hbyte⟩ := exists_stringByte hahead
  exact ⟨after, hbyte, hrest⟩

theorem eq_append_of_reverse {bytes front tail collected : List UInt8}
    (h : bytes.reverse ++ collected = tail.reverse ++ (front.reverse ++ collected)) :
    bytes = front ++ tail := by
  rw [← List.append_assoc, ← List.reverse_append] at h
  exact List.reverse_inj.mp (List.append_cancel_right h)

/-- What is collected from a character that stands for itself on starts with that character. -/
theorem exists_text_of_collect {collected front : List UInt8} {text : List Char} {d : Char}
    {cursor after : Cursor} (hfront : front = String.utf8EncodeChar d)
    (h : loop stringTurn (front.reverse ++ collected) .text cursor =
      .done ((encode text).reverse ++ collected) after) :
    ∃ text', (encode text).reverse ++ collected =
      (encode text').reverse ++ (front.reverse ++ collected) := by
  obtain ⟨tail, htail, _⟩ := exists_collected h
  have hencode := congrArg decode (eq_append_of_reverse htail)
  rw [decode_encode, hfront, decode_encodeChar, push_toNat] at hencode
  have hrest := congrArg Prod.snd hencode
  have htext := encode_decode tail
  rw [← hrest, List.append_nil] at htext
  exact ⟨(decode tail).1, by rw [htext, htail]⟩

/-- What is collected from inside a character on is no text. -/
theorem eq_encode_mend_of_collect {collected : List UInt8} {text : List Char}
    {cursor mended after : Cursor} (hmended : Mended cursor.ahead mended.ahead)
    (h : loop stringTurn collected .text cursor =
      .done ((encode text).reverse ++ collected) after) :
    mended.ahead = encode (mend cursor.ahead) := by
  obtain ⟨inside, rest, hinside, hahead, hahead'⟩ := hmended
  cases inside with
  | nil => rw [hahead', hahead, List.nil_append, List.nil_append]
  | cons k inside =>
    have hk := hinside k (by simp)
    have hle := le_of_isContinuation hk
    have hplain : ∀ b ∈ [k], b ≠ byte '"' ∧ b ≠ byte '\\' ∧ isControl b = false := by
      intro b hb
      obtain rfl := List.mem_singleton.mp hb
      exact ⟨ne_byte_of_le hle (by decide), ne_byte_of_le hle (by decide), isControl_of_byte_le hle⟩
    have hahead : cursor.ahead = [k] ++ (inside ++ rest) := hahead
    obtain ⟨between, _, hrun⟩ := exists_collect hahead hplain
    obtain ⟨tail, htail, _⟩ := exists_collected (hrun.symm.trans h)
    exact absurd (eq_append_of_reverse htail).symm (ne_encode_of_isContinuation hk text)

/-- The bytes of a character that stands for itself are taken at once. -/
theorem exists_collect_char {collected others : List UInt8} {d : Char} {cursor mended : Cursor}
    (h : cursor.ahead = String.utf8EncodeChar d ++ others)
    (hmended : mended.ahead = encode (mend cursor.ahead))
    (hplain : 0x20 ≤ d.toNat ∧ d ≠ '"' ∧ d ≠ '\\') : ∃ last last',
      loop stringTurn collected .text cursor =
        loop stringTurn ((String.utf8EncodeChar d).reverse ++ collected) .text last ∧
      loop stringTurn collected .text mended =
        loop stringTurn ((String.utf8EncodeChar d).reverse ++ collected) .text last' ∧
      last.left < cursor.left ∧ Mended last.ahead last'.ahead := by
  have hbytes := fun b hb => plain_of_mem_encodeChar hplain.1 hplain.2.1 hplain.2.2 (b := b) hb
  rw [h, mend_char, encode_cons] at hmended
  obtain ⟨last, rfl, hrun⟩ := exists_collect h hbytes
  obtain ⟨last', hlast', hrun'⟩ := exists_collect hmended hbytes
  refine ⟨last, last', hrun, hrun', ?_, hlast' ▸ mended_mend last.ahead⟩
  have hpos := List.length_pos_iff.mpr (String.utf8EncodeChar_ne_nil (c := d))
  rw [last.left_eq, cursor.left_eq, h, List.length_append]
  omega

theorem exists_mended_escape {collected : List UInt8} {cursor mended start between : Cursor}
    {c : Char} (hahead : cursor.ahead = byte '\\' :: start.ahead)
    (hescape : escape .text start = .done c between)
    (hmended : Mended cursor.ahead mended.ahead) : ∃ between', stringTurn collected .text mended =
      .done (.again ((String.utf8EncodeChar c).reverse ++ collected)) between' ∧
        Mended between.ahead between'.ahead := by
  rw [hahead] at hmended
  obtain ⟨start', hbyte, hstart⟩ := exists_mended_byte (by decide) hmended
  obtain ⟨_, between', hescape', rfl, hbetween⟩ :=
    mirrored_escape start start' c between hstart hescape
  refine ⟨between', ?_, hbetween⟩
  have hquote : byte '\\' ≠ byte '"' := by decide
  rw [stringTurn, bind_apply, hbyte]
  simp only [hquote, if_false, if_true, bind_apply, hescape']
  rfl

/-- When what is collected from some bytes is a text, the same is collected from the mended bytes. -/
theorem exists_mended_collect {collected : List UInt8} {text : List Char}
    {cursor mended after : Cursor} (hmended : Mended cursor.ahead mended.ahead)
    (h : loop stringTurn collected .text cursor =
      .done ((encode text).reverse ++ collected) after) :
    ∃ after', loop stringTurn collected .text mended =
      .done ((encode text).reverse ++ collected) after' ∧ Mended after.ahead after'.ahead := by
  induction hleft : cursor.left using Nat.strongRecOn generalizing collected text cursor mended with
  | ind left ih =>
    subst hleft
    rcases loop_done h with hstop | ⟨state, between, hagain, hlt, hrest⟩
    · rcases stringTurn_done hstop with ⟨hquote, he⟩ | ⟨_, _, _, _, hno⟩ | ⟨_, _, hno, _⟩
      · rw [hquote] at hmended
        obtain ⟨after', hbyte, hafter⟩ := exists_mended_byte (by decide) hmended
        refine ⟨after', loop_stop ?_, hafter⟩
        rw [stringTurn, bind_apply, hbyte, he]
        rfl
      · cases hno
      · cases hno
    · rcases stringTurn_done hagain with ⟨_, hno⟩ | ⟨start, c, hback, hescape, he⟩ |
        ⟨b, hbyte, he, hquote, hback, hcontrol⟩
      · cases hno
      · cases he
        obtain ⟨between', hagain', hbetween⟩ := exists_mended_escape hback hescape hmended
        obtain ⟨text', htext⟩ := exists_text_of_collect rfl hrest
        rw [htext] at hrest ⊢
        rw [loop_again hagain' (left_lt_of_mended hlt hmended hbetween)]
        exact ih between.left hlt hbetween hrest rfl
      · cases he
        rcases exists_char_or_broken b between.ahead with ⟨d, others, he⟩ | hbroken
        · have hplain := plain_of_first he hquote hback hcontrol
          obtain ⟨last, last', hrun, hrun', hlast, hmended'⟩ :=
            exists_collect_char (hbyte.trans he) (eq_encode_mend_of_collect hmended h) hplain
          rw [hrun] at h
          obtain ⟨text', htext⟩ := exists_text_of_collect rfl h
          rw [htext] at h ⊢
          rw [hrun']
          exact ih last.left hlast hmended' h rfl
        · obtain ⟨tail, htail, hcontinues⟩ := exists_collected hrest
          have hbytes : encode text = [b] ++ tail := eq_append_of_reverse htail
          exact absurd hbytes.symm (hbroken.not_collected hcontinues text)

theorem mirrored_string : Mirrored string := by
  intro cursor mended value after hmended hdone
  obtain ⟨bytes, mid, hbytes, hlast⟩ := exists_of_bind_done hdone
  have hencode := encode_decode bytes.reverse
  cases hdecode : decode bytes.reverse with
  | mk text broken =>
    rw [hdecode] at hencode hlast
    cases broken with
    | cons b broken => exact absurd hlast (by rintro ⟨⟩)
    | nil =>
      have hreverse : bytes = (encode text).reverse ++ [] := by
        rw [List.append_nil] at hencode ⊢
        exact List.reverse_eq_iff.mp hencode.symm
      obtain ⟨after', hbytes', hafter⟩ := exists_mended_collect hmended (hreverse ▸ hbytes)
      obtain ⟨rfl, rfl⟩ := Outcome.done.inj hlast
      refine ⟨_, after', ?_, rfl, hafter⟩
      rw [string, bind_apply, stringBytes, hbytes', ← hreverse]
      simp only [hdecode]
      rfl

end Reader

end ShaderBinding
