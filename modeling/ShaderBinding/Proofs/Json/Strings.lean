import ShaderBinding.Proofs.Json.Lexemes
import ShaderBinding.Json.Ignored

/-! Strings. The readers accept the strings of the grammar: those that are kept must denote a text,
which is then what is read. -/

namespace ShaderBinding

namespace Json

theorem hexDigit?_lt {c : Char} {n : Nat} (h : hexDigit? c = some n) :
    n < 16 ∧ c.toNat < 0x80 := by
  have hval : ∀ a b : Char, a ≤ b ↔ a.toNat ≤ b.toNat := fun _ _ => Iff.rfl
  simp only [hexDigit?, hval] at h
  have h0 : '0'.toNat = 48 := rfl
  have h9 : '9'.toNat = 57 := rfl
  have ha : 'a'.toNat = 97 := rfl
  have hf : 'f'.toNat = 102 := rfl
  have hA : 'A'.toNat = 65 := rfl
  have hF : 'F'.toNat = 70 := rfl
  split at h
  · cases h
    omega
  · split at h
    · cases h
      omega
    · split at h
      · cases h
        omega
      · cases h

theorem SpellsUnit.lt {chars rest : List Char} {number : Nat} (h : SpellsUnit chars number rest) :
    number < 0x10000 := by
  cases h with
  | mk ha hb hc hd =>
    have hi := (hexDigit?_lt ha).1
    have hj := (hexDigit?_lt hb).1
    have hk := (hexDigit?_lt hc).1
    have hl := (hexDigit?_lt hd).1
    omega

/-! Characters and their units. -/

theorem utf16_of_lt {c : Char} (h : c.toNat < 0x10000) : utf16 c = [c.toNat] := if_pos h

theorem utf16_of_le {c : Char} (h : 0x10000 ≤ c.toNat) : ∃ leading trailing,
    utf16 c = [leading, trailing] ∧ isLeadingSurrogate leading = true ∧
      isTrailingSurrogate trailing = true ∧ surrogatePair leading trailing = c := by
  have hlt : c.toNat < 0x110000 := by
    have hvalid : c.toNat.isValidChar := c.valid
    rcases hvalid with h | h <;> omega
  refine ⟨_, _, if_neg (Nat.not_lt.mpr h), ?_, ?_, ?_⟩
  · simp only [isLeadingSurrogate, Bool.and_eq_true, decide_eq_true_eq]
    omega
  · simp only [isTrailingSurrogate, Bool.and_eq_true, decide_eq_true_eq]
    omega
  · rw [surrogatePair]
    have hsum : 0x10000 + (0xD800 + (c.toNat - 0x10000) / 0x400 - 0xD800) * 0x400 +
        (0xDC00 + (c.toNat - 0x10000) % 0x400 - 0xDC00) = c.toNat := by
      omega
    rw [hsum, Char.ofNat_toNat]

theorem toNat_ofNat_of_valid {n : Nat} (h : n.isValidChar) : (Char.ofNat n).toNat = n := by
  rw [Char.ofNat, dif_pos h]
  rfl

/-- No unit of its own is a surrogate. -/
theorem utf16_ofNat {n : Nat} (hlt : n < 0x10000) (h : isLeadingSurrogate n = false)
    (h' : isTrailingSurrogate n = false) : utf16 (Char.ofNat n) = [n] := by
  have hvalid : n.isValidChar := by
    simp only [isLeadingSurrogate, isTrailingSurrogate, Bool.and_eq_false_iff,
      decide_eq_false_iff_not] at h h'
    unfold Nat.isValidChar
    omega
  have hnat := toNat_ofNat_of_valid hvalid
  rw [utf16_of_lt (by omega), hnat]

theorem utf16_surrogatePair {leading trailing : Nat} (h : isLeadingSurrogate leading = true)
    (h' : isTrailingSurrogate trailing = true) :
    utf16 (surrogatePair leading trailing) = [leading, trailing] := by
  simp only [isLeadingSurrogate, isTrailingSurrogate, Bool.and_eq_true, decide_eq_true_eq] at h h'
  have hvalid : (0x10000 + (leading - 0xD800) * 0x400 + (trailing - 0xDC00)).isValidChar := by
    unfold Nat.isValidChar
    omega
  have hnat := toNat_ofNat_of_valid hvalid
  rw [surrogatePair, utf16, hnat, if_neg (by omega)]
  have hsum : 0x10000 + (leading - 0xD800) * 0x400 + (trailing - 0xDC00) - 0x10000 =
      (leading - 0xD800) * 0x400 + (trailing - 0xDC00) := by
    omega
  have hdiv : 0xD800 + ((leading - 0xD800) * 0x400 + (trailing - 0xDC00)) / 0x400 = leading := by
    omega
  have hmod : 0xDC00 + ((leading - 0xD800) * 0x400 + (trailing - 0xDC00)) % 0x400 = trailing := by
    omega
  rw [hsum, hdiv, hmod]

theorem not_surrogate (c : Char) :
    isLeadingSurrogate c.toNat = false ∧ isTrailingSurrogate c.toNat = false := by
  have hvalid : c.toNat.isValidChar := c.valid
  simp only [isLeadingSurrogate, isTrailingSurrogate, Bool.and_eq_false_iff,
    decide_eq_false_iff_not]
  rcases hvalid with h | h <;> omega

/-- The units of a character are told apart from what follows them. -/
theorem units_append_inj {c d : Char} {items items' : List Item}
    (h : (utf16 c).map Item.unit ++ items = (utf16 d).map Item.unit ++ items') :
    c = d ∧ items = items' := by
  have hmixed : ∀ {a b : Char} {items items' : List Item}, a.toNat < 0x10000 → ¬ b.toNat < 0x10000 →
      (utf16 a).map Item.unit ++ items ≠ (utf16 b).map Item.unit ++ items' := by
    intro a b items items' ha hb he
    obtain ⟨leading, trailing, hunits, hleading, _⟩ := utf16_of_le (Nat.le_of_not_lt hb)
    rw [utf16_of_lt ha, hunits] at he
    obtain rfl : a.toNat = leading := Item.unit.inj (List.cons.inj he).1
    rw [(not_surrogate a).1] at hleading
    cases hleading
  by_cases hc : c.toNat < 0x10000
  · by_cases hd : d.toNat < 0x10000
    · rw [utf16_of_lt hc, utf16_of_lt hd] at h
      obtain ⟨hunit, hitems⟩ := List.cons.inj h
      exact ⟨Char.toNat_inj.mp (Item.unit.inj hunit), hitems⟩
    · exact absurd h (hmixed hc hd)
  · by_cases hd : d.toNat < 0x10000
    · exact absurd h.symm (hmixed hd hc)
    · obtain ⟨leading, trailing, hunits, _, _, hpair⟩ := utf16_of_le (Nat.le_of_not_lt hc)
      obtain ⟨leading', trailing', hunits', _, _, hpair'⟩ := utf16_of_le (Nat.le_of_not_lt hd)
      rw [hunits, hunits'] at h
      obtain ⟨hleading, hrest⟩ := List.cons.inj h
      obtain ⟨htrailing, hitems⟩ := List.cons.inj hrest
      refine ⟨?_, hitems⟩
      rw [← hpair, ← hpair', Item.unit.inj hleading, Item.unit.inj htrailing]

theorem exists_units_eq_cons (c : Char) (items : List Item) :
    ∃ number rest, (utf16 c).map Item.unit ++ items = .unit number :: rest := by
  by_cases hc : c.toNat < 0x10000
  · exact ⟨c.toNat, items, by rw [utf16_of_lt hc]; rfl⟩
  · obtain ⟨leading, trailing, hunits, _⟩ := utf16_of_le (Nat.le_of_not_lt hc)
    exact ⟨leading, .unit trailing :: items, by rw [hunits]; rfl⟩

theorem Denotes.unique {items : List Item} {text text' : List Char} (h : Denotes items text)
    (h' : Denotes items text') : text = text' := by
  induction h generalizing text' with
  | nil =>
    generalize hitems : ([] : List Item) = items at h'
    cases h' with
    | nil => rfl
    | char c _ => cases hitems
    | @units items _ c _ =>
      obtain ⟨number, rest, he⟩ := exists_units_eq_cons c items
      cases hitems.trans he
  | @char items _ c _ ih =>
    generalize hitems : Item.char c :: items = items' at h'
    cases h' with
    | nil => cases hitems
    | char d h' =>
      cases hitems
      rw [ih h']
    | @units items' _ d _ =>
      obtain ⟨number, rest, he⟩ := exists_units_eq_cons d items'
      cases hitems.trans he
  | @units items _ c _ ih =>
    generalize hitems : (utf16 c).map Item.unit ++ items = items' at h'
    obtain ⟨number, rest, he⟩ := exists_units_eq_cons c items
    cases h' with
    | nil => cases he.symm.trans hitems
    | char d h' => cases he.symm.trans hitems
    | units d h' =>
      obtain ⟨rfl, rfl⟩ := units_append_inj hitems
      rw [ih h']

theorem toNat_lt_of_not_plain {c : Char} (h : ¬ (0x20 ≤ c.toNat ∧ c ≠ '"' ∧ c ≠ '\\')) :
    c.toNat < 0x80 := by
  by_cases hquote : c = '"'
  · subst hquote
    decide
  · by_cases hback : c = '\\'
    · subst hback
      decide
    · have hlt : c.toNat < 0x20 := Nat.lt_of_not_le fun hle => h ⟨hle, hquote, hback⟩
      omega

theorem plain_of_mem_encodeChar {c : Char} (h : 0x20 ≤ c.toNat) (hquote : c ≠ '"')
    (hback : c ≠ '\\') {b : UInt8} (hb : b ∈ String.utf8EncodeChar c) :
    b ≠ byte '"' ∧ b ≠ byte '\\' ∧ isControl b = false := by
  by_cases hc : c.toNat < 0x80
  · have hlead := lead_of_lt hc
    rw [Utf8.encodeChar_of_lt hc, List.mem_singleton] at hb
    have hbyte : b = lead c := hb.trans hlead.symm
    subst hbyte
    refine ⟨?_, ?_, ?_⟩
    · exact fun he => hquote ((lead_eq_byte_iff (by decide)).mp he)
    · exact fun he => hback ((lead_eq_byte_iff (by decide)).mp he)
    · rw [isControl_lead]
      exact decide_eq_false (Nat.not_lt.mpr h)
  · have hle := Utf8.le_of_mem_encodeChar (Nat.le_of_not_lt hc) hb
    exact ⟨ne_byte_of_le hle (by decide), ne_byte_of_le hle (by decide), isControl_of_byte_le hle⟩

end Json

namespace Reader

open Json

variable {α : Type} {chars mid rest : List Char} {c : Char} {items : List Item} {text : List Char}

theorem reads_stringByte (hc : c.toNat < 0x80) (rest : List Char) :
    Reads stringByte (c :: rest) (lead c) rest :=
  Reads.bind (reads_next hc rest) (LeadsTo.refl _ _)

theorem accepts_stringByte {next : UInt8 → Reader α} {post : α → List Char → Prop}
    (hlow : ∀ c rest, chars = c :: rest → c.toNat < 0x80 → Accepts (next (lead c)) rest post)
    (hhigh : ∀ b : UInt8, 0x80 ≤ b → Refuses (next b)) :
    Accepts (stringByte >>= next) chars post := by
  rw [stringByte, bind_assoc]
  exact accepts_next ((refuses_refuse _).bind_left next) hlow hhigh

theorem exists_stringByte {cursor : Cursor} {b : UInt8} {ahead : List UInt8}
    (h : cursor.ahead = b :: ahead) : ∃ after : Cursor,
      after.ahead = ahead ∧ stringByte .text cursor = .done b after := by
  have hlook : look .text cursor = .done (some b) { cursor with held := true } := by
    simp only [look, h]
  have hahead : { cursor with held := true }.ahead = b :: ahead := h
  refine ⟨_, ahead_advance hahead, ?_⟩
  simp only [stringByte, Reader.next, bind_apply, hlook]
  rfl

/-! Escapes. -/

theorem reads_hexUnit {number : Nat} (h : SpellsUnit chars number rest) :
    Reads hexUnit chars number rest := by
  cases h with
  | @mk a b c d i j k l _ ha hb hc hd =>
    refine Reads.bind (reads_stringByte (hexDigit?_lt ha).2 _) ?_
    refine Reads.bind (reads_stringByte (hexDigit?_lt hb).2 _) ?_
    refine Reads.bind (reads_stringByte (hexDigit?_lt hc).2 _) ?_
    refine Reads.bind (reads_stringByte (hexDigit?_lt hd).2 _) ?_
    simp only [hexValue?_lead, ha, hb, hc, hd]
    exact LeadsTo.refl _ _

theorem accepts_hexUnit : Accepts hexUnit chars fun number rest => SpellsUnit chars number rest := by
  refine accepts_stringByte ?_ ?_
  · rintro a chars rfl _
    refine accepts_stringByte ?_ ?_
    · rintro b chars rfl _
      refine accepts_stringByte ?_ ?_
      · rintro c chars rfl _
        refine accepts_stringByte ?_ ?_
        · rintro d chars rfl _
          simp only [hexValue?_lead]
          split
          · rename_i i j k l ha hb hc hd
            exact accepts_pure (.mk ha hb hc hd)
          · exact (refuses_refuse _).accepts
        · intro d hd
          rw [hexValue?_of_byte_le hd]
          split
          · contradiction
          · exact refuses_refuse _
      · intro c hc
        rw [hexValue?_of_byte_le hc]
        refine Refuses.bind fun _ => ?_
        split
        · contradiction
        · exact refuses_refuse _
    · intro b hb
      rw [hexValue?_of_byte_le hb]
      refine Refuses.bind fun _ => Refuses.bind fun _ => ?_
      split
      · contradiction
      · exact refuses_refuse _
  · intro a ha
    rw [hexValue?_of_byte_le ha]
    refine Refuses.bind fun _ => Refuses.bind fun _ => Refuses.bind fun _ => ?_
    exact refuses_refuse _

theorem reads_pairByte (hc : c.toNat < 0x80) (rest : List Char) :
    Reads (pairByte c) (c :: rest) () rest :=
  Reads.bind (reads_stringByte hc rest) (leadsTo_if_pos hc (LeadsTo.refl _ _))

theorem accepts_pairByte (hc : c.toNat < 0x80) :
    Accepts (pairByte c) chars fun _ rest => chars = c :: rest := by
  refine accepts_stringByte ?_ ?_
  · rintro d rest rfl _
    refine accepts_if hc ?_ (fun _ => (refuses_refuse _).accepts)
    rintro rfl
    exact accepts_pure rfl
  · intro b hb
    rw [if_neg (ne_byte_of_le hb hc)]
    exact refuses_refuse _

/-- The units of a character at the start of a string are read as that character. -/
theorem reads_hexEscape (h : SpellsItems chars ((utf16 c).map .unit ++ items) rest) :
    ∃ start mid, chars = '\\' :: 'u' :: start ∧ mid <:+ start ∧
      Reads hexEscape start c mid ∧ SpellsItems mid items rest := by
  by_cases hc : c.toNat < 0x10000
  · rw [utf16_of_lt hc] at h
    obtain ⟨hleading, htrailing⟩ := not_surrogate c
    cases h with
    | more hitem hitems =>
      cases hitem with
      | unit hunit =>
        refine ⟨_, _, rfl, hunit.suffix, ?_, hitems⟩
        refine Reads.bind (reads_hexUnit hunit) ?_
        simp only [hleading, htrailing, Bool.false_eq_true, if_false, Char.ofNat_toNat]
        exact LeadsTo.refl _ _
  · obtain ⟨leading, trailing, hunits, hleading, htrailing, hpair⟩ :=
      utf16_of_le (Nat.le_of_not_lt hc)
    rw [hunits] at h
    cases h with
    | more hitem hitems =>
      cases hitem with
      | unit hunit =>
        cases hitems with
        | more hitem' hitems' =>
          cases hitem' with
          | unit hunit' =>
            have hsuffix := hunit'.suffix.trans ((List.suffix_cons 'u' _).trans
              ((List.suffix_cons '\\' _).trans hunit.suffix))
            refine ⟨_, _, rfl, hsuffix, ?_, hitems'⟩
            refine Reads.bind (reads_hexUnit hunit) ?_
            have hnot : isTrailingSurrogate leading = false := by
              simp only [isLeadingSurrogate, isTrailingSurrogate, Bool.and_eq_true,
                Bool.and_eq_false_iff, decide_eq_true_eq, decide_eq_false_iff_not] at *
              omega
            simp only [hnot, hleading, Bool.false_eq_true, if_false, if_true]
            refine Reads.bind (reads_pairByte (by decide) _) ?_
            refine Reads.bind (reads_pairByte (by decide) _) ?_
            refine Reads.bind (reads_hexUnit hunit') ?_
            simp only [htrailing, if_true, hpair]
            exact LeadsTo.refl _ _

theorem accepts_hexEscape : Accepts hexEscape chars fun c rest =>
    ∀ items last, SpellsItems rest items last →
      SpellsItems ('\\' :: 'u' :: chars) ((utf16 c).map .unit ++ items) last := by
  refine Accepts.bind (accepts_hexUnit.mono ?_)
  intro unit mid hunit
  split
  · exact (refuses_refuse _).accepts
  · rename_i htrailing
    split
    · rename_i hleading
      refine Accepts.bind ((accepts_pairByte (by decide)).mono ?_)
      rintro _ mid rfl
      refine Accepts.bind ((accepts_pairByte (by decide)).mono ?_)
      rintro _ mid rfl
      refine Accepts.bind (accepts_hexUnit.mono ?_)
      intro second mid hsecond
      split
      · rename_i htrailing'
        apply accepts_pure
        intro items last hitems
        rw [utf16_surrogatePair hleading htrailing']
        exact .more (.unit hunit) (.more (.unit hsecond) hitems)
      · exact (refuses_refuse _).accepts
    · rename_i hleading
      apply accepts_pure
      intro items last hitems
      rw [utf16_ofNat hunit.lt (by simpa using hleading) (by simpa using htrailing)]
      exact .more (.unit hunit) hitems

theorem shortEscapes_spec {letter : Char} (h : (letter, c) ∈ shortEscapes) :
    letter.toNat < 0x80 ∧ letter ≠ 'u' ∧ shortEscapes.lookup letter = some c := by
  have hall : ∀ escape ∈ shortEscapes, escape.1.toNat < 0x80 ∧ escape.1 ≠ 'u' ∧
      shortEscapes.lookup escape.1 = some escape.2 := by
    decide
  exact hall _ h

theorem mem_shortEscapes {letter : Char} (h : shortEscapes.lookup letter = some c) :
    (letter, c) ∈ shortEscapes := by
  obtain ⟨front, back, he, -⟩ := List.lookup_eq_some_iff.mp h
  rw [he]
  simp

theorem reads_escape_short {letter : Char} (h : (letter, c) ∈ shortEscapes) (rest : List Char) :
    Reads escape (letter :: rest) c rest := by
  obtain ⟨hlow, hu, hlookup⟩ := shortEscapes_spec h
  refine Reads.bind (reads_stringByte hlow rest) ?_
  refine leadsTo_if_neg (by decide) hu ?_
  simp only [simpleEscape?_lead, hlookup]
  exact LeadsTo.refl _ _

theorem reads_escape_units {start : List Char} (h : Reads hexEscape start c rest) :
    Reads escape ('u' :: start) c rest :=
  Reads.bind (reads_stringByte (by decide) start) (leadsTo_if_pos (by decide) h)

theorem accepts_escape : Accepts escape chars fun c rest =>
    ∀ items text last, SpellsItems rest items last → Denotes items text →
      ∃ items', SpellsItems ('\\' :: chars) items' last ∧ Denotes items' (c :: text) := by
  refine accepts_stringByte ?_ ?_
  · rintro letter rest rfl _
    refine accepts_if (by decide) ?_ ?_
    · rintro rfl
      refine accepts_hexEscape.mono ?_
      intro c mid h items text last hitems htext
      exact ⟨_, h items last hitems, .units c htext⟩
    · intro _
      rw [simpleEscape?_lead]
      split
      · rename_i c hlookup
        apply accepts_pure
        intro items text last hitems htext
        exact ⟨_, .more (.short (mem_shortEscapes hlookup)) hitems, .char c htext⟩
      · exact (refuses_refuse _).accepts
  · intro b hb
    rw [if_neg (ne_byte_of_le hb (by decide)), simpleEscape?_of_byte_le hb]
    exact refuses_refuse _

/-! Strings that are kept. -/

/-- Bytes that stand for themselves are collected. -/
theorem exists_collect {collected bytes ahead : List UInt8} {cursor : Cursor}
    (h : cursor.ahead = bytes ++ ahead)
    (hbytes : ∀ b ∈ bytes, b ≠ byte '"' ∧ b ≠ byte '\\' ∧ isControl b = false) :
    ∃ after : Cursor, after.ahead = ahead ∧ loop stringTurn collected .text cursor =
      loop stringTurn (bytes.reverse ++ collected) .text after := by
  have hfold : bytes.foldl (fun collected b => b :: collected) collected =
      bytes.reverse ++ collected := by
    simp
  rw [← hfold]
  refine loop_bytes (fun collected b => b :: collected) ?_ h
  intro b hb state cursor ahead hahead
  obtain ⟨hquote, hback, hcontrol⟩ := hbytes b hb
  obtain ⟨after, hafter, hbyte⟩ := exists_stringByte hahead
  refine ⟨after, hafter, ?_⟩
  rw [stringTurn, bind_apply, hbyte]
  simp only [hquote, hback, hcontrol, Bool.false_eq_true, if_false]
  rfl

theorem leadsTo_string_plain (collected : List UInt8) (h : 0x20 ≤ c.toNat) (hquote : c ≠ '"')
    (hback : c ≠ '\\') (rest : List Char) :
    LeadsTo (loop stringTurn collected) (c :: rest)
      (loop stringTurn ((String.utf8EncodeChar c).reverse ++ collected)) rest := by
  intro cursor hcursor
  exact exists_collect (hcursor.trans (Utf8.encode_cons c rest))
    fun b hb => plain_of_mem_encodeChar h hquote hback hb

theorem reads_string_quote (collected : List UInt8) (rest : List Char) :
    Reads (loop stringTurn collected) ('"' :: rest) collected rest := by
  refine reads_loop_stop (Reads.bind (reads_stringByte (by decide) rest) ?_)
  exact leadsTo_if_pos (by decide) (LeadsTo.refl _ _)

theorem leadsTo_string_escape (collected : List UInt8) (h : Reads escape chars c rest)
    (hsuffix : rest <:+ chars) :
    LeadsTo (loop stringTurn collected) ('\\' :: chars)
      (loop stringTurn ((String.utf8EncodeChar c).reverse ++ collected)) rest := by
  refine leadsTo_loop_again (Reads.bind (reads_stringByte (by decide) chars) ?_) (.cons _ hsuffix)
  refine leadsTo_if_neg (by decide) (by decide) (leadsTo_if_pos (by decide) ?_)
  exact Reads.bind h (LeadsTo.refl _ _)

theorem reverse_encode_cons (c : Char) (text : List Char) (collected : List UInt8) :
    (Utf8.encode (c :: text)).reverse ++ collected =
      (Utf8.encode text).reverse ++ ((String.utf8EncodeChar c).reverse ++ collected) := by
  rw [Utf8.encode_cons, List.reverse_append, List.append_assoc]

theorem reads_stringBytes (htext : Denotes items text) (h : SpellsItems chars items rest)
    (collected : List UInt8) :
    Reads (loop stringTurn collected) chars ((Utf8.encode text).reverse ++ collected) rest := by
  induction htext generalizing chars collected with
  | nil =>
    cases h with
    | close => exact reads_string_quote collected rest
  | @char items text c _ ih =>
    rw [reverse_encode_cons]
    cases h with
    | more hitem hitems =>
      refine LeadsTo.trans ?_ (ih hitems _)
      cases hitem with
      | plain h hquote hback => exact leadsTo_string_plain collected h hquote hback _
      | short h =>
        exact leadsTo_string_escape collected (reads_escape_short h _) (List.suffix_cons _ _)
  | @units items text c _ ih =>
    rw [reverse_encode_cons]
    obtain ⟨start, mid, rfl, hsuffix, hescape, hitems⟩ := reads_hexEscape h
    refine LeadsTo.trans ?_ (ih hitems _)
    exact leadsTo_string_escape collected (reads_escape_units hescape)
      (hsuffix.trans (List.suffix_cons _ _))

/-- What is collected up to the end of a string, behind what has been collected before. -/
def Collects (collected : List UInt8) (chars : List Char) (bytes : List UInt8)
    (rest : List Char) : Prop :=
  ∃ items text, SpellsItems chars items rest ∧ Denotes items text ∧
    bytes = (Utf8.encode text).reverse ++ collected

theorem accepts_stringByte_nil {next : UInt8 → Reader α} {post : α → List Char → Prop} :
    Accepts (stringByte >>= next) [] post := by
  rw [stringByte, bind_assoc]
  exact Reads.accepts_bind reads_next_nil ((refuses_refuse _).bind_left next).accepts

theorem accepts_stringBytes (collected : List UInt8) (chars : List Char) :
    Accepts (loop stringTurn collected) chars (Collects collected chars) := by
  refine accepts_loop_of Collects ?_ collected chars
  intro collected chars
  cases chars with
  | nil => exact .inr accepts_stringByte_nil
  | cons c rest =>
    by_cases hplain : 0x20 ≤ c.toNat ∧ c ≠ '"' ∧ c ≠ '\\'
    · obtain ⟨h, hquote, hback⟩ := hplain
      refine .inl ⟨_, c, rest, rfl, leadsTo_string_plain collected h hquote hback rest, ?_⟩
      rintro bytes last ⟨items, text, hitems, htext, rfl⟩
      refine ⟨.char c :: items, c :: text, .more (.plain h hquote hback) hitems, .char c htext, ?_⟩
      exact (reverse_encode_cons c text collected).symm
    · right
      have hlow : c.toNat < 0x80 := toNat_lt_of_not_plain hplain
      refine Reads.accepts_bind (reads_stringByte hlow rest) ?_
      refine accepts_if (by decide) ?_ ?_
      · rintro rfl
        exact accepts_pure ⟨[], [], .close, .nil, rfl⟩
      · intro hquote
        refine accepts_if (by decide) ?_ ?_
        · rintro rfl
          refine Accepts.bind (accepts_escape.mono ?_)
          intro c mid h
          apply accepts_pure
          rintro bytes last ⟨items, text, hitems, htext, rfl⟩
          obtain ⟨items', hitems', htext'⟩ := h items text last hitems htext
          exact ⟨items', c :: text, hitems', htext', (reverse_encode_cons c text collected).symm⟩
        · intro hback
          have hcontrol : isControl (lead c) = true := by
            rw [isControl_lead]
            exact decide_eq_true (Nat.lt_of_not_le fun h => hplain ⟨h, hquote, hback⟩)
          rw [hcontrol, if_pos rfl]
          exact (refuses_refuse _).accepts

theorem reads_string (htext : Denotes items text) (h : SpellsItems chars items rest) :
    Reads string chars (String.ofList text) rest := by
  refine Reads.bind (reads_stringBytes htext h []) ?_
  rw [List.append_nil, List.reverse_reverse, Utf8.decode_encode]
  exact LeadsTo.refl _ _

theorem accepts_string : Accepts string chars fun text rest =>
    ∃ items, SpellsItems chars items rest ∧ Denotes items text.toList := by
  refine Accepts.bind ((accepts_stringBytes [] chars).mono ?_)
  rintro _ mid ⟨items, text, hitems, htext, rfl⟩
  rw [List.append_nil, List.reverse_reverse, Utf8.decode_encode]
  refine accepts_pure ⟨items, hitems, ?_⟩
  rwa [String.toList_ofList]

end Reader

end ShaderBinding
