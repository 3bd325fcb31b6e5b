import ShaderBinding.Proofs.Json.Strings

/-! Strings that are passed over. Their items must be those of the grammar, but they need not denote
a text. -/

namespace ShaderBinding

namespace Reader

open Json

variable {α : Type} {chars rest : List Char} {c : Char} {item : Item} {items : List Item}

theorem reads_skipEscape (h : SpellsItem ('\\' :: chars) item rest) :
    Reads skipEscape chars () rest := by
  cases h with
  | plain _ _ hback => exact absurd rfl hback
  | short h =>
    obtain ⟨hlow, hu, hlookup⟩ := shortEscapes_spec h
    refine Reads.bind (reads_stringByte hlow _) ?_
    refine leadsTo_if_neg (by decide) hu ?_
    simp only [simpleEscape?_lead, hlookup]
    exact LeadsTo.refl _ _
  | unit h =>
    refine Reads.bind (reads_stringByte (by decide) _) ?_
    exact leadsTo_if_pos (by decide) (Reads.bind (reads_hexUnit h) (LeadsTo.refl _ _))

theorem accepts_skipEscape : Accepts skipEscape chars fun _ rest =>
    ∃ item, SpellsItem ('\\' :: chars) item rest := by
  refine accepts_stringByte ?_ ?_
  · rintro letter rest rfl _
    refine accepts_if (by decide) ?_ ?_
    · rintro rfl
      refine Accepts.bind (accepts_hexUnit.mono ?_)
      intro number mid hunit
      exact accepts_pure ⟨_, .unit hunit⟩
    · intro _
      rw [simpleEscape?_lead]
      split
      · rename_i c hlookup
        exact accepts_pure ⟨_, .short (mem_shortEscapes hlookup)⟩
      · exact (refuses_refuse _).accepts
  · intro b hb
    rw [if_neg (ne_byte_of_le hb (by decide)), simpleEscape?_of_byte_le hb]
    exact refuses_refuse _

theorem exists_plainByte {cursor : Cursor} {b : UInt8} {ahead : List UInt8}
    (h : cursor.ahead = b :: ahead) (hb : isControl b = false) : ∃ after : Cursor,
      after.ahead = ahead ∧ plainByte .text cursor = .done b after := by
  have hlook : look .text cursor = .done (some b) { cursor with held := true } := by
    simp only [look, h]
  have hahead : { cursor with held := true }.ahead = b :: ahead := h
  refine ⟨_, ahead_advance hahead, ?_⟩
  simp only [plainByte, bind_apply, hlook, hb]
  rfl

theorem reads_plainByte (hlow : c.toNat < 0x80) (h : 0x20 ≤ c.toNat) (rest : List Char) :
    Reads plainByte (c :: rest) (lead c) rest := by
  intro cursor hcursor
  rw [encode_cons_of_lt hlow, ← lead_of_lt hlow] at hcursor
  have hcontrol : isControl (lead c) = false := by
    rw [isControl_lead]
    exact decide_eq_false (Nat.not_lt.mpr h)
  exact exists_plainByte hcursor hcontrol

theorem accepts_plainByte_nil {next : UInt8 → Reader α} {post : α → List Char → Prop} :
    Accepts (plainByte >>= next) [] post := by
  rw [plainByte, bind_assoc]
  exact Reads.accepts_bind (reads_look []) ((refuses_refuse _).bind_left next).accepts

theorem accepts_plainByte_control {next : UInt8 → Reader α} {post : α → List Char → Prop}
    (h : c.toNat < 0x20) : Accepts (plainByte >>= next) (c :: rest) post := by
  have hcontrol : isControl (lead c) = true := by
    rw [isControl_lead]
    exact decide_eq_true h
  rw [plainByte, bind_assoc]
  refine Reads.accepts_bind (reads_look _) ?_
  rw [firstByte?_cons]
  refine (Refuses.bind_left (Refuses.bind fun how => ?_) next).accepts
  rw [hcontrol]
  cases how with
  | text => exact refuses_refuse _
  | stream failure => exact Refuses.bind fun _ => refuses_refuse _

theorem leadsTo_skipString_plain (h : 0x20 ≤ c.toNat) (hquote : c ≠ '"') (hback : c ≠ '\\')
    (rest : List Char) : LeadsTo skipString (c :: rest) skipString rest := by
  intro cursor hcursor
  refine loop_bytes (fun _ _ => ()) ?_ (hcursor.trans (Utf8.encode_cons c rest))
  intro b hb state cursor ahead hahead
  obtain ⟨hquote', hback', hcontrol⟩ := plain_of_mem_encodeChar h hquote hback hb
  obtain ⟨after, hafter, hbyte⟩ := exists_plainByte hahead hcontrol
  refine ⟨after, hafter, ?_⟩
  rw [skipStringTurn, bind_apply, hbyte]
  simp only [hquote', hback', if_false]
  rfl

theorem reads_skipString (h : SpellsItems chars items rest) : Reads skipString chars () rest := by
  induction h with
  | close =>
    refine reads_loop_stop (Reads.bind (reads_plainByte (by decide) (by decide) _) ?_)
    exact leadsTo_if_pos (by decide) (LeadsTo.refl _ _)
  | more hitem _ ih =>
    refine LeadsTo.trans ?_ ih
    have hescape : ∀ {chars item rest}, SpellsItem ('\\' :: chars) item rest →
        LeadsTo skipString ('\\' :: chars) skipString rest := by
      intro chars item rest hitem
      refine leadsTo_loop_again (Reads.bind (reads_plainByte (by decide) (by decide) _) ?_)
        hitem.isTail
      refine leadsTo_if_neg (by decide) (by decide) (leadsTo_if_pos (by decide) ?_)
      exact Reads.bind (reads_skipEscape hitem) (LeadsTo.refl _ _)
    cases hitem with
    | plain h hquote hback => exact leadsTo_skipString_plain h hquote hback _
    | short h => exact hescape (.short h)
    | unit h => exact hescape (.unit h)

theorem accepts_skipString :
    Accepts skipString chars fun _ rest => ∃ items, SpellsItems chars items rest := by
  refine accepts_loop_of (fun _ chars _ rest => ∃ items, SpellsItems chars items rest) ?_ () chars
  intro _ chars
  cases chars with
  | nil => exact .inr accepts_plainByte_nil
  | cons c rest =>
    by_cases hplain : 0x20 ≤ c.toNat ∧ c ≠ '"' ∧ c ≠ '\\'
    · obtain ⟨h, hquote, hback⟩ := hplain
      refine .inl ⟨(), c, rest, rfl, leadsTo_skipString_plain h hquote hback rest, ?_⟩
      rintro _ last ⟨items, hitems⟩
      exact ⟨.char c :: items, .more (.plain h hquote hback) hitems⟩
    · right
      have hlow : c.toNat < 0x80 := toNat_lt_of_not_plain hplain
      by_cases h : c.toNat < 0x20
      · exact accepts_plainByte_control h
      · refine Reads.accepts_bind (reads_plainByte hlow (Nat.le_of_not_lt h) rest) ?_
        refine accepts_if (by decide) ?_ ?_
        · rintro rfl
          exact accepts_pure ⟨[], .close⟩
        · intro hquote
          refine accepts_if (by decide) ?_ ?_
          · rintro rfl
            refine Accepts.bind (accepts_skipEscape.mono ?_)
            rintro _ mid ⟨item, hitem⟩
            apply accepts_pure
            rintro _ last ⟨items, hitems⟩
            exact ⟨item :: items, .more hitem hitems⟩
          · intro hback
            exact absurd ⟨Nat.le_of_not_lt h, hquote, hback⟩ hplain

end Reader

end ShaderBinding
