import ShaderBinding.Proofs.Json.Misfits
import ShaderBinding.Proofs.Table.Misfits
import ShaderBinding.Proofs.Table.Texts

/-! Readers find the misfits of a text: a run before a misfit fails with it, and what a run calls a
misfit is one. -/

namespace ShaderBinding

/-- The characters that start a value of a shape that is taken. -/
def Expected.firsts : Expected → List Char
  | sequence => ['[']
  | record => ['{', '[']
  | string => ['n', '"']

namespace Json

variable {chars start mid stop next rest : List Char} {cause : SchemaCause} {c : Char}
  {expected : Expected} {found : Found}

theorem SpellsDecimal.isDigit {d : Decimal} (h : SpellsDecimal (c :: chars) d rest) :
    c.isDigit = true := by
  obtain ⟨c, mid, he, hc⟩ := h.unsigned.exists_digit
  obtain ⟨rfl, _⟩ := List.cons.inj he
  exact hc

/-- Whether the value ahead is taken is seen from its first character. -/
theorem Finds.admits_iff (h : Finds (c :: chars) found rest) :
    expected.admits found = true ↔ c ∈ expected.firsts := by
  cases h with
  | positive h _ _ =>
    have hc := h.isDigit
    have hnone : c ∉ expected.firsts := by
      intro hmem
      have hfalse : c.isDigit = false := by
        cases expected <;> exact of_mem_of_all hmem (by decide)
      rw [hc] at hfalse
      cases hfalse
    cases expected <;> simp [Expected.admits, hnone]
  | _ => cases expected <;> simp [Expected.admits, Expected.firsts]

theorem Finds.exists_first (h : Finds chars found rest) : ∃ c more, chars = c :: more ∧
    c ∉ [' ', '\t', '\n', '\r', ',', ']', '}'] := by
  cases h with
  | positive h _ _ =>
    obtain ⟨c, mid, rfl, hc⟩ := h.unsigned.exists_digit
    refine ⟨c, mid, rfl, fun hmem => ?_⟩
    have hfalse : c.isDigit = false := of_mem_of_all hmem (by decide)
    rw [hc] at hfalse
    cases hfalse
  | _ => exact ⟨_, _, rfl, by decide⟩

/-- What is not admitted does not start like what is. -/
theorem WrongShape.exists_first (h : WrongShape expected chars cause rest) : ∃ c more found,
    Blanks chars (c :: more) ∧ c ∉ [' ', '\t', '\n', '\r', ',', ']', '}'] ∧
      c ∉ expected.firsts ∧ Finds (c :: more) found rest ∧ cause = .invalidType found expected := by
  cases h with
  | @mk found _ _ _ hblanks hfinds hadmits =>
    obtain ⟨c, more, rfl, hc⟩ := hfinds.exists_first
    have hfirst : c ∉ expected.firsts := by
      rw [← hfinds.admits_iff, hadmits]
      exact Bool.false_ne_true
    exact ⟨c, more, found, hblanks, hc, hfirst, hfinds, rfl⟩

theorem WrongShape.exists_start (h : WrongShape expected chars cause rest) : ∃ c more,
    Blanks chars (c :: more) ∧ c ∉ [' ', '\t', '\n', '\r', ',', ']', '}'] ∧
      WrongShape expected (c :: more) cause rest := by
  cases h with
  | mk hblanks hfinds hadmits =>
    obtain ⟨c, more, rfl, hc⟩ := hfinds.exists_first
    exact ⟨c, more, hblanks, hc, .mk .none hfinds hadmits⟩

theorem MisfitRecord.exists_start (h : MisfitRecord chars cause rest) : ∃ c more,
    Blanks chars (c :: more) ∧ c ∉ [' ', '\t', '\n', '\r', ',', ']', '}'] ∧
      MisfitRecord (c :: more) cause rest := by
  cases h with
  | shape hshape =>
    obtain ⟨c, more, hblanks, hc, hshape⟩ := hshape.exists_start
    exact ⟨c, more, hblanks, hc, .shape hshape⟩
  | object hblanks hmembers => exact ⟨_, _, hblanks, by decide, .object .none hmembers⟩
  | list hblanks hfields => exact ⟨_, _, hblanks, by decide, .list .none hfields⟩

theorem MisfitMembers.ends {read : Members} (h : MisfitMembers false read chars cause rest) :
    Ends chars := by
  have hcomma : ∀ {start}, Before false chars start → Ends chars := by
    intro start hbefore
    cases hbefore with
    | next hcomma _ => exact hcomma.ends (by decide)
  cases h with
  | duplicate hbefore _ _ _ => exact hcomma hbefore
  | field hkey _ _ _ =>
    obtain ⟨hbefore, _, _⟩ := hkey
    exact hcomma hbefore
  | later hpart _ _ =>
    obtain ⟨hbefore, _⟩ := hpart
    exact hcomma hbefore

end Json

namespace Reader

open Json

variable {α : Type} {chars start mid stop next rest : List Char} {cause : SchemaCause} {c : Char}
  {expected : Expected}

theorem reads_found_leaf (a : Char) (letters : List Char) (value : Found) (ha : a.toNat < 0x80)
    (hlow : letters.all (fun c => c.toNat < 0x80) = true) (rest : List Char) :
    Reads (found.leaf value letters) (a :: (letters ++ rest)) value rest :=
  Reads.bind (reads_eat ha _) (Reads.bind (reads_word hlow rest) (LeadsTo.refl _ _))

theorem reads_found_digit {result : Number} (hc : c.isDigit = true)
    (h : Reads (number false) (c :: chars) result rest) :
    Reads (found (lead c)) (c :: chars) (.number result) rest := by
  obtain ⟨hn, ht, hf, hminus, _⟩ := ne_of_isDigit hc
  have hlead : isDigit (lead c) = true := by rwa [isDigit_lead]
  refine leadsTo_if_neg (by decide) hn (leadsTo_if_neg (by decide) ht ?_)
  refine leadsTo_if_neg (by decide) hf (leadsTo_if_neg (by decide) hminus ?_)
  rw [if_pos hlead]
  exact h.map Found.number

theorem reads_found {result : Found} (h : Finds (c :: chars) result rest) :
    ∃ last, Reads (found (lead c)) (c :: chars) result last := by
  cases h with
  | null =>
    have hleaf := reads_found_leaf 'n' ['u', 'l', 'l'] .null (by decide) (by decide) rest
    exact ⟨rest, leadsTo_if_pos (by decide) hleaf⟩
  | yes =>
    have hleaf := reads_found_leaf 't' ['r', 'u', 'e'] (.boolean true) (by decide) (by decide) rest
    refine ⟨rest, leadsTo_if_neg (by decide) (by decide) ?_⟩
    exact leadsTo_if_pos (by decide) hleaf
  | no =>
    have hleaf := reads_found_leaf 'f' ['a', 'l', 's', 'e'] (.boolean false) (by decide)
      (by decide) rest
    refine ⟨rest, leadsTo_if_neg (by decide) (by decide) ?_⟩
    refine leadsTo_if_neg (by decide) (by decide) ?_
    exact leadsTo_if_pos (by decide) hleaf
  | positive h hrest hread => exact ⟨rest, reads_found_digit h.isDigit (reads_number h hrest hread)⟩
  | negative h hrest hread =>
    have hnumber := (reads_number h hrest hread).map Found.number
    refine ⟨rest, leadsTo_if_neg (by decide) (by decide) ?_⟩
    refine leadsTo_if_neg (by decide) (by decide) (leadsTo_if_neg (by decide) (by decide) ?_)
    exact leadsTo_if_pos (by decide) (Reads.bind (reads_eat (by decide) _) hnumber)
  | string h htext =>
    have hstring := (reads_string htext h).map Found.string
    rw [String.ofList_toList] at hstring
    refine ⟨rest, leadsTo_if_neg (by decide) (by decide) ?_⟩
    refine leadsTo_if_neg (by decide) (by decide) (leadsTo_if_neg (by decide) (by decide) ?_)
    refine leadsTo_if_neg (by decide) (by decide) ?_
    rw [if_neg (by decide)]
    exact leadsTo_if_pos (by decide) (Reads.bind (reads_eat (by decide) _) hstring)
  | list => exact ⟨'[' :: chars, LeadsTo.refl _ _⟩
  | object => exact ⟨'{' :: chars, LeadsTo.refl _ _⟩

theorem accepts_found_leaf {a : Char} {letters : List Char} {value : Found} {post : Found → Prop}
    (ha : a.toNat < 0x80) (hlow : letters.all (fun c => c.toNat < 0x80) = true)
    (h : ∀ rest, chars = letters ++ rest → post value) :
    Accepts (found.leaf value letters) (a :: chars) fun result _ => post result := by
  refine Reads.accepts_bind (reads_eat ha chars) (Accepts.bind ((accepts_word hlow).mono ?_))
  intro _ rest hrest
  exact accepts_pure (h rest hrest)

theorem accepts_found : Accepts (found (lead c)) (c :: chars) fun result _ =>
    ∃ rest, Finds (c :: chars) result rest := by
  refine accepts_if (by decide) ?_ fun _ => accepts_if (by decide) ?_ fun _ =>
    accepts_if (by decide) ?_ fun _ => accepts_if (by decide) ?_ fun _ => ?_
  · rintro rfl
    refine accepts_found_leaf (by decide) (by decide) ?_
    rintro rest rfl
    exact ⟨rest, .null⟩
  · rintro rfl
    refine accepts_found_leaf (by decide) (by decide) ?_
    rintro rest rfl
    exact ⟨rest, .yes⟩
  · rintro rfl
    refine accepts_found_leaf (by decide) (by decide) ?_
    rintro rest rfl
    exact ⟨rest, .no⟩
  · rintro rfl
    refine Reads.accepts_bind (reads_eat (by decide) chars) (Accepts.map (accepts_number.mono ?_))
    rintro number rest ⟨d, hd, hstops, hread⟩
    exact ⟨rest, .negative hd hstops hread⟩
  · split
    · refine Accepts.map (accepts_number.mono ?_)
      rintro number rest ⟨d, hd, hstops, hread⟩
      exact ⟨rest, .positive hd hstops hread⟩
    · refine accepts_if (by decide) ?_ fun _ => accepts_if (by decide) ?_ fun _ =>
        accepts_if (by decide) ?_ fun _ => (refuses_refuseNext _).accepts
      · rintro rfl
        refine Reads.accepts_bind (reads_eat (by decide) chars) ?_
        refine Accepts.map (accepts_string.mono ?_)
        rintro text rest ⟨items, hitems, htext⟩
        exact ⟨rest, .string hitems htext⟩
      · rintro rfl
        exact accepts_pure ⟨chars, .list⟩
      · rintro rfl
        exact accepts_pure ⟨chars, .object⟩

theorem fails_refuseShape {result : Found} (h : Finds (c :: chars) result rest) :
    Fails (refuseShape expected (lead c) : Reader α) (c :: chars)
      (.schema (.invalidType result expected)) := by
  obtain ⟨last, hfound⟩ := reads_found h
  exact hfound.fails_bind (fails_mismatch _ last)

/-- What a reader calls a misfit where something else was expected. -/
theorem blames_refuseShape (hblanks : Blanks mid (c :: chars)) (hc : c ∉ expected.firsts) :
    Blames (refuseShape expected (lead c) : Reader α) (c :: chars) fun cause =>
      ∃ rest, WrongShape expected mid cause rest := by
  refine (built_found _).faults.blames_bind (accepts_found.mono ?_)
  rintro result _ ⟨rest, hfinds⟩
  have hadmits : expected.admits result = false := by
    rw [← Bool.not_eq_true, hfinds.admits_iff]
    exact hc
  exact blames_mismatch ⟨rest, .mk hblanks hfinds hadmits⟩

/-! Symbols. -/

theorem leadsTo_symbol_refuse (hblanks : Blanks chars (c :: mid))
    (hc : c ∉ [' ', '\t', '\n', '\r', ',', ']', '}']) (hfirst : c ∉ Expected.string.firsts) :
    LeadsTo symbol chars (refuseShape .string (lead c)) (c :: mid) := by
  obtain ⟨hnull, hquote⟩ : c ≠ 'n' ∧ c ≠ '"' := by simpa [Expected.firsts] using hfirst
  refine Reads.bind (reads_token_cons hblanks (fun hmem => hc (mem_ends_of_blank hmem))) ?_
  exact leadsTo_if_neg (by decide) hnull (leadsTo_if_neg (by decide) hquote (LeadsTo.refl _ _))

theorem fails_symbol (h : WrongShape .string chars cause rest) :
    Fails symbol chars (.schema cause) := by
  obtain ⟨c, more, found, hblanks, hc, hfirst, hfinds, rfl⟩ := h.exists_first
  exact (leadsTo_symbol_refuse hblanks hc hfirst).fails (fails_refuseShape hfinds)

theorem blames_symbol :
    Blames symbol chars fun cause => ∃ rest, WrongShape .string chars cause rest := by
  have hnull : Faults false (do eat; word ['u', 'l', 'l']; pure none : Reader (Option String)) :=
    faults_eat.bind fun _ => (built_word _).faults.bind fun _ => faults_pure none
  have hstring : Faults false (do eat; some <$> string : Reader (Option String)) :=
    faults_eat.bind fun _ => (built_string.map some).faults
  refine blames_token (faults_refuseNext _) ?_
  intro c mid hblanks
  refine blames_if (by decide) (fun _ => hnull.blames) fun hn => ?_
  refine blames_if (by decide) (fun _ => hstring.blames) fun hquote => ?_
  exact blames_refuseShape hblanks (by simp [Expected.firsts, hn, hquote])

/-! Members. -/

theorem misfits_members {first : Bool} {read : Members}
    (h : MisfitMembers first read chars cause rest) :
    BodyMisfits (loop memberTurn (first, read)) chars cause := by
  induction h with
  | @duplicate first read key stage chars _ rest hbefore hkey hname hhas =>
    obtain ⟨text, htext, hstage⟩ := ofName?_of_names hname
    have hturn : Reads (memberTurn (first, read)) chars (.stop (.error (.duplicateField stage)))
        rest := by
      refine Reads.bind (reads_hasMember hbefore) (Reads.bind (reads_eat (by decide) _) ?_)
      refine Reads.bind (reads_string htext hkey) ?_
      simp only [hstage, hhas, if_true]
      exact LeadsTo.refl _ _
    exact (reads_loop_stop hturn).bodyMisfits
  | @field first read key stage _ _ _ _ hkey hname hnew hshape =>
    obtain ⟨hbefore, hquoted, hcolon⟩ := hkey
    obtain ⟨text, htext, hstage⟩ := ofName?_of_names hname
    refine Fails.bodyMisfits (fails_loop ?_)
    refine (reads_hasMember hbefore).fails_bind ((reads_eat (by decide) _).fails_bind ?_)
    refine (reads_string htext hquoted).fails_bind ?_
    simp only [hstage, hnew, Bool.false_eq_true, if_false]
    exact (reads_colon hcolon).fails_bind ((fails_symbol hshape).bind _)
  | later hpart htakes hlater ih =>
    obtain ⟨hbefore, hmember⟩ := hpart
    exact (leadsTo_member hbefore hmember htakes hlater.ends).bodyMisfits ih

theorem blames_memberTurn (first : Bool) (read : Members) (chars : List Char) :
    Blames (memberTurn (first, read)) chars fun cause =>
      ∃ rest, MisfitMembers first read chars cause rest := by
  refine (built_hasMember first).faults.blames_bind ((accepts_hasMember first).mono ?_)
  rintro more start hmore
  cases more with
  | false => exact (faults_pure _).blames
  | true =>
    obtain ⟨hbefore, begin, rfl⟩ := hmore
    refine (reads_eat (by decide) begin).blames_bind ?_
    refine built_string.faults.blames_bind (accepts_string.mono ?_)
    rintro text colon ⟨key, hkey, htext⟩
    split
    · rename_i stage hstage
      have hname : Names key stage := by
        rw [Names, Stage.ofName?_eq_some_iff.mp hstage]
        exact htext
      split
      · exact (faults_pure _).blames
      · rename_i hnew
        refine built_colon.faults.blames_bind (accepts_colon.mono ?_)
        intro _ next hcolon
        refine Blames.bind_faults (blames_symbol.mono ?_) fun _ => faults_pure _
        rintro cause ⟨rest, hshape⟩
        exact ⟨rest, .field ⟨hbefore, hkey, hcolon⟩ hname (by simpa using hnew) hshape⟩
    · refine Faults.blames (built_colon.faults.bind fun _ => ?_)
      exact built_skipValue.faults.bind fun _ => faults_pure _

theorem blames_members (first : Bool) (read : Members) (chars : List Char) :
    Blames (loop memberTurn (first, read)) chars fun cause =>
      ∃ rest, MisfitMembers first read chars cause rest := by
  refine blames_loop
    (fun state chars cause => ∃ rest, MisfitMembers state.1 state.2 chars cause rest)
    (fun state chars => blames_memberTurn state.1 state.2 chars) ?_ (first, read) chars
  rintro ⟨first, read⟩ chars
  refine (accepts_memberTurn first read chars).mono ?_
  rintro _ _ hturned state rfl cause ⟨rest, hrest⟩
  cases hturned with
  | member hbefore hmember htakes => exact ⟨rest, .later ⟨hbefore, hmember⟩ htakes hrest⟩

/-- What the members of a record come to when they cannot be one. -/
theorem accepts_members_error (first : Bool) (read : Members) (chars : List Char) :
    Accepts (loop memberTurn (first, read)) chars fun result _ => ∀ cause, result = .error cause →
      ∃ rest, MisfitMembers first read chars cause rest := by
  refine accepts_loop (fun state chars result _ => ∀ cause, result = Except.error cause →
    ∃ rest, MisfitMembers state.1 state.2 chars cause rest) ?_ (first, read) chars
  rintro ⟨first, read⟩ chars
  refine (accepts_memberTurn first read chars).mono ?_
  intro done stop hturned
  cases hturned with
  | member hbefore hmember htakes =>
    intro result last hrest cause hcause
    obtain ⟨rest, hlater⟩ := hrest cause hcause
    exact ⟨rest, .later ⟨hbefore, hmember⟩ htakes hlater⟩
  | stop hblanks =>
    rintro cause ⟨⟩
  | duplicate hbefore hkey hname hhas =>
    rintro cause ⟨⟩
    exact ⟨_, .duplicate hbefore hkey hname hhas⟩

/-! Fields. -/

theorem reads_hasElement_start {first : Bool} (hbefore : Before first chars start)
    (hblanks : Blanks start (c :: rest)) (hc : c ∉ [' ', '\t', '\n', '\r', ',', ']', '}']) :
    Reads (hasElement first) chars true (c :: rest) := by
  refine reads_hasElement (hbefore.blanks hblanks) (fun hmem => hc (mem_ends_of_blank hmem)) ?_
  rintro rfl
  exact hc (by decide)

theorem misfits_fields {count : Nat} {stages : List Stage} (read : Members)
    (h : MisfitFields count stages chars cause rest) :
    BodyMisfits (fields count stages read) chars cause := by
  induction h generalizing read with
  | @short count stage stages chars rest hblanks =>
    have hfields : Reads (fields count (stage :: stages) read) chars (.error (.invalidLength count))
        (']' :: rest) := Reads.bind (reads_hasElement_stop _ hblanks) (LeadsTo.refl _ _)
    exact hfields.bodyMisfits
  | field hbefore hshape =>
    obtain ⟨c, more, hblanks, hc, hshape⟩ := hshape.exists_start
    have helement := reads_hasElement_start hbefore hblanks hc
    exact Fails.bodyMisfits (helement.fails_bind ((fails_symbol hshape).bind _))
  | @later count stage stages _ value symbol chars stop _ hpart hvalue _ ih =>
    obtain ⟨hbefore, hspells⟩ := hpart
    have hfirst : LeadsTo (fields count (stage :: stages) read) chars
        (fields (count + 1) stages ((stage, symbol) :: read)) stop := by
      refine Reads.bind (reads_hasElement_value hbefore hspells) ?_
      exact Reads.bind (reads_symbol .none hspells hvalue) (LeadsTo.refl _ _)
    exact hfirst.bodyMisfits (ih _)

theorem blames_fields (count : Nat) (stages : List Stage) (read : Members) (chars : List Char) :
    Blames (fields count stages read) chars fun cause =>
      ∃ rest, MisfitFields count stages chars cause rest := by
  induction stages generalizing count read chars with
  | nil => exact (faults_pure _).blames
  | cons stage stages ih =>
    refine (built_hasElement _).faults.blames_bind ((accepts_hasElement (count == 0)).mono ?_)
    intro more mid hbefore
    cases more with
    | false => exact (faults_pure _).blames
    | true =>
      refine Blames.bind (blames_symbol.mono ?_) (accepts_symbol.mono ?_)
      · rintro cause ⟨rest, hshape⟩
        exact ⟨rest, .field hbefore hshape⟩
      · rintro symbol last ⟨value, start, hblanks, hvalue, hsymbol⟩
        refine (ih (count + 1) _ last).mono ?_
        rintro cause ⟨rest, hlater⟩
        exact ⟨rest, .later ⟨hbefore.blanks hblanks, hvalue⟩ hsymbol hlater⟩

theorem accepts_fields_error (count : Nat) (stages : List Stage) (read : Members)
    (chars : List Char) : Accepts (fields count stages read) chars fun result _ =>
      ∀ cause, result = .error cause → ∃ rest, MisfitFields count stages chars cause rest := by
  induction stages generalizing count read chars with
  | nil =>
    apply accepts_pure
    rintro cause ⟨⟩
  | cons stage stages ih =>
    refine Accepts.bind ((accepts_hasElement (count == 0)).mono ?_)
    intro more mid hmore
    cases more with
    | false =>
      apply accepts_pure
      rintro cause ⟨⟩
      obtain ⟨hblanks, rest, rfl⟩ := hmore
      exact ⟨rest, .short hblanks⟩
    | true =>
      refine Accepts.bind (accepts_symbol.mono ?_)
      rintro symbol last ⟨value, start, hblanks, hvalue, hsymbol⟩
      refine (ih (count + 1) _ last).mono ?_
      intro result stop herror cause hcause
      obtain ⟨rest, hlater⟩ := herror cause hcause
      exact ⟨rest, .later ⟨hmore.blanks hblanks, hvalue⟩ hsymbol hlater⟩

/-! Records. -/

theorem leadsTo_record_refuse (hblanks : Blanks chars (c :: mid))
    (hc : c ∉ [' ', '\t', '\n', '\r', ',', ']', '}']) (hfirst : c ∉ Expected.record.firsts) :
    LeadsTo record chars (refuseShape .record (lead c)) (c :: mid) := by
  obtain ⟨hobject, hlist⟩ : c ≠ '{' ∧ c ≠ '[' := by simpa [Expected.firsts] using hfirst
  refine Reads.bind (reads_valueStart hblanks (fun hmem => hc (mem_ends_of_blank hmem))) ?_
  exact leadsTo_if_neg (by decide) hobject (leadsTo_if_neg (by decide) hlist (LeadsTo.refl _ _))

theorem fails_record (h : MisfitRecord chars cause rest) : Fails record chars (.schema cause) := by
  cases h with
  | shape hshape =>
    obtain ⟨c, more, found, hblanks, hc, hfirst, hfinds, rfl⟩ := hshape.exists_first
    exact (leadsTo_record_refuse hblanks hc hfirst).fails (fails_refuseShape hfinds)
  | @object _ _ start _ hblanks hmembers =>
    have hbody : Fails (enclosed objectEnd members) ('{' :: start) (.schema cause) :=
      (misfits_members hmembers).enclosed (by decide)
    refine (reads_valueStart hblanks (by decide)).fails_bind ?_
    exact fails_if_pos (by decide) (hbody.bind _)
  | @list _ _ start _ hblanks hfields =>
    have hbody : Fails (enclosed listEnd (fields 0 Stage.all [])) ('[' :: start) (.schema cause) :=
      (misfits_fields [] hfields).enclosed (by decide)
    refine (reads_valueStart hblanks (by decide)).fails_bind ?_
    exact fails_if_neg (by decide) (by decide) (fails_if_pos (by decide) (hbody.bind _))

theorem blames_record :
    Blames record chars fun cause => ∃ rest, MisfitRecord chars cause rest := by
  refine blames_valueStart fun c mid hblanks => ?_
  refine blames_if (by decide) ?_ fun hobject => blames_if (by decide) ?_ fun hlist => ?_
  · rintro rfl
    refine Blames.bind_faults ?_ fun _ => faults_pure _
    refine blames_enclosed (by decide) built_objectEnd.faults ((blames_members true [] mid).mono ?_)
      ((accepts_members_error true [] mid).mono ?_)
    · rintro cause ⟨rest, hmembers⟩
      exact ⟨rest, .object hblanks hmembers⟩
    · intro result _ herror cause hcause
      obtain ⟨rest, hmembers⟩ := herror cause hcause
      exact ⟨rest, .object hblanks hmembers⟩
  · rintro rfl
    refine Blames.bind_faults ?_ fun _ => faults_pure _
    refine blames_enclosed (by decide) built_listEnd.faults ((blames_fields 0 _ [] mid).mono ?_)
      ((accepts_fields_error 0 _ [] mid).mono ?_)
    · rintro cause ⟨rest, hfields⟩
      exact ⟨rest, .list hblanks hfields⟩
    · intro result _ herror cause hcause
      obtain ⟨rest, hfields⟩ := herror cause hcause
      exact ⟨rest, .list hblanks hfields⟩
  · refine (blames_refuseShape hblanks (by simp [Expected.firsts, hobject, hlist])).mono ?_
    rintro cause ⟨rest, hshape⟩
    exact ⟨rest, .shape hshape⟩

theorem fails_records {first : Bool} (read : List Record)
    (h : MisfitRecords first chars cause rest) (hfirst : first = read.isEmpty) :
    Fails (loop recordTurn read) chars (.schema cause) := by
  induction h generalizing read with
  | here hbefore hrecord =>
    subst hfirst
    obtain ⟨c, more, hblanks, hc, hrecord⟩ := hrecord.exists_start
    have helement := reads_hasElement_start hbefore hblanks hc
    exact fails_loop (helement.fails_bind ((fails_record hrecord).bind _))
  | later hpart hrecord _ ih =>
    subst hfirst
    obtain ⟨hbefore, hvalue⟩ := hpart
    exact (leadsTo_recordTurn hbefore hvalue hrecord).fails (ih _ rfl)

theorem blames_records (read : List Record) (chars : List Char) :
    Blames (loop recordTurn read) chars fun cause =>
      ∃ rest, MisfitRecords read.isEmpty chars cause rest := by
  refine blames_loop (fun read chars cause => ∃ rest, MisfitRecords read.isEmpty chars cause rest)
    ?_ ?_ read chars
  · intro read chars
    refine (built_hasElement _).faults.blames_bind ((accepts_hasElement read.isEmpty).mono ?_)
    intro more mid hbefore
    cases more with
    | false => exact (faults_pure _).blames
    | true =>
      refine Blames.bind_faults (blames_record.mono ?_) fun _ => faults_pure _
      rintro cause ⟨rest, hrecord⟩
      exact ⟨rest, .here hbefore hrecord⟩
  · intro read chars
    refine Accepts.bind ((accepts_hasElement read.isEmpty).mono ?_)
    intro more mid hbefore
    cases more with
    | false =>
      apply accepts_pure
      rintro _ ⟨⟩
    | true =>
      refine Accepts.bind (accepts_record.mono ?_)
      rintro record last ⟨value, start, hblanks, hvalue, hrecord⟩
      apply accepts_pure
      rintro _ ⟨⟩ cause ⟨rest, hlater⟩
      exact ⟨rest, .later ⟨hbefore.blanks hblanks, hvalue⟩ hrecord hlater⟩

theorem leadsTo_table_refuse (hblanks : Blanks chars (c :: mid))
    (hc : c ∉ [' ', '\t', '\n', '\r', ',', ']', '}']) (hfirst : c ∉ Expected.sequence.firsts) :
    LeadsTo Reader.table chars (refuseShape .sequence (lead c)) (c :: mid) := by
  have hlist : c ≠ '[' := by simpa [Expected.firsts] using hfirst
  refine Reads.bind (reads_valueStart hblanks (fun hmem => hc (mem_ends_of_blank hmem))) ?_
  exact leadsTo_if_neg (by decide) hlist (LeadsTo.refl _ _)

/-- Before a misfit the reader of tables fails with it. -/
theorem fails_table (h : MisfitTable chars cause rest) :
    Fails Reader.table chars (.schema cause) := by
  cases h with
  | shape hshape =>
    obtain ⟨c, more, found, hblanks, hc, hfirst, hfinds, rfl⟩ := hshape.exists_first
    exact (leadsTo_table_refuse hblanks hc hfirst).fails (fails_refuseShape hfinds)
  | @records _ _ start _ hblanks hrecords =>
    have hall : Fails (Except.ok <$> records : Reader (Except SchemaCause (List Record))) start
        (.schema cause) := (fails_records [] hrecords rfl).bind _
    have hbody : Fails (enclosed listEnd (.ok <$> records) : Reader (List Record)) ('[' :: start)
        (.schema cause) := hall.enclosed (by decide)
    refine (reads_valueStart hblanks (by decide)).fails_bind ?_
    exact fails_if_pos (by decide) (hbody.bind _)

/-- What the reader of tables calls a misfit is one. -/
theorem blames_table :
    Blames Reader.table chars fun cause => ∃ rest, MisfitTable chars cause rest := by
  refine blames_valueStart fun c mid hblanks => blames_if (by decide) ?_ fun hlist => ?_
  · rintro rfl
    have hbody : Blames (Except.ok <$> records : Reader (Except SchemaCause (List Record))) mid
        fun cause => ∃ rest, MisfitTable chars cause rest := by
      refine Blames.bind_faults ((blames_records [] mid).mono ?_) fun _ => faults_pure _
      rintro cause ⟨rest, hrecords⟩
      exact ⟨rest, .records hblanks hrecords⟩
    refine Blames.bind_faults (blames_enclosed (by decide) built_listEnd.faults hbody ?_) ?_
    · refine Accepts.map ((accepts_records [] mid).mono ?_)
      rintro _ _ _ cause ⟨⟩
    · refine fun records => built_token.faults.bind fun next => ?_
      cases next with
      | none => exact faults_pure _
      | some => exact faults_refuseNext _
  · refine (blames_refuseShape hblanks (by simpa [Expected.firsts] using hlist)).mono ?_
    rintro cause ⟨rest, hshape⟩
    exact ⟨rest, .shape hshape⟩

end Reader

end ShaderBinding
