import ShaderBinding.Proofs.Table.Verdicts

/-! Valid texts that are no tables. They are refused for a misfit, but for two exceptions: a list
that starts like a record and goes on, and a number close to the greatest one that has no place
there. -/

namespace ShaderBinding

namespace Json

/-- All strings of a value, the keys included, stand for texts. -/
inductive Legible : Value → Prop
  | null : Legible .null
  | boolean (value : Bool) : Legible (.boolean value)
  | number (text : List Char) : Legible (.number text)
  | string {items : List Item} {text : List Char} : Denotes items text → Legible (.string items)
  | list {elements : List Value} : (∀ element ∈ elements, Legible element) → Legible (.list elements)
  | object {members : List (List Item × Value)} :
      (∀ member ∈ members, ∃ text, Denotes member.1 text) →
      (∀ member ∈ members, Legible member.2) → Legible (.object members)

/-- A number that may be taken for one out of range. -/
def Extreme (value : Value) : Prop :=
  ∃ text negative d, value = .number text ∧ DecimalOf text negative d ∧ d.Extreme

/-- A list that starts like a record and goes on. -/
inductive Overlong : Value → Prop
  | list {fields : List Value} {symbols : List (Option String)} : 4 < fields.length →
      List.Forall₂ SpellsField (fields.take 4) symbols → Overlong (.list fields)

/-- A value with an extreme number in place of a record or of one of its fields. -/
inductive Astray : Value → Prop
  | record {value : Value} : Extreme value → Astray value
  | member {key : List Item} {value : Value} {stage : Stage} {members : List (List Item × Value)} :
      (key, value) ∈ members → Names key stage → Extreme value → Astray (.object members)
  | field {value : Value} {fields : List Value} :
      value ∈ fields.take 4 → Extreme value → Astray (.list fields)

/-- An element behind records only. -/
def Reached (p : Value → Prop) (values : List Value) : Prop :=
  ∃ front value back records, values = front ++ value :: back ∧
    List.Forall₂ SpellsRecord records front ∧ p value

variable {chars start stop rest : List Char} {value : Value}

theorem Reached.head {p : Value → Prop} (h : p value) (values : List Value) :
    Reached p (value :: values) :=
  ⟨[], value, values, [], rfl, .nil, h⟩

theorem Reached.cons {p : Value → Prop} {values : List Value} {record : Record}
    (hrecord : SpellsRecord record value) (h : Reached p values) : Reached p (value :: values) := by
  obtain ⟨front, other, back, records, rfl, hrecords, hother⟩ := h
  exact ⟨value :: front, other, back, record :: records, rfl, .cons hrecord hrecords, hother⟩

theorem Reached.exists_mem {p : Value → Prop} {values : List Value} (h : Reached p values) :
    ∃ value ∈ values, p value := by
  obtain ⟨front, value, back, _, rfl, _, hvalue⟩ := h
  exact ⟨value, by simp, hvalue⟩

theorem SpellsElements.ends {values : List Value} (h : SpellsElements false chars values rest) :
    Ends chars := by
  cases h with
  | stop hblanks => exact hblanks.ends (by decide)
  | more hbefore _ _ =>
    cases hbefore with
    | next hcomma _ => exact hcomma.ends (by decide)

theorem Blanks.ends_of_nil (h : Blanks chars []) : Ends chars := by
  cases h with
  | none => exact ends_nil
  | more hc _ => exact ends_cons (mem_ends_of_blank hc) _

theorem exists_spellsRecord {values : List Value} {symbols : List (Option String)}
    (h : List.Forall₂ SpellsField values symbols) (hlength : symbols.length = 4) :
    ∃ record, SpellsRecord record (.list values) := by
  obtain ⟨raygen, closestHit, anyHit, miss, rfl⟩ := List.length_eq_four.mp hlength
  match values, h with
  | [_, _, _, _], .cons hraygen (.cons hclosestHit (.cons hanyHit (.cons hmiss .nil))) =>
    exact ⟨⟨raygen, closestHit, anyHit, miss⟩, .list hraygen hclosestHit hanyHit hmiss⟩

theorem SpellsDecimal.whole {d : Decimal} {text : List Char} (h : SpellsDecimal chars d rest)
    (htext : text ++ rest = chars) : SpellsDecimal text d [] := by
  obtain ⟨front, hfront, hother⟩ := local_spellsDecimal d h
  obtain rfl : text = front := List.append_cancel_right (htext.trans hfront)
  simpa using hother []

end Json

namespace Reader

open Json

variable {α : Type} {chars start stop rest : List Char} {value : Value} {values : List Value}

/-- What a reader comes to before a value: it fits, or it has a misfit, or the reader fails to parse
it in one of two ways. -/
inductive Judged (reader : Reader α) (chars : List Char) (fits misfit overlong astray : Prop) : Prop
  | fits : fits → Judged reader chars fits misfit overlong astray
  | misfit : misfit → Judged reader chars fits misfit overlong astray
  | overlong : overlong → Fails reader chars (.parse .trailingCharacters) →
      Judged reader chars fits misfit overlong astray
  | astray : astray → Fails reader chars (.parse .numberOutOfRange) →
      Judged reader chars fits misfit overlong astray

theorem fails_number {d : Decimal} {negative : Bool} (h : SpellsDecimal chars d rest)
    (hrest : d.Stops rest) (hread : d.read? negative = none) :
    Fails (number negative) chars (.parse .numberOutOfRange) := by
  obtain ⟨stop, hleads, _⟩ := answers_number negative h hrest
  rw [hread] at hleads
  exact hleads.fails (fails_refuse _ stop)

/-- A number is found, or it is extreme and found to be out of range. -/
theorem judged_number {text : List Char} (h : Spells start (.value (.number text)) rest)
    (hrest : Ends rest) : ∃ c mid, start = c :: mid ∧ (c.isDigit = true ∨ c = '-') ∧
      Judged (found (lead c)) start False (∃ number, Finds start (.number number) rest) False
        (Extreme (.number text)) := by
  cases h with
  | number htext hnumeral =>
    cases hnumeral with
    | positive hunsigned =>
      obtain ⟨c, mid, rfl, hc⟩ := hunsigned.exists_digit
      obtain ⟨d, hd⟩ := hunsigned.exists_spellsDecimal
      refine ⟨c, mid, rfl, .inl hc, ?_⟩
      cases hread : d.read? false with
      | some number => exact .misfit ⟨number, .positive hd (hrest.stops d) hread⟩
      | none =>
        have hextreme := d.extreme_of_read? hd.allDigits hread
        refine .astray ⟨text, false, d, rfl, .positive (hd.whole htext), hextreme⟩ ?_
        obtain ⟨hn, ht, hf, hminus, _⟩ := ne_of_isDigit hc
        have hlead : isDigit (lead c) = true := by rwa [isDigit_lead]
        refine fails_if_neg (by decide) hn (fails_if_neg (by decide) ht ?_)
        refine fails_if_neg (by decide) hf (fails_if_neg (by decide) hminus ?_)
        rw [if_pos hlead]
        exact (fails_number hd (hrest.stops d) hread).bind _
    | @negative chars _ hunsigned =>
      obtain ⟨d, hd⟩ := hunsigned.exists_spellsDecimal
      refine ⟨'-', chars, rfl, .inr rfl, ?_⟩
      cases hread : d.read? true with
      | some number => exact .misfit ⟨number, .negative hd (hrest.stops d) hread⟩
      | none =>
        have hextreme := d.extreme_of_read? hd.allDigits hread
        obtain ⟨front, hfront⟩ := hunsigned.isTail.1
        obtain rfl : text = '-' :: front := by
          rw [← hfront, ← List.cons_append] at htext
          exact List.append_cancel_right htext
        refine .astray ⟨_, true, d, rfl, .negative (hd.whole hfront), hextreme⟩ ?_
        refine fails_if_neg (by decide) (by decide) (fails_if_neg (by decide) (by decide) ?_)
        refine fails_if_neg (by decide) (by decide) (fails_if_pos (by decide) ?_)
        exact (reads_eat (by decide) _).fails_bind ((fails_number hd (hrest.stops d) hread).bind _)

variable {expected : Expected} {reader : Reader α} {fits : Prop}

/-- A number where something else is expected. -/
theorem judged_number_refused {text : List Char} (hblanks : Blanks chars start)
    (h : Spells start (.value (.number text)) rest) (hrest : Ends rest)
    (hadmits : ∀ number, expected.admits (.number number) = false)
    (hreader : ∀ c mid, start = c :: mid → c.isDigit = true ∨ c = '-' →
      LeadsTo reader chars (refuseShape expected (lead c)) (c :: mid)) :
    Judged reader chars fits (∃ cause stop, WrongShape expected chars cause stop) False
      (Extreme (.number text)) := by
  obtain ⟨c, mid, rfl, hc, hjudged⟩ := judged_number h hrest
  cases hjudged with
  | fits h => exact h.elim
  | misfit h =>
    obtain ⟨number, hfinds⟩ := h
    exact .misfit ⟨_, _, .mk hblanks hfinds (hadmits number)⟩
  | overlong h _ => exact h.elim
  | astray hextreme hfails => exact .astray hextreme ((hreader c mid rfl hc).fails (hfails.bind _))

/-- No digit is among the signs of the syntax, and neither is a minus. -/
theorem not_mem_of_number {c : Char} {signs : List Char} (hc : c.isDigit = true ∨ c = '-')
    (h : signs.all (fun sign => decide (sign.isDigit = false ∧ sign ≠ '-')) = true) : c ∉ signs := by
  intro hmem
  obtain ⟨hdigit, hminus⟩ : c.isDigit = false ∧ c ≠ '-' := of_mem_of_all hmem h
  rcases hc with hc | hc
  · rw [hc] at hdigit
    cases hdigit
  · exact hminus hc

theorem judged_symbol (hlegible : Legible value) (hblanks : Blanks chars start)
    (h : Spells start (.value value) rest) (hrest : Ends rest) :
    Judged symbol chars (∃ symbol, SpellsField value symbol)
      (∃ cause stop, WrongShape .string chars cause stop) False (Extreme value) := by
  cases hlegible with
  | null => exact .fits ⟨none, .null⟩
  | boolean value =>
    cases h with
    | yes => exact .misfit ⟨_, _, .mk hblanks .yes rfl⟩
    | no => exact .misfit ⟨_, _, .mk hblanks .no rfl⟩
  | number text =>
    refine judged_number_refused hblanks h hrest (fun _ => rfl) ?_
    rintro c mid rfl hc
    exact leadsTo_symbol_refuse hblanks (not_mem_of_number hc (by decide))
      (not_mem_of_number hc (by decide))
  | @string items text htext =>
    rw [← String.toList_ofList (l := text)] at htext
    exact .fits ⟨_, .string htext⟩
  | list _ =>
    obtain ⟨begin, rfl⟩ := h.list_start
    exact .misfit ⟨_, _, .mk hblanks .list rfl⟩
  | object _ _ =>
    obtain ⟨begin, rfl⟩ := h.object_start
    exact .misfit ⟨_, _, .mk hblanks .object rfl⟩

/-! Members. -/

/-- The next member is taken, or it has a misfit, or its value is an extreme number. -/
theorem judged_member (read : Members) {first : Bool} {key : List Item} {value : Value}
    (hbefore : Before first chars start) (h : Spells start (.member (key, value)) rest)
    (hrest : Ends rest) (hkey : ∃ text, Denotes key text) (hvalue : Legible value) :
    Judged (loop memberTurn (first, read)) chars (∃ more, Takes read (key, value) more)
      (∃ cause stop, MisfitMembers first read chars cause stop) False
      ((∃ stage, Names key stage) ∧ Extreme value) := by
  obtain ⟨text, htext⟩ := hkey
  rw [← String.toList_ofList (l := text)] at htext
  cases h with
  | @member _ _ quoted colon next valueStart _ hquoted hcolon hblanks hspells =>
    cases hstage : Stage.ofName? (String.ofList text) with
    | none => exact .fits ⟨read, .unknown htext hstage⟩
    | some stage =>
      have hname : Names key stage := by
        rw [Names, Stage.ofName?_eq_some_iff.mp hstage]
        exact htext
      cases hhas : Members.has read stage with
      | true => exact .misfit ⟨_, _, .duplicate hbefore hquoted hname hhas⟩
      | false =>
        have hahead : KeyAhead first key chars next := .mk hbefore hquoted hcolon
        cases judged_symbol hvalue hblanks hspells hrest with
        | fits hsymbol =>
          obtain ⟨symbol, hsymbol⟩ := hsymbol
          exact .fits ⟨_, .known hname hhas hsymbol⟩
        | misfit hshape =>
          obtain ⟨cause, stop, hshape⟩ := hshape
          exact .misfit ⟨cause, stop, .field hahead hname hhas hshape⟩
        | overlong h _ => exact h.elim
        | astray hextreme hfails =>
          refine .astray ⟨⟨stage, hname⟩, hextreme⟩ (fails_loop ?_)
          refine (reads_hasMember hbefore).fails_bind ((reads_eat (by decide) _).fails_bind ?_)
          refine (reads_string htext hquoted).fails_bind ?_
          simp only [String.ofList_toList, hstage, hhas, Bool.false_eq_true, if_false]
          exact (reads_colon hcolon).fails_bind (hfails.bind _)

theorem judged_members (read : Members) {first : Bool} {members : List (List Item × Value)}
    (h : SpellsMembers first chars members rest)
    (hkeys : ∀ member ∈ members, ∃ text, Denotes member.1 text)
    (hvalues : ∀ member ∈ members, Legible member.2) :
    Judged (loop memberTurn (first, read)) chars (∃ final, Collected members read final)
      (∃ cause stop, MisfitMembers first read chars cause stop) False
      (∃ member ∈ members, (∃ stage, Names member.1 stage) ∧ Extreme member.2) := by
  induction h generalizing read with
  | stop _ => exact .fits ⟨read, .nil⟩
  | @more first member members chars start stop rest hbefore hmember hmembers ih =>
    obtain ⟨hkey, hkeys⟩ := List.forall_mem_cons.mp hkeys
    obtain ⟨hvalue, hvalues⟩ := List.forall_mem_cons.mp hvalues
    have hstop := hmembers.ends
    cases judged_member read hbefore hmember hstop hkey hvalue with
    | misfit h => exact .misfit h
    | overlong h _ => exact h.elim
    | astray hextreme hfails => exact .astray ⟨member, List.mem_cons_self, hextreme⟩ hfails
    | fits htakes =>
      obtain ⟨more, htakes⟩ := htakes
      have hleads := leadsTo_member hbefore hmember htakes hstop
      cases ih more hkeys hvalues with
      | fits h =>
        obtain ⟨final, hfinal⟩ := h
        exact .fits ⟨final, collected_cons_iff.mpr ⟨more, htakes, hfinal⟩⟩
      | misfit h =>
        obtain ⟨cause, last, hlater⟩ := h
        exact .misfit ⟨cause, last, .later ⟨hbefore, hmember⟩ htakes hlater⟩
      | overlong h _ => exact h.elim
      | astray h hfails =>
        obtain ⟨other, hother, hextreme⟩ := h
        exact .astray ⟨other, List.mem_cons_of_mem _ hother, hextreme⟩ (hleads.fails hfails)

/-! Fields. -/

theorem judged_fields (count : Nat) (stages : List Stage) (read : Members)
    (h : SpellsElements (count == 0) chars values rest) (hvalues : ∀ value ∈ values, Legible value) :
    Judged (fields count stages read) chars
      (∃ symbols, symbols.length = stages.length ∧
        List.Forall₂ SpellsField (values.take stages.length) symbols)
      (∃ cause stop, MisfitFields count stages chars cause stop) False
      (∃ value ∈ values.take stages.length, Extreme value) := by
  induction stages generalizing count read chars values with
  | nil => exact .fits ⟨[], rfl, .nil⟩
  | cons stage stages ih =>
    cases h with
    | stop hblanks => exact .misfit ⟨_, _, .short hblanks⟩
    | @more _ value values _ start stop _ hbefore hvalue hrest =>
      obtain ⟨hlegible, hvalues⟩ := List.forall_mem_cons.mp hvalues
      have helement := reads_hasElement_value hbefore hvalue
      cases judged_symbol hlegible .none hvalue hrest.ends with
      | misfit hshape =>
        obtain ⟨cause, last, hshape⟩ := hshape
        exact .misfit ⟨cause, last, .field hbefore hshape⟩
      | overlong h _ => exact h.elim
      | astray hextreme hfails =>
        exact .astray ⟨value, List.mem_cons_self, hextreme⟩ (helement.fails_bind (hfails.bind _))
      | fits hsymbol =>
        obtain ⟨symbol, hsymbol⟩ := hsymbol
        have hreads := reads_symbol .none hvalue hsymbol
        have hnext : SpellsElements (count + 1 == 0) stop values rest := hrest
        cases ih (count + 1) ((stage, symbol) :: read) hnext hvalues with
        | fits h =>
          obtain ⟨symbols, hlength, hsymbols⟩ := h
          exact .fits ⟨symbol :: symbols, congrArg (· + 1) hlength, .cons hsymbol hsymbols⟩
        | misfit h =>
          obtain ⟨cause, last, hlater⟩ := h
          exact .misfit ⟨cause, last, .later ⟨hbefore, hvalue⟩ hsymbol hlater⟩
        | overlong h _ => exact h.elim
        | astray h hfails =>
          obtain ⟨other, hother, hextreme⟩ := h
          refine .astray ⟨other, List.mem_cons_of_mem _ hother, hextreme⟩ ?_
          exact helement.fails_bind (hreads.fails_bind hfails)

theorem reads_tokenOrFailure {next : Option UInt8} (h : Reads token chars next rest) :
    Reads tokenOrFailure chars next rest := by
  intro cursor hcursor
  obtain ⟨after, hafter, he⟩ := h cursor hcursor
  refine ⟨after, hafter, ?_⟩
  rw [tokenOrFailure, he]
  rfl

/-- Behind the last field of a record there is no other element. -/
theorem fails_listEnd {values : List Value} (h : SpellsElements false chars (value :: values) rest) :
    Fails listEnd chars (.parse .trailingCharacters) := by
  cases h with
  | more hbefore hvalue _ =>
    cases hbefore with
    | next hcomma hblanks =>
      obtain ⟨c, mid, rfl, hc⟩ := hvalue.exists_first
      have hclose : c ≠ ']' := by
        rintro rfl
        exact hc (by decide)
      have htoken := reads_token_cons hblanks (fun hmem => hc (mem_ends_of_blank hmem))
      refine (reads_token_cons hcomma (by decide)).fails_bind ?_
      refine fails_if_neg (by decide) (by decide) (fails_if_pos (by decide) ?_)
      refine (reads_eat (by decide) _).fails_bind ((reads_tokenOrFailure htoken).fails_bind ?_)
      exact fails_if_neg (by decide) hclose (fails_refuseNext _ _)

/-! Records. -/

theorem judged_object {members : List (List Item × Value)}
    (h : Spells start (.value (.object members)) rest)
    (hkeys : ∀ member ∈ members, ∃ text, Denotes member.1 text)
    (hvalues : ∀ member ∈ members, Legible member.2) :
    Judged record start (∃ record, SpellsRecord record (.object members))
      (∃ cause stop, MisfitRecord start cause stop) (Overlong (.object members))
      (Astray (.object members)) := by
  obtain ⟨begin, rfl⟩ := h.object_start
  cases judged_members [] (spellsMembers_true_iff.mpr h) hkeys hvalues with
  | fits h =>
    obtain ⟨final, hfinal⟩ := h
    exact .fits ⟨final.record, .object hfinal.mirrors⟩
  | misfit h =>
    obtain ⟨cause, stop, hmembers⟩ := h
    exact .misfit ⟨cause, stop, .object .none hmembers⟩
  | overlong h _ => exact h.elim
  | astray h hfails =>
    obtain ⟨⟨key, value⟩, hmember, ⟨stage, hname⟩, hextreme⟩ := h
    refine .astray (.member hmember hname hextreme) ?_
    refine (reads_valueStart .none (by decide)).fails_bind ?_
    exact fails_if_pos (by decide) ((hfails.enclosed (by decide)).bind _)

/-- A list is judged by its first four elements, and by whether there are more. -/
theorem judged_sequence (h : Spells start (.value (.list values)) rest)
    (hvalues : ∀ value ∈ values, Legible value) :
    Judged record start (∃ record, SpellsRecord record (.list values))
      (∃ cause stop, MisfitRecord start cause stop) (Overlong (.list values))
      (Astray (.list values)) := by
  obtain ⟨begin, rfl⟩ := h.list_start
  have hspells : SpellsElements (0 == 0) begin values rest := spellsElements_true_iff.mpr h
  have hopen : ∀ {why}, Fails (enclosed listEnd (fields 0 Stage.all [])) ('[' :: begin) why →
      Fails record ('[' :: begin) why := by
    intro why hfails
    refine (reads_valueStart .none (by decide)).fails_bind ?_
    exact fails_if_neg (by decide) (by decide) (fails_if_pos (by decide) (hfails.bind _))
  cases judged_fields 0 Stage.all [] hspells hvalues with
  | misfit h =>
    obtain ⟨cause, stop, hfields⟩ := h
    exact .misfit ⟨cause, stop, .list .none hfields⟩
  | overlong h _ => exact h.elim
  | astray h hfails =>
    obtain ⟨value, hvalue, hextreme⟩ := h
    exact .astray (.field hvalue hextreme) (hopen (hfails.enclosed (by decide)))
  | fits h =>
    obtain ⟨symbols, hlength, hsymbols⟩ := h
    have hsplit := List.take_append_drop 4 values
    cases hmore : values.drop 4 with
    | nil =>
      rw [hmore, List.append_nil] at hsplit
      rw [← hsplit]
      exact .fits (exists_spellsRecord hsymbols hlength)
    | cons more others =>
      rw [← hsplit, hmore] at hspells
      obtain ⟨last, hreads, hlast⟩ := reads_fields 0 Stage.all [] hspells hsymbols hlength.symm
      have hfour : 4 < values.length := by
        by_contra hle
        rw [List.drop_eq_nil_of_le (Nat.le_of_not_lt hle)] at hmore
        cases hmore
      refine .overlong (.list hfour hsymbols) (hopen ?_)
      exact hreads.fails_enclosed (by decide) (fails_listEnd hlast)

theorem judged_record (hlegible : Legible value) (h : Spells start (.value value) rest)
    (hrest : Ends rest) : Judged record start (∃ record, SpellsRecord record value)
      (∃ cause stop, MisfitRecord start cause stop) (Overlong value) (Astray value) := by
  cases hlegible with
  | null =>
    cases h with
    | null => exact .misfit ⟨_, _, .shape (.mk .none .null rfl)⟩
  | boolean value =>
    cases h with
    | yes => exact .misfit ⟨_, _, .shape (.mk .none .yes rfl)⟩
    | no => exact .misfit ⟨_, _, .shape (.mk .none .no rfl)⟩
  | @string items text htext =>
    rw [← String.toList_ofList (l := text)] at htext
    cases h with
    | string hitems => exact .misfit ⟨_, _, .shape (.mk .none (.string hitems htext) rfl)⟩
  | number text =>
    have hrefuse : ∀ c mid, start = c :: mid → c.isDigit = true ∨ c = '-' →
        LeadsTo record start (refuseShape .record (lead c)) (c :: mid) := by
      rintro c mid rfl hc
      exact leadsTo_record_refuse .none (not_mem_of_number hc (by decide))
        (not_mem_of_number hc (by decide))
    have hjudged : Judged record start False (∃ cause stop, WrongShape .record start cause stop) False
        (Extreme (.number text)) := judged_number_refused .none h hrest (fun _ => rfl) hrefuse
    cases hjudged with
    | fits h => exact h.elim
    | misfit h =>
      obtain ⟨cause, stop, hshape⟩ := h
      exact .misfit ⟨cause, stop, .shape hshape⟩
    | overlong h _ => exact h.elim
    | astray hextreme hfails => exact .astray (.record hextreme) hfails
  | object hkeys hvalues => exact judged_object h hkeys hvalues
  | list hvalues => exact judged_sequence h hvalues

/-- The first element that is no record decides what becomes of the list. -/
theorem judged_records (read : List Record) {first : Bool}
    (h : SpellsElements first chars values rest) (hfirst : first = read.isEmpty)
    (hvalues : ∀ value ∈ values, Legible value) :
    Judged (loop recordTurn read) chars (∃ records, List.Forall₂ SpellsRecord records values)
      (∃ cause stop, MisfitRecords first chars cause stop)
      (Reached Overlong values) (Reached Astray values) := by
  induction h generalizing read with
  | stop hblanks => exact .fits ⟨[], .nil⟩
  | @more first value values chars start stop rest hbefore hvalue hrest ih =>
    subst hfirst
    obtain ⟨hlegible, hvalues⟩ := List.forall_mem_cons.mp hvalues
    have helement := reads_hasElement_value hbefore hvalue
    cases judged_record hlegible hvalue hrest.ends with
    | misfit hrecord =>
      obtain ⟨cause, last, hrecord⟩ := hrecord
      exact .misfit ⟨cause, last, .here hbefore hrecord⟩
    | overlong hoverlong hfails =>
      exact .overlong (.head hoverlong values) (fails_loop (helement.fails_bind (hfails.bind _)))
    | astray hastray hfails =>
      exact .astray (.head hastray values) (fails_loop (helement.fails_bind (hfails.bind _)))
    | fits hrecord =>
      obtain ⟨record, hrecord⟩ := hrecord
      have hleads := leadsTo_recordTurn hbefore hvalue hrecord
      cases ih (record :: read) rfl hvalues with
      | fits h =>
        obtain ⟨records, hrecords⟩ := h
        exact .fits ⟨record :: records, .cons hrecord hrecords⟩
      | misfit h =>
        obtain ⟨cause, last, hlater⟩ := h
        exact .misfit ⟨cause, last, .later ⟨hbefore, hvalue⟩ hrecord hlater⟩
      | overlong hreached hfails => exact .overlong (.cons hrecord hreached) (hleads.fails hfails)
      | astray hreached hfails => exact .astray (.cons hrecord hreached) (hleads.fails hfails)

theorem judged_list (hblanks : Blanks chars start)
    (h : Spells start (.value (.list values)) rest) (hvalues : ∀ value ∈ values, Legible value) :
    Judged Reader.table chars (∃ records, List.Forall₂ SpellsRecord records values)
      (∃ cause stop, MisfitTable chars cause stop) (Reached Overlong values)
      (Reached Astray values) := by
  obtain ⟨begin, rfl⟩ := h.list_start
  have hopen : ∀ {why}, Fails (loop recordTurn []) begin why → Fails Reader.table chars why := by
    intro why hfails
    have hall :
        Fails (Except.ok <$> records : Reader (Except SchemaCause (List Record))) begin why :=
      hfails.bind _
    have hbody : Fails (enclosed listEnd (.ok <$> records) : Reader (List Record)) ('[' :: begin)
        why := hall.enclosed (by decide)
    refine (reads_valueStart hblanks (by decide)).fails_bind ?_
    exact fails_if_pos (by decide) (hbody.bind _)
  cases judged_records [] (spellsElements_true_iff.mpr h) rfl hvalues with
  | fits hrecords => exact .fits hrecords
  | misfit h =>
    obtain ⟨cause, stop, hrecords⟩ := h
    exact .misfit ⟨cause, stop, .records hblanks hrecords⟩
  | overlong hreached hfails => exact .overlong hreached (hopen hfails)
  | astray hreached hfails => exact .astray hreached (hopen hfails)

/-- What is no list is no table. -/
theorem judged_table (hlegible : Legible value) (htext : Json.Text chars value)
    (hvalue : ∀ values, value ≠ .list values) : Judged Reader.table chars False
      (∃ cause stop, MisfitTable chars cause stop) False (Extreme value) := by
  obtain @⟨_, _, start, _, hblanks, h, hend⟩ := htext
  have hshape : ∀ {found stop}, Finds start found stop → Expected.sequence.admits found = false →
      ∃ cause stop, MisfitTable chars cause stop :=
    fun hfinds hadmits => ⟨_, _, .shape (.mk hblanks hfinds hadmits)⟩
  cases hlegible with
  | null =>
    cases h with
    | null => exact .misfit (hshape .null rfl)
  | boolean value =>
    cases h with
    | yes => exact .misfit (hshape .yes rfl)
    | no => exact .misfit (hshape .no rfl)
  | @string items text htext =>
    rw [← String.toList_ofList (l := text)] at htext
    cases h with
    | string hitems => exact .misfit (hshape (.string hitems htext) rfl)
  | object _ _ =>
    obtain ⟨begin, rfl⟩ := h.object_start
    exact .misfit (hshape .object rfl)
  | list _ => exact absurd rfl (hvalue _)
  | number text =>
    have hrefuse : ∀ c mid, start = c :: mid → c.isDigit = true ∨ c = '-' →
        LeadsTo Reader.table chars (refuseShape .sequence (lead c)) (c :: mid) := by
      rintro c mid rfl hc
      exact leadsTo_table_refuse hblanks (not_mem_of_number hc (by decide))
        (not_mem_of_number hc (by decide))
    have hjudged : Judged Reader.table chars False
        (∃ cause stop, WrongShape .sequence chars cause stop) False (Extreme (.number text)) :=
      judged_number_refused hblanks h hend.ends_of_nil (fun _ => rfl) hrefuse
    cases hjudged with
    | fits h => exact h.elim
    | misfit h =>
      obtain ⟨cause, stop, hshape⟩ := h
      exact .misfit ⟨cause, stop, .shape hshape⟩
    | overlong h _ => exact h.elim
    | astray hextreme hfails => exact .astray hextreme hfails

end Reader

namespace Table

open Json

theorem exists_error_of_fails {text : String} {why : Place → Fault}
    (h : Reader.Fails Reader.table text.toList why) :
    ∃ place, ofText text = .error (.table (why place)) := by
  obtain ⟨place, after, hrun⟩ := h (.start (utf8Bytes text)) rfl
  exact ⟨place, by rw [ofText_eq_run, hrun]⟩

theorem exists_schema_of_misfit {text : String}
    (h : ∃ cause stop, MisfitTable text.toList cause stop) :
    ∃ cause place, ofText text = .error (.table (.schema cause place)) := by
  obtain ⟨cause, stop, hmisfit⟩ := h
  exact ⟨cause, exists_error_of_fails (Reader.fails_table hmisfit)⟩

theorem exists_list_of_records {records : List Record} {elements : List Value}
    (h : List.Forall₂ SpellsRecord records elements)
    (hshape : ∃ element ∈ elements, ∀ members, element ≠ .object members) :
    ∃ fields, .list fields ∈ elements ∧ fields.length = 4 := by
  induction h with
  | nil => simp at hshape
  | @cons record element records elements hrecord _ ih =>
    obtain ⟨other, hother, hnot⟩ := hshape
    rcases List.mem_cons.mp hother with rfl | hother
    · cases hrecord with
      | object _ => exact absurd rfl (hnot _)
      | list _ _ _ _ => exact ⟨_, List.mem_cons_self, rfl⟩
    · obtain ⟨fields, hfields, hlength⟩ := ih ⟨other, hother, hnot⟩
      exact ⟨fields, List.mem_cons_of_mem _ hfields, hlength⟩

/-- A list with an element that is no object is refused for a misfit, unless that element is a list
that starts with the four fields of a record, or an extreme number has no place where it stands. -/
theorem ofText_of_element_not_object {text : String} {elements : List Value}
    (htext : Json.Text text.toList (.list elements)) (hlegible : Legible (.list elements))
    (hshape : ∃ element ∈ elements, ∀ members, element ≠ .object members) :
    (∃ cause place, ofText text = .error (.table (.schema cause place))) ∨
      (∃ table fields, ofText text = .ok table ∧
        List.Forall₂ SpellsRecord table.records elements ∧
        .list fields ∈ elements ∧ fields.length = 4) ∨
      (Reached Overlong elements ∧
        ∃ place, ofText text = .error (.table (.parse .trailingCharacters place))) ∨
      (Reached Astray elements ∧
        ∃ place, ofText text = .error (.table (.parse .numberOutOfRange place))) := by
  obtain ⟨hblanks, h, _⟩ := id htext
  cases hlegible with
  | list hvalues =>
    cases Reader.judged_list hblanks h hvalues with
    | misfit hmisfit => exact .inl (exists_schema_of_misfit hmisfit)
    | fits hrecords =>
      obtain ⟨records, hrecords⟩ := hrecords
      obtain ⟨fields, hfields, hlength⟩ := exists_list_of_records hrecords hshape
      have hread := ofText_of_spells htext hrecords
      exact .inr (.inl ⟨⟨records⟩, fields, hread, hrecords, hfields, hlength⟩)
    | overlong hreached hfails => exact .inr (.inr (.inl ⟨hreached, exists_error_of_fails hfails⟩))
    | astray hreached hfails => exact .inr (.inr (.inr ⟨hreached, exists_error_of_fails hfails⟩))

/-- Two records with an element between them that is none. -/
def mixedText : String :=
  "[\x7b\"m\\u0069ss\":\"\\ud83d\\uDE00\",\"x\":[-2.5e3,\x7b\x7d]\x7d,true,\x7b\x7d]"

def mixedElements : List Value := [.object markedMembers, .boolean true, .object []]

theorem mixedText_spells : Json.Text mixedText.toList (.list mixedElements) := by
  have hchars : mixedText.toList =
      '[' :: (markedChars ++ [',', 't', 'r', 'u', 'e', ',', '{', '}', ']']) := String.toList_ofList
  rw [hchars]
  exact .mk .none (.list .none (spells_markedChars _) (.elements .none .none .yes
    (.elements .none .none (.emptyObject .none) (.noElements .none)))) .none

theorem legible_mixedElements : Legible (.list mixedElements) := by
  have hempty : Legible (.object []) := .object (by simp) (by simp)
  have hkeys : ∀ member ∈ markedMembers, ∃ text, Denotes member.1 text :=
    List.forall_mem_cons.mpr ⟨⟨_, .char 'm' (.units 'i' (.char 's' (.char 's' .nil)))⟩,
      List.forall_mem_singleton.mpr ⟨_, .char 'x' .nil⟩⟩
  have hlist : Legible (.list [.number ['-', '2', '.', '5', 'e', '3'], .object []]) :=
    .list (List.forall_mem_cons.mpr ⟨.number _, List.forall_mem_singleton.mpr hempty⟩)
  have hvalues : ∀ member ∈ markedMembers, Legible member.2 :=
    List.forall_mem_cons.mpr ⟨.string (.units '😀' .nil), List.forall_mem_singleton.mpr hlist⟩
  exact .list (List.forall_mem_cons.mpr ⟨.object hkeys hvalues,
    List.forall_mem_cons.mpr ⟨.boolean true, List.forall_mem_singleton.mpr hempty⟩⟩)

theorem list_notMem_mixedElements (fields : List Value) : .list fields ∉ mixedElements := by
  simp [mixedElements]

/-- No number stands where a record or one of its fields is expected. -/
theorem not_reached_astray_mixedElements : ¬ Reached Astray mixedElements := by
  intro h
  obtain ⟨value, hvalue, hastray⟩ := h.exists_mem
  cases hastray with
  | record hextreme =>
    obtain ⟨text, _, _, rfl, _⟩ := hextreme
    simp [mixedElements] at hvalue
  | field _ _ => exact list_notMem_mixedElements _ hvalue
  | member hmember _ hextreme =>
    obtain ⟨text, _, _, rfl, _⟩ := hextreme
    simp only [mixedElements, List.mem_cons, Value.object.injEq, reduceCtorEq, List.not_mem_nil,
      or_false, false_or] at hvalue
    rcases hvalue with rfl | rfl
    · simp [markedMembers] at hmember
    · cases hmember

theorem ofText_of_element_not_object_mixed :
    Json.Text mixedText.toList (.list mixedElements) ∧ Legible (.list mixedElements) ∧
      (∃ element ∈ mixedElements, ∀ members, element ≠ .object members) ∧
      ∃ cause place, ofText mixedText = .error (.table (.schema cause place)) := by
  have hshape : ∃ element ∈ mixedElements, ∀ members, element ≠ .object members :=
    ⟨.boolean true, by simp [mixedElements], fun _ => nofun⟩
  refine ⟨mixedText_spells, legible_mixedElements, hshape, ?_⟩
  rcases ofText_of_element_not_object mixedText_spells legible_mixedElements hshape with
    hschema | ⟨_, fields, _, _, hfields, _⟩ | ⟨hoverlong, _⟩ | ⟨hastray, _⟩
  · exact hschema
  · exact absurd hfields (list_notMem_mixedElements fields)
  · obtain ⟨value, hvalue, hlist⟩ := hoverlong.exists_mem
    cases hlist with
    | list _ _ => exact absurd hvalue (list_notMem_mixedElements _)
  · exact absurd hastray not_reached_astray_mixedElements

/-- A record written as the list of its fields. -/
def listedText : String := "[[\"a\",\"b\",\"c\",\"d\"]]"

def listedFields : List Value := ['a', 'b', 'c', 'd'].map fun c => .string [.char c]

/-- An element that is no object may be a record all the same. -/
theorem ofText_listed : Json.Text listedText.toList (.list [.list listedFields]) ∧
    Legible (.list [.list listedFields]) ∧
      ofText listedText = .ok ⟨[⟨some "a", some "b", some "c", some "d"⟩]⟩ := by
  have hchars : listedText.toList = ['[', '[', '"', 'a', '"', ',', '"', 'b', '"', ',', '"', 'c', '"',
      ',', '"', 'd', '"', ']', ']'] := String.toList_ofList
  have hstring : ∀ c ∈ ['a', 'b', 'c', 'd'], ∀ rest,
      Spells ('"' :: c :: '"' :: rest) (.value (.string [.char c])) rest :=
    fun c hc rest => .string (spellsItems_plain .close (of_mem_of_all hc (by decide)))
  have hlist : Spells ('[' :: _) (.value (.list listedFields)) [']'] :=
    .list .none (hstring 'a' (by decide) _) (.elements .none .none (hstring 'b' (by decide) _)
      (.elements .none .none (hstring 'c' (by decide) _)
        (.elements .none .none (hstring 'd' (by decide) _) (.noElements .none))))
  have hlegible : ∀ value ∈ listedFields, Legible value := by
    intro value hvalue
    obtain ⟨c, _, rfl⟩ := List.mem_map.mp hvalue
    exact .string (.char c .nil)
  refine ⟨?_, .list (by simpa using Legible.list hlegible), by decide +kernel⟩
  rw [hchars]
  exact .mk .none (.list .none hlist (.noElements .none)) .none

/-- Valid texts without lists in their list are tables, or they are refused for a misfit, unless an
extreme number has no place where it stands. -/
theorem ofText_of_no_list_element {text : String} {value : Value}
    (htext : Json.Text text.toList value) (hlegible : Legible value)
    (hshape : ∀ elements fields, value = .list elements → .list fields ∉ elements) :
    (∃ table, ofText text = .ok table) ∨
      (∃ cause place, ofText text = .error (.table (.schema cause place))) ∨
      ((Extreme value ∨ ∃ elements, value = .list elements ∧ Reached Astray elements) ∧
        ∃ place, ofText text = .error (.table (.parse .numberOutOfRange place))) := by
  by_cases hlist : ∃ elements, value = .list elements
  · obtain ⟨elements, rfl⟩ := hlist
    obtain ⟨hblanks, h, _⟩ := id htext
    cases hlegible with
    | list hvalues =>
      cases Reader.judged_list hblanks h hvalues with
      | misfit hmisfit => exact .inr (.inl (exists_schema_of_misfit hmisfit))
      | fits hrecords =>
        obtain ⟨records, hrecords⟩ := hrecords
        exact .inl ⟨⟨records⟩, ofText_of_spells htext hrecords⟩
      | overlong hreached _ =>
        obtain ⟨front, element, back, _, rfl, _, hoverlong⟩ := hreached
        cases hoverlong with
        | @list fields _ _ _ => exact absurd (by simp) (hshape _ fields rfl)
      | astray hreached hfails =>
        exact .inr (.inr ⟨.inr ⟨elements, rfl, hreached⟩, exists_error_of_fails hfails⟩)
  · cases Reader.judged_table hlegible htext (not_exists.mp hlist) with
    | fits h => exact h.elim
    | misfit hmisfit => exact .inr (.inl (exists_schema_of_misfit hmisfit))
    | overlong h _ => exact h.elim
    | astray hextreme hfails => exact .inr (.inr ⟨.inl hextreme, exists_error_of_fails hfails⟩)

theorem ofText_of_no_list_element_mixed :
    Json.Text mixedText.toList (.list mixedElements) ∧ Legible (.list mixedElements) ∧
      (∀ elements fields, Value.list mixedElements = .list elements → .list fields ∉ elements) ∧
      ∃ cause place, ofText mixedText = .error (.table (.schema cause place)) := by
  have hshape : ∀ elements fields, Value.list mixedElements = .list elements →
      .list fields ∉ elements := by
    rintro _ fields ⟨⟩
    exact list_notMem_mixedElements fields
  have hrefused : (ofText mixedText).toBool = false := by decide +kernel
  refine ⟨mixedText_spells, legible_mixedElements, hshape, ?_⟩
  rcases ofText_of_no_list_element mixedText_spells legible_mixedElements hshape with
    ⟨table, htable⟩ | hschema | ⟨hextreme | ⟨_, ⟨⟩, hastray⟩, _⟩
  · rw [htable] at hrefused
    cases hrefused
  · exact hschema
  · obtain ⟨_, _, _, hnumber, _⟩ := hextreme
    cases hnumber
  · exact absurd hastray not_reached_astray_mixedElements

/-- A list of one number, which is less than the greatest double. -/
def greatText : String := "[1.797693134862315708e308]"

def greatNumber : Decimal :=
  ⟨['1'], ['7', '9', '7', '6', '9', '3', '1', '3', '4', '8', '6', '2', '3', '1', '5', '7', '0', '8'],
    some (true, ['3', '0', '8'])⟩

def greatDigits : List Char := '1' :: '.' :: (greatNumber.fraction ++ ['e', '3', '0', '8'])

theorem size_greatNumber : greatNumber.size ≤ Magnitude.greatest := by
  have hle : 1797693134862315708 * 10 ^ 290 ≤ 9007199254740991 * 2 ^ 971 := by decide +kernel
  have hdigits : digitsValue (greatNumber.whole ++ greatNumber.fraction) 0 = 1797693134862315708 := by
    decide +kernel
  have hscale : greatNumber.scale - greatNumber.fraction.length = (290 : Nat) := by decide +kernel
  have hexponent : Magnitude.greatestExponent = (971 : Nat) := rfl
  have hsignificand : (2 ^ 53 - 1 : ℚ) = 9007199254740991 := by norm_num
  have hcast := Nat.cast_le (α := ℚ) |>.mpr hle
  rw [Decimal.size, hdigits, hscale, zpow_natCast, Magnitude.greatest, hexponent, zpow_natCast,
    hsignificand]
  simpa only [Nat.cast_mul, Nat.cast_pow, Nat.cast_ofNat] using hcast

theorem spellsDecimal_great (rest : List Char) :
    SpellsDecimal (greatDigits ++ rest) greatNumber rest := by
  have hsign : SpellsSign ('3' :: (['0', '8'] ++ rest)) true ('3' :: (['0', '8'] ++ rest)) := .absent
  have hexponent : SpellsExponent ('e' :: '3' :: '0' :: '8' :: rest) (some (true, ['3', '0', '8']))
      rest := .digits (by decide) hsign rfl (by simp [AllDigits])
  have hfraction : SpellsFraction
      ('.' :: '7' :: (greatNumber.fraction.tail ++ 'e' :: '3' :: '0' :: '8' :: rest))
      greatNumber.fraction ('e' :: '3' :: '0' :: '8' :: rest) :=
    .digits rfl (by simp [AllDigits, greatNumber])
  have hwhole : SpellsWhole (greatDigits ++ rest) greatNumber.whole
      ('.' :: '7' :: (greatNumber.fraction.tail ++ 'e' :: '3' :: '0' :: '8' :: rest)) :=
    .digits rfl (by decide) allDigits_nil
  exact .mk hwhole hfraction hexponent

/-- A number in the range of doubles may be found to be out of range. -/
theorem ofText_great : Json.Text greatText.toList (.list [.number greatDigits]) ∧
    DecimalOf greatDigits false greatNumber ∧ greatNumber.size ≤ Magnitude.greatest ∧
      ofText greatText = .error (.table (.parse .numberOutOfRange ⟨1, 25⟩)) := by
  have hchars : greatText.toList = '[' :: (greatDigits ++ [']']) := by decide +kernel
  have hnumber : Spells (greatDigits ++ [']']) (.value (.number greatDigits)) [']'] :=
    .number rfl (.positive (spellsDecimal_great [']']).unsigned)
  have hdecimal := spellsDecimal_great []
  rw [List.append_nil] at hdecimal
  refine ⟨?_, .positive hdecimal, size_greatNumber, by decide +kernel⟩
  rw [hchars]
  exact .mk .none (.list .none hnumber (.noElements .none)) .none

end Table

end ShaderBinding
