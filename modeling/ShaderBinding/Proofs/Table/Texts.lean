import ShaderBinding.Proofs.Table.Reading
import ShaderBinding.Table.Source

/-! Texts of tables. Every text that spells a table is read as that table, and no other text is read
as a table at all. -/

namespace ShaderBinding

namespace Reader

open Json

variable {chars start mid stop rest : List Char} {value : Value} {values : List Value}

theorem reads_hasElement_value {first : Bool} (hbefore : Before first chars start)
    (hvalue : Spells start (.value value) stop) : Reads (hasElement first) chars true start := by
  obtain ⟨c, begin, rfl, hc⟩ := hvalue.exists_first
  refine reads_hasElement hbefore (fun hmem => hc (mem_ends_of_blank hmem)) ?_
  rintro rfl
  exact hc (by decide)

/-! Records written as lists. -/

/-- The fields are the first elements of a list; others may follow. -/
theorem reads_fields (count : Nat) (stages : List Stage) (read : Members)
    {symbols : List (Option String)} {more : List Value}
    (h : SpellsElements (count == 0) chars (values ++ more) rest)
    (hsymbols : List.Forall₂ SpellsField values symbols) (hlength : stages.length = symbols.length) :
    ∃ last, Reads (fields count stages read) chars (.ok ((stages.zip symbols).reverse ++ read)) last ∧
      SpellsElements (count + stages.length == 0) last more rest := by
  induction stages generalizing chars values symbols count read with
  | nil =>
    obtain rfl : symbols = [] := List.length_eq_zero_iff.mp hlength.symm
    cases hsymbols
    exact ⟨chars, LeadsTo.refl _ _, h⟩
  | cons stage stages ih =>
    cases hsymbols with
    | nil => cases hlength
    | @cons value symbol values symbols hsymbol hsymbols =>
      cases h with
      | @more _ _ _ _ start stop _ hbefore hvalue hvalues =>
        have hnext : SpellsElements (count + 1 == 0) stop (values ++ more) rest := hvalues
        obtain ⟨last, hlast, hmore⟩ :=
          ih (count + 1) ((stage, symbol) :: read) hnext hsymbols (Nat.succ.inj hlength)
        refine ⟨last, ?_, ?_⟩
        · refine Reads.bind (reads_hasElement_value hbefore hvalue) ?_
          refine Reads.bind (reads_symbol .none hvalue hsymbol) ?_
          rw [List.zip_cons_cons, List.reverse_cons, List.append_assoc]
          exact hlast
        · rwa [List.length_cons, Nat.add_comm stages.length 1, ← Nat.add_assoc]

theorem accepts_fields (count : Nat) (stages : List Stage) (read : Members) (chars : List Char) :
    Accepts (fields count stages read) chars fun result stop => ∀ final, result = .ok final →
      ∃ symbols values, symbols.length = stages.length ∧ List.Forall₂ SpellsField values symbols ∧
        final = (stages.zip symbols).reverse ++ read ∧
          ∀ rest, Blanks stop (']' :: rest) → SpellsElements (count == 0) chars values rest := by
  induction stages generalizing count read chars with
  | nil =>
    apply accepts_pure
    rintro final ⟨⟩
    exact ⟨[], [], rfl, .nil, rfl, fun rest hblanks => .stop hblanks⟩
  | cons stage stages ih =>
    refine Accepts.bind ((accepts_hasElement (count == 0)).mono ?_)
    intro more mid hmore
    cases more with
    | false =>
      apply accepts_pure
      rintro final ⟨⟩
    | true =>
      refine Accepts.bind (accepts_symbol.mono ?_)
      rintro symbol last ⟨value, start, hblanks, hvalue, hsymbol⟩
      refine (ih (count + 1) ((stage, symbol) :: read) last).mono ?_
      intro result stop hrest final hfinal
      obtain ⟨symbols, values, hlength, hvalues, rfl, hspells⟩ := hrest final hfinal
      refine ⟨symbol :: symbols, value :: values, congrArg (· + 1) hlength, .cons hsymbol hvalues,
        ?_, fun rest h => .more (hmore.blanks hblanks) hvalue (hspells rest h)⟩
      rw [List.zip_cons_cons, List.reverse_cons, List.append_assoc]
      rfl

theorem record_of_symbols (raygen closestHit anyHit miss : Option String) :
    Members.record ((Stage.all.zip [raygen, closestHit, anyHit, miss]).reverse ++ []) =
      ⟨raygen, closestHit, anyHit, miss⟩ := rfl

/-! Records and lists of records. -/

theorem reads_record {record : Record} (hblanks : Blanks chars start)
    (h : Spells start (.value value) rest) (hrecord : SpellsRecord record value) :
    Reads Reader.record chars record rest := by
  cases hrecord with
  | object hmirrors =>
    obtain ⟨begin, rfl⟩ := h.object_start
    obtain ⟨final, hfinal, rfl⟩ := hmirrors.exists_collected
    have hmembers := reads_members (spellsMembers_true_iff.mpr h) hfinal
    refine Reads.bind (reads_valueStart hblanks (by decide)) ?_
    refine leadsTo_if_pos (by decide) (Reads.map ?_ Members.record)
    exact reads_enclosed (by decide) hmembers (reads_objectEnd .none)
  | @list raygen closestHit anyHit miss hraygen hclosestHit hanyHit hmiss =>
    obtain ⟨begin, rfl⟩ := h.list_start
    have hsymbols : List.Forall₂ SpellsField [raygen, closestHit, anyHit, miss]
        [record.raygen, record.closestHit, record.anyHit, record.miss] :=
      .cons hraygen (.cons hclosestHit (.cons hanyHit (.cons hmiss .nil)))
    have hspells : SpellsElements (0 == 0) begin ([raygen, closestHit, anyHit, miss] ++ []) rest :=
      spellsElements_true_iff.mpr h
    obtain ⟨last, hfields, hlast⟩ := reads_fields 0 Stage.all [] hspells hsymbols rfl
    refine Reads.bind (reads_valueStart hblanks (by decide)) ?_
    refine leadsTo_if_neg (by decide) (by decide) (leadsTo_if_pos (by decide) ?_)
    cases hlast with
    | stop hblanks =>
      exact (reads_enclosed (by decide) hfields (reads_listEnd hblanks)).map Members.record

theorem accepts_record : Accepts Reader.record chars fun record rest => ∃ value start,
    Blanks chars start ∧ Spells start (.value value) rest ∧ SpellsRecord record value := by
  refine accepts_valueStart ?_
  intro c mid hblanks
  refine accepts_if (by decide) ?_ ?_
  · rintro rfl
    refine Accepts.map (accepts_enclosed (by decide) ((accepts_members true [] mid).mono ?_))
    intro result stop h final hfinal
    obtain ⟨members, hmembers, hspells⟩ := h final hfinal
    refine accepts_objectEnd.mono ?_
    intro _ rest hend
    exact ⟨.object members, _, hblanks, spellsMembers_true_iff.mp (hspells rest hend),
      .object hmembers.mirrors⟩
  · intro _
    refine accepts_if (by decide) ?_ (fun _ => (refuses_refuseShape _ _).accepts)
    rintro rfl
    refine Accepts.map (accepts_enclosed (by decide) ((accepts_fields 0 Stage.all [] mid).mono ?_))
    intro result stop h final hfinal
    obtain ⟨symbols, values, hlength, hvalues, rfl, hspells⟩ := h final hfinal
    obtain ⟨raygen, closestHit, anyHit, miss, rfl⟩ := List.length_eq_four.mp hlength
    refine accepts_listEnd.mono ?_
    intro _ rest hend
    refine ⟨.list values, _, hblanks, spellsElements_true_iff.mp (hspells rest hend), ?_⟩
    rw [record_of_symbols]
    match values, hvalues with
    | [_, _, _, _], .cons hraygen (.cons hclosestHit (.cons hanyHit (.cons hmiss .nil))) =>
      exact .list hraygen hclosestHit hanyHit hmiss

/-- One record is read; behind it the list goes on or ends. -/
theorem leadsTo_recordTurn {read : List Record} {record : Record}
    (hbefore : Before read.isEmpty chars start) (hvalue : Spells start (.value value) stop)
    (hrecord : SpellsRecord record value) :
    LeadsTo (loop recordTurn read) chars (loop recordTurn (record :: read)) stop := by
  refine leadsTo_loop_again ?_ (hvalue.isTail.trans_suffix hbefore.suffix)
  refine Reads.bind (reads_hasElement_value hbefore hvalue) ?_
  exact Reads.bind (reads_record .none hvalue hrecord) (LeadsTo.refl _ _)

theorem reads_records {read new : List Record} (h : SpellsElements read.isEmpty chars values rest)
    (hnew : List.Forall₂ SpellsRecord new values) :
    Reads (loop recordTurn read) chars (new.reverse ++ read) (']' :: rest) := by
  induction hnew generalizing read chars with
  | nil =>
    cases h with
    | stop hblanks =>
      exact reads_loop_stop (Reads.bind (reads_hasElement_stop _ hblanks) (LeadsTo.refl _ _))
  | @cons record value new values hrecord _ ih =>
    cases h with
    | more hbefore hvalue hvalues =>
      rw [List.reverse_cons, List.append_assoc]
      exact LeadsTo.trans (leadsTo_recordTurn hbefore hvalue hrecord) (ih hvalues)

theorem accepts_records (read : List Record) (chars : List Char) :
    Accepts (loop recordTurn read) chars fun result stop => ∃ new values,
      List.Forall₂ SpellsRecord new values ∧ result = new.reverse ++ read ∧
        ∀ rest, Blanks stop (']' :: rest) → SpellsElements read.isEmpty chars values rest := by
  refine accepts_loop (fun read chars result stop => ∃ new values,
    List.Forall₂ SpellsRecord new values ∧ result = new.reverse ++ read ∧
      ∀ rest, Blanks stop (']' :: rest) → SpellsElements read.isEmpty chars values rest) ?_ read chars
  intro read chars
  refine Accepts.bind ((accepts_hasElement read.isEmpty).mono ?_)
  intro more mid hmore
  cases more with
  | false =>
    apply accepts_pure
    exact ⟨[], [], .nil, rfl, fun rest hblanks => .stop (hmore.1.trans hblanks)⟩
  | true =>
    refine Accepts.bind (accepts_record.mono ?_)
    rintro record last ⟨value, start, hblanks, hvalue, hrecord⟩
    apply accepts_pure
    rintro result stop ⟨new, values, hnew, rfl, hspells⟩
    refine ⟨record :: new, value :: values, .cons hrecord hnew, ?_,
      fun rest h => .more (hmore.blanks hblanks) hvalue (hspells rest h)⟩
    rw [List.reverse_cons, List.append_assoc]
    rfl

/-- What follows the closing bracket of a table. -/
def tableEnd (records : List Record) : Reader Table := do
  match ← token with
  | none => pure ⟨records⟩
  | some _ => refuseNext .trailingCharacters

theorem leadsTo_tableEnd {elements : List Value} {records : List Record} (hblanks : Blanks chars start)
    (h : Spells start (.value (.list elements)) rest)
    (hrecords : List.Forall₂ SpellsRecord records elements) :
    LeadsTo Reader.table chars (tableEnd records) rest := by
  obtain ⟨begin, rfl⟩ := h.list_start
  have hrun : Reads (loop recordTurn []) begin (records.reverse ++ []) (']' :: rest) :=
    reads_records (spellsElements_true_iff.mpr h) hrecords
  have hall : Reads (Except.ok <$> Reader.records : Reader (Except SchemaCause (List Record)))
      begin (.ok (records.reverse ++ [])) (']' :: rest) := hrun.map Except.ok
  refine Reads.bind (reads_valueStart hblanks (by decide)) (leadsTo_if_pos (by decide) ?_)
  refine Reads.bind (reads_enclosed (by decide) hall (reads_listEnd .none)) ?_
  rw [List.append_nil, List.reverse_reverse]
  exact LeadsTo.refl _ _

theorem reads_table {elements : List Value} {records : List Record}
    (htext : Json.Text chars (.list elements)) (hrecords : List.Forall₂ SpellsRecord records elements) :
    Reads Reader.table chars ⟨records⟩ [] := by
  cases htext with
  | mk hblanks h hend =>
    refine LeadsTo.trans (leadsTo_tableEnd hblanks h hrecords) ?_
    exact Reads.bind (reads_token_nil hend) (LeadsTo.refl _ _)

theorem accepts_table : Accepts Reader.table chars fun table _ => ∃ elements,
    Json.Text chars (.list elements) ∧ List.Forall₂ SpellsRecord table.records elements := by
  refine accepts_valueStart ?_
  intro c mid hblanks
  refine accepts_if (by decide) ?_ (fun _ => (refuses_refuseShape _ _).accepts)
  rintro rfl
  refine Accepts.bind (accepts_enclosed (by decide) (Accepts.map ((accepts_records [] mid).mono ?_)))
  rintro result stop ⟨records, elements, hrecords, rfl, hspells⟩ value ⟨⟩
  refine accepts_listEnd.mono ?_
  intro _ last hend
  refine accepts_token ?_ ?_
  · intro hrest
    apply accepts_pure
    have hlist := spellsElements_true_iff.mp (hspells last hend)
    refine ⟨elements, .mk hblanks hlist hrest, ?_⟩
    rw [List.append_nil, List.reverse_reverse]
    exact hrecords
  · intro c rest _ _
    exact (refuses_refuseNext _).accepts

end Reader

namespace Table

open Json

/-- Every text that spells a list of records is read as the table of these records. -/
theorem ofText_of_spells {text : String} {elements : List Value} {records : List Record}
    (htext : Json.Text text.toList (.list elements))
    (hrecords : List.Forall₂ SpellsRecord records elements) :
    Table.ofText text = .ok ⟨records⟩ := by
  obtain ⟨after, _, he⟩ := Reader.reads_table htext hrecords (.start (utf8Bytes text)) rfl
  have hread : Table.read .text (utf8Bytes text) = .ok ⟨records⟩ := by
    rw [Table.read, he]
    rfl
  rw [Table.ofText, hread]
  rfl

/-- A text with blanks, escapes, a member of no account, and a record without members. -/
def markedText : String :=
  " [\x7b\"m\\u0069ss\":\"\\ud83d\\uDE00\",\"x\":[-2.5e3,\x7b\x7d]\x7d , \x7b\x7d]"

def markedMembers : List (List Item × Value) :=
  [([.char 'm', .unit 0x69, .char 's', .char 's'], .string [.unit 0xD83D, .unit 0xDE00]),
   ([.char 'x'], .list [.number ['-', '2', '.', '5', 'e', '3'], .object []])]

/-- The characters of the first record. -/
def markedChars : List Char :=
  ['{', '"', 'm', '\\', 'u', '0', '0', '6', '9', 's', 's', '"', ':', '"', '\\', 'u', 'd', '8', '3', 'd',
    '\\', 'u', 'D', 'E', '0', '0', '"', ',', '"', 'x', '"', ':', '[', '-', '2', '.', '5', 'e', '3', ',',
    '{', '}', ']', '}']

theorem toList_markedText :
    markedText.toList = ' ' :: '[' :: (markedChars ++ [' ', ',', ' ', '{', '}', ']']) :=
  String.toList_ofList

theorem spellsItems_plain {c : Char} {chars rest : List Char} {items : List Item}
    (h : SpellsItems chars items rest) (hc : 0x20 ≤ c.toNat ∧ c ≠ '"' ∧ c ≠ '\\') :
    SpellsItems (c :: chars) (.char c :: items) rest :=
  .more (.plain hc.1 hc.2.1 hc.2.2) h

theorem spellsItems_unit {a b c d : Char} {i j k l number : Nat} {chars rest : List Char}
    {items : List Item} (h : SpellsItems chars items rest) (ha : hexDigit? a = some i)
    (hb : hexDigit? b = some j) (hc : hexDigit? c = some k) (hd : hexDigit? d = some l)
    (hnumber : ((i * 16 + j) * 16 + k) * 16 + l = number) :
    SpellsItems ('\\' :: 'u' :: a :: b :: c :: d :: chars) (.unit number :: items) rest := by
  subst hnumber
  exact .more (.unit (.mk ha hb hc hd)) h

theorem spells_markedChars (rest : List Char) :
    Spells (markedChars ++ rest) (.value (.object markedMembers)) rest := by
  have hkey : ∀ rest, SpellsItems
      ('m' :: '\\' :: 'u' :: '0' :: '0' :: '6' :: '9' :: 's' :: 's' :: '"' :: rest)
      [.char 'm', .unit 0x69, .char 's', .char 's'] rest := by
    intro rest
    refine spellsItems_plain (spellsItems_unit ?_ rfl rfl rfl rfl rfl) (by decide)
    exact spellsItems_plain (spellsItems_plain .close (by decide)) (by decide)
  have hpair : ∀ rest, SpellsItems
      ('\\' :: 'u' :: 'd' :: '8' :: '3' :: 'd' :: '\\' :: 'u' :: 'D' :: 'E' :: '0' :: '0' :: '"' ::
        rest) [.unit 0xD83D, .unit 0xDE00] rest :=
    fun rest => spellsItems_unit (spellsItems_unit .close rfl rfl rfl rfl rfl) rfl rfl rfl rfl rfl
  have hnumber : ∀ rest, Spells ('-' :: '2' :: '.' :: '5' :: 'e' :: '3' :: rest)
      (.value (.number ['-', '2', '.', '5', 'e', '3'])) rest :=
    fun rest => .number rfl (.negative (.mk (.one rfl (by decide)) (.digits (.one rfl))
      (.digits (by decide) .absent (.one rfl))))
  have hlist : ∀ rest, Spells
      ('[' :: '-' :: '2' :: '.' :: '5' :: 'e' :: '3' :: ',' :: '{' :: '}' :: ']' :: rest)
      (.value (.list [.number ['-', '2', '.', '5', 'e', '3'], .object []])) rest :=
    fun rest => .list .none (hnumber _)
      (.elements .none .none (.emptyObject .none) (.noElements .none))
  have hother : ∀ rest, SpellsItems ('x' :: '"' :: rest) [.char 'x'] rest :=
    fun rest => spellsItems_plain .close (by decide)
  exact .object .none (.member (hkey _) .none .none (.string (hpair _)))
    (.members .none .none (.member (hother _) .none .none (hlist _)) (.noMembers .none))

theorem markedText_spells :
    Json.Text markedText.toList (.list [.object markedMembers, .object []]) := by
  rw [toList_markedText]
  exact .mk (.more (by decide) .none) (.list .none (spells_markedChars _)
    (.elements (.more (by decide) .none) (.more (by decide) .none) (.emptyObject .none)
      (.noElements .none))) .none

theorem markedMembers_mirrors : Mirrors ⟨none, none, none, some "😀"⟩ markedMembers := by
  have hmiss : "miss".toList = ['m', 'i', 's', 's'] := String.toList_ofList
  have hsymbol : "😀".toList = ['😀'] := String.toList_ofList
  have hother : "x".toList = ['x'] := String.toList_ofList
  have hkey : Names [.char 'm', .unit 0x69, .char 's', .char 's'] .miss := by
    rw [Names, Stage.name, hmiss]
    exact .char 'm' (.units 'i' (.char 's' (.char 's' .nil)))
  have hfield : SpellsField (.string [.unit 0xD83D, .unit 0xDE00]) (some "😀") := by
    refine .string ?_
    rw [hsymbol]
    exact .units '😀' .nil
  have hunknown : Denotes [.char 'x'] "x".toList := by
    rw [hother]
    exact .char 'x' .nil
  have hcollected : Collected markedMembers [] [(.miss, some "😀")] :=
    .known hkey rfl hfield (.unknown hunknown rfl .nil)
  exact hcollected.mirrors

theorem ofText_of_spells_marked :
    Json.Text markedText.toList (.list [.object markedMembers, .object []]) ∧
      List.Forall₂ SpellsRecord [⟨none, none, none, some "😀"⟩, .empty]
        [.object markedMembers, .object []] ∧
      Table.ofText markedText = .ok ⟨[⟨none, none, none, some "😀"⟩, .empty]⟩ := by
  have hempty : Mirrors .empty [] := Collected.nil.mirrors
  have hrecords : List.Forall₂ SpellsRecord [⟨none, none, none, some "😀"⟩, .empty]
      [.object markedMembers, .object []] :=
    .cons (.object markedMembers_mirrors) (.cons (.object hempty) .nil)
  exact ⟨markedText_spells, hrecords, ofText_of_spells markedText_spells hrecords⟩

/-- Every text that is read as a table spells the records of that table. -/
theorem spells_of_ofText {text : String} {table : Table} (h : Table.ofText text = .ok table) :
    ∃ elements, Json.Text text.toList (.list elements) ∧ elements.length = table.size ∧
      List.Forall₂ SpellsRecord table.records elements := by
  rw [Table.ofText, Table.read] at h
  cases hrun : Reader.table .text (.start (utf8Bytes text)) with
  | failed fault after => simp [hrun, Except.mapError] at h
  | done read after =>
    rw [hrun] at h
    obtain rfl : read = table := Except.ok.inj h
    obtain ⟨_, _, elements, htext, hrecords⟩ := Reader.accepts_table _ _ _ rfl hrun
    exact ⟨elements, htext, hrecords.length_eq.symm, hrecords⟩

theorem spells_of_ofText_marked :
    Table.ofText markedText = .ok ⟨[⟨none, none, none, some "😀"⟩, .empty]⟩ ∧
      ∃ elements, Json.Text markedText.toList (.list elements) ∧ elements.length = 2 ∧
        List.Forall₂ SpellsRecord [⟨none, none, none, some "😀"⟩, .empty] elements := by
  have hread : Table.ofText markedText = .ok ⟨[⟨none, none, none, some "😀"⟩, .empty]⟩ := by
    decide +kernel
  exact ⟨hread, spells_of_ofText hread⟩

end Table

end ShaderBinding
