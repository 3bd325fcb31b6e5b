import ShaderBinding.Proofs.Json.SkippedValues
import ShaderBinding.Proofs.Table.Spelling

/-! Reading the parts of a table: each reader accepts what spells its value, and nothing else. -/

namespace ShaderBinding

namespace Json

variable {chars mid rest : List Char}

/-- The members of an object from where its first one or a later one stands, up to the closing
bracket. -/
inductive SpellsMembers : Bool → List Char → List (List Item × Value) → List Char → Prop
  | stop {first : Bool} {chars rest : List Char} :
      Blanks chars ('}' :: rest) → SpellsMembers first chars [] rest
  | more {first : Bool} {member : List Item × Value} {members : List (List Item × Value)}
      {chars start stop rest : List Char} :
      Before first chars start → Spells start (.member member) stop →
      SpellsMembers false stop members rest → SpellsMembers first chars (member :: members) rest

inductive SpellsElements : Bool → List Char → List Value → List Char → Prop
  | stop {first : Bool} {chars rest : List Char} :
      Blanks chars (']' :: rest) → SpellsElements first chars [] rest
  | more {first : Bool} {value : Value} {values : List Value} {chars start stop rest : List Char} :
      Before first chars start → Spells start (.value value) stop →
      SpellsElements false stop values rest → SpellsElements first chars (value :: values) rest

theorem spellsMembers_false_iff {members : List (List Item × Value)} :
    SpellsMembers false chars members rest ↔ Spells chars (.members members) rest := by
  constructor
  · intro h
    induction members generalizing chars with
    | nil =>
      cases h with
      | stop hblanks => exact .noMembers hblanks
    | cons member members ih =>
      cases h with
      | more hbefore hmember hmembers =>
        cases hbefore with
        | next hcomma hblanks => exact .members hcomma hblanks hmember (ih hmembers)
  · intro h
    induction members generalizing chars with
    | nil =>
      cases h with
      | noMembers hblanks => exact .stop hblanks
    | cons member members ih =>
      cases h with
      | members hcomma hblanks hmember hmembers =>
        exact .more (.next hcomma hblanks) hmember (ih hmembers)

theorem spellsMembers_true_iff {members : List (List Item × Value)} :
    SpellsMembers true chars members rest ↔
      Spells ('{' :: chars) (.value (.object members)) rest := by
  constructor
  · intro h
    cases h with
    | stop hblanks => exact .emptyObject hblanks
    | more hbefore hmember hmembers =>
      cases hbefore with
      | first hblanks => exact .object hblanks hmember (spellsMembers_false_iff.mp hmembers)
  · intro h
    cases h with
    | emptyObject hblanks => exact .stop hblanks
    | object hblanks hmember hmembers =>
      exact .more (.first hblanks) hmember (spellsMembers_false_iff.mpr hmembers)

theorem spellsElements_false_iff {values : List Value} :
    SpellsElements false chars values rest ↔ Spells chars (.elements values) rest := by
  constructor
  · intro h
    induction values generalizing chars with
    | nil =>
      cases h with
      | stop hblanks => exact .noElements hblanks
    | cons value values ih =>
      cases h with
      | more hbefore hvalue hvalues =>
        cases hbefore with
        | next hcomma hblanks => exact .elements hcomma hblanks hvalue (ih hvalues)
  · intro h
    induction values generalizing chars with
    | nil =>
      cases h with
      | noElements hblanks => exact .stop hblanks
    | cons value values ih =>
      cases h with
      | elements hcomma hblanks hvalue hvalues =>
        exact .more (.next hcomma hblanks) hvalue (ih hvalues)

theorem spellsElements_true_iff {values : List Value} :
    SpellsElements true chars values rest ↔
      Spells ('[' :: chars) (.value (.list values)) rest := by
  constructor
  · intro h
    cases h with
    | stop hblanks => exact .emptyList hblanks
    | more hbefore hvalue hvalues =>
      cases hbefore with
      | first hblanks => exact .list hblanks hvalue (spellsElements_false_iff.mp hvalues)
  · intro h
    cases h with
    | emptyList hblanks => exact .stop hblanks
    | list hblanks hvalue hvalues =>
      exact .more (.first hblanks) hvalue (spellsElements_false_iff.mpr hvalues)

theorem SpellsMembers.ends {members : List (List Item × Value)}
    (h : SpellsMembers false chars members rest) : Ends chars := by
  cases h with
  | stop hblanks => exact hblanks.ends (by decide)
  | more hbefore _ _ =>
    cases hbefore with
    | next hcomma _ => exact hcomma.ends (by decide)

theorem Before.suffix {first : Bool} (h : Before first chars rest) : rest <:+ chars := by
  cases h with
  | first hblanks => exact hblanks.suffix
  | next hcomma hblanks => exact hblanks.suffix.trans ((List.suffix_cons ',' _).trans hcomma.suffix)

theorem Before.blanks {first : Bool} (h : Before first chars mid) (h' : Blanks mid rest) :
    Before first chars rest := by
  cases h with
  | first hblanks => exact .first (hblanks.trans h')
  | next hcomma hblanks => exact .next hcomma (hblanks.trans h')

end Json

namespace Reader

open Json

variable {α β : Type} {chars start mid stop rest : List Char} {value : Value}

theorem Reads.map {reader : Reader α} {result : α} (h : Reads reader chars result rest)
    (f : α → β) : Reads (f <$> reader) chars (f result) rest :=
  Reads.bind h (LeadsTo.refl _ _)

theorem Accepts.map {reader : Reader α} {post : β → List Char → Prop} {f : α → β}
    (h : Accepts reader chars fun result rest => post (f result) rest) :
    Accepts (f <$> reader) chars post :=
  Accepts.bind (h.mono fun _ _ hpost => accepts_pure hpost)

theorem refuses_refuseShape (expected : Expected) (b : UInt8) :
    Refuses (refuseShape expected b : Reader α) :=
  Refuses.bind fun _ => refuses_mismatch _

/-! Symbols. -/

theorem reads_symbol {field : Option String} (hblanks : Blanks chars start)
    (h : Spells start (.value value) rest) (hfield : SpellsField value field) :
    Reads symbol chars field rest := by
  cases hfield with
  | null =>
    cases h with
    | null =>
      refine Reads.bind (reads_token_cons hblanks (by decide)) ?_
      refine leadsTo_if_pos (by decide) (Reads.bind (reads_eat (by decide) _) ?_)
      exact Reads.bind (reads_word (by decide) rest) (LeadsTo.refl _ _)
  | @string items text htext =>
    cases h with
    | string h =>
      refine Reads.bind (reads_token_cons hblanks (by decide)) ?_
      refine leadsTo_if_neg (by decide) (by decide) (leadsTo_if_pos (by decide) ?_)
      have hstring := reads_string htext h
      rw [String.ofList_toList] at hstring
      exact Reads.bind (reads_eat (by decide) _) (hstring.map some)

theorem accepts_symbol : Accepts symbol chars fun field rest => ∃ value start,
    Blanks chars start ∧ Spells start (.value value) rest ∧ SpellsField value field := by
  refine accepts_token_some (refuses_refuseNext _) ?_
  intro c mid hblanks _
  refine accepts_if (by decide) ?_ ?_
  · rintro rfl
    refine Reads.accepts_bind (reads_eat (by decide) mid) ?_
    refine Accepts.bind ((accepts_word (by decide)).mono ?_)
    rintro _ rest rfl
    exact accepts_pure ⟨.null, _, hblanks, .null, .null⟩
  · intro _
    refine accepts_if (by decide) ?_ (fun _ => (refuses_refuseShape _ _).accepts)
    rintro rfl
    refine Reads.accepts_bind (reads_eat (by decide) mid) (Accepts.map (accepts_string.mono ?_))
    rintro text rest ⟨items, hitems, htext⟩
    exact ⟨.string items, _, hblanks, .string hitems, .string htext⟩

/-! Objects. -/

theorem ofName?_of_names {key : List Item} {stage : Stage} (h : Names key stage) :
    ∃ text, Denotes key text ∧ Stage.ofName? (String.ofList text) = some stage := by
  refine ⟨stage.name.toList, h, ?_⟩
  rw [String.ofList_toList]
  exact Stage.ofName?_eq_some_iff.mpr rfl

/-- One member is read; behind it the object goes on or ends. -/
theorem leadsTo_member {first : Bool} {member : List Item × Value} {read more : Members}
    (hbefore : Before first chars start) (hmember : Spells start (.member member) stop)
    (htakes : Takes read member more) (hstop : Ends stop) :
    LeadsTo (loop memberTurn (first, read)) chars (loop memberTurn (false, more)) stop := by
  refine leadsTo_loop_again ?_ (hmember.isTail.trans_suffix hbefore.suffix)
  cases hmember with
  | member hkey hcolon hnext hvalue =>
    refine Reads.bind (reads_hasMember hbefore) (Reads.bind (reads_eat (by decide) _) ?_)
    cases htakes with
    | known hname hnew hsymbol =>
      obtain ⟨text, htext, hstage⟩ := ofName?_of_names hname
      refine Reads.bind (reads_string htext hkey) ?_
      simp only [hstage, hnew, Bool.false_eq_true, if_false]
      refine Reads.bind (reads_colon hcolon) ?_
      exact Reads.bind (reads_symbol hnext hvalue hsymbol) (LeadsTo.refl _ _)
    | unknown htext hnone =>
      refine Reads.bind (reads_string htext hkey) ?_
      simp only [String.ofList_toList, hnone]
      refine Reads.bind (reads_colon hcolon) ?_
      exact Reads.bind (reads_skipValue hnext hvalue hstop) (LeadsTo.refl _ _)

/-- What a turn comes to: another member, the end of the object, or a stage that is named again. -/
inductive Turned (first : Bool) (read : Members) (chars : List Char) :
    Turn (Bool × Members) (Except SchemaCause Members) → List Char → Prop
  | member {member : List Item × Value} {more : Members} {start rest : List Char} :
      Before first chars start → Spells start (.member member) rest → Takes read member more →
      Turned first read chars (.again (false, more)) rest
  | stop {last : List Char} : Blanks chars ('}' :: last) →
      Turned first read chars (.stop (.ok read)) ('}' :: last)
  | duplicate {key : List Item} {stage : Stage} {start rest : List Char} :
      Before first chars ('"' :: start) → SpellsItems start key rest → Names key stage →
      Members.has read stage = true →
      Turned first read chars (.stop (.error (.duplicateField stage))) rest

theorem accepts_memberTurn (first : Bool) (read : Members) (chars : List Char) :
    Accepts (memberTurn (first, read)) chars (Turned first read chars) := by
  refine Accepts.bind ((accepts_hasMember first).mono ?_)
  rintro more start hmore
  cases more with
  | false =>
    obtain ⟨hblanks, last, rfl⟩ := hmore
    exact accepts_pure (.stop hblanks)
  | true =>
    obtain ⟨hbefore, begin, rfl⟩ := hmore
    refine Reads.accepts_bind (reads_eat (by decide) begin) ?_
    refine Accepts.bind (accepts_string.mono ?_)
    rintro text colon ⟨key, hkey, htext⟩
    split
    · rename_i stage hstage
      have hname : Names key stage := by
        rw [Names, Stage.ofName?_eq_some_iff.mp hstage]
        exact htext
      split
      · rename_i hhas
        exact accepts_pure (.duplicate hbefore hkey hname hhas)
      · rename_i hnew
        refine Accepts.bind (accepts_colon.mono ?_)
        intro _ next hcolon
        refine Accepts.bind (accepts_symbol.mono ?_)
        rintro symbol last ⟨value, start, hblanks, hvalue, hsymbol⟩
        exact accepts_pure (.member hbefore (.member hkey hcolon hblanks hvalue)
          (.known hname (by simpa using hnew) hsymbol))
    · rename_i hnone
      refine Accepts.bind (accepts_colon.mono ?_)
      intro _ next hcolon
      refine Accepts.bind (accepts_skipValue.mono ?_)
      rintro _ last ⟨value, start, hblanks, hvalue⟩
      exact accepts_pure (.member hbefore (.member hkey hcolon hblanks hvalue)
        (.unknown htext hnone))

theorem reads_members {first : Bool} {members : List (List Item × Value)} {read final : Members}
    (h : SpellsMembers first chars members rest) (hfinal : Collected members read final) :
    Reads (loop memberTurn (first, read)) chars (.ok final) ('}' :: rest) := by
  induction h generalizing read with
  | stop hblanks =>
    cases hfinal
    exact reads_loop_stop (Reads.bind (reads_hasMember_stop _ hblanks) (LeadsTo.refl _ _))
  | more hbefore hmember hmembers ih =>
    obtain ⟨more, htakes, hrest⟩ := collected_cons_iff.mp hfinal
    exact LeadsTo.trans (leadsTo_member hbefore hmember htakes hmembers.ends) (ih hrest)

theorem accepts_members (first : Bool) (read : Members) (chars : List Char) :
    Accepts (loop memberTurn (first, read)) chars fun result stop => ∀ final, result = .ok final →
      ∃ members, Collected members read final ∧
        ∀ rest, Blanks stop ('}' :: rest) → SpellsMembers first chars members rest := by
  refine accepts_loop (fun state chars result stop => ∀ final, result = Except.ok final →
    ∃ members, Collected members state.2 final ∧ ∀ rest, Blanks stop ('}' :: rest) →
      SpellsMembers state.1 chars members rest) ?_ (first, read) chars
  rintro ⟨first, read⟩ chars
  refine (accepts_memberTurn first read chars).mono ?_
  intro done rest hturned
  cases hturned with
  | @member member _ _ _ hbefore hmember htakes =>
    intro result stop hrest final hfinal
    obtain ⟨members, hmembers, hspells⟩ := hrest final hfinal
    exact ⟨member :: members, collected_cons_iff.mpr ⟨_, htakes, hmembers⟩,
      fun rest h => .more hbefore hmember (hspells rest h)⟩
  | stop hblanks =>
    rintro final ⟨⟩
    exact ⟨[], .nil, fun rest h => .stop (hblanks.trans h)⟩
  | duplicate _ _ _ _ =>
    rintro final ⟨⟩

end Reader

end ShaderBinding
