import ShaderBinding.Proofs.Json.Numbers
import ShaderBinding.Proofs.Table.Reading

/-! Misfits: the first place of a text at which no table can be spelled, though a value can. What
stands behind a misfit does not matter to it, and every misfit is one of a text that is a value. -/

namespace ShaderBinding

/-- The shapes that are taken where something is expected. -/
def Expected.admits : Expected → Found → Bool
  | sequence, .sequence => true
  | record, .sequence => true
  | record, .map => true
  | string, .null => true
  | string, .string _ => true
  | _, _ => false

namespace Json

variable {chars start mid stop next rest other : List Char} {cause : SchemaCause}

/-- What the value ahead is found to be. Of a list or an object only the bracket is read. -/
inductive Finds : List Char → Found → List Char → Prop
  | null {rest : List Char} : Finds ('n' :: 'u' :: 'l' :: 'l' :: rest) .null rest
  | yes {rest : List Char} : Finds ('t' :: 'r' :: 'u' :: 'e' :: rest) (.boolean true) rest
  | no {rest : List Char} : Finds ('f' :: 'a' :: 'l' :: 's' :: 'e' :: rest) (.boolean false) rest
  | positive {d : Decimal} {number : Number} {chars rest : List Char} : SpellsDecimal chars d rest →
      d.Stops rest → d.read? false = some number → Finds chars (.number number) rest
  | negative {d : Decimal} {number : Number} {chars rest : List Char} : SpellsDecimal chars d rest →
      d.Stops rest → d.read? true = some number → Finds ('-' :: chars) (.number number) rest
  | string {items : List Item} {text : String} {chars rest : List Char} :
      SpellsItems chars items rest → Denotes items text.toList →
      Finds ('"' :: chars) (.string text) rest
  | list {rest : List Char} : Finds ('[' :: rest) .sequence rest
  | object {rest : List Char} : Finds ('{' :: rest) .map rest

inductive WrongShape (expected : Expected) : List Char → SchemaCause → List Char → Prop
  | mk {found : Found} {chars start rest : List Char} :
      Blanks chars start → Finds start found rest →
      expected.admits found = false → WrongShape expected chars (.invalidType found expected) rest

/-- A key and the colon behind it. -/
inductive KeyAhead (first : Bool) (key : List Item) : List Char → List Char → Prop
  | mk {chars start stop rest : List Char} : Before first chars ('"' :: start) →
      SpellsItems start key stop → Blanks stop (':' :: rest) → KeyAhead first key chars rest

/-- An element or a member with what stands before it. -/
inductive PartAhead (first : Bool) (part : Phrase) : List Char → List Char → Prop
  | mk {chars start rest : List Char} : Before first chars start → Spells start part rest →
      PartAhead first part chars rest

/-- A misfit among the members of an object that is to be a record. -/
inductive MisfitMembers : Bool → Members → List Char → SchemaCause → List Char → Prop
  | duplicate {first : Bool} {read : Members} {key : List Item} {stage : Stage}
      {chars start rest : List Char} : Before first chars ('"' :: start) →
      SpellsItems start key rest → Names key stage → Members.has read stage = true →
      MisfitMembers first read chars (.duplicateField stage) rest
  | field {first : Bool} {read : Members} {key : List Item} {stage : Stage} {cause : SchemaCause}
      {chars next rest : List Char} : KeyAhead first key chars next → Names key stage →
      Members.has read stage = false → WrongShape .string next cause rest →
      MisfitMembers first read chars cause rest
  | later {first : Bool} {read more : Members} {member : List Item × Value} {cause : SchemaCause}
      {chars stop rest : List Char} : PartAhead first (.member member) chars stop →
      Takes read member more → MisfitMembers false more stop cause rest →
      MisfitMembers first read chars cause rest

/-- A misfit among the elements of a list that is to be a record, some of which have been read. -/
inductive MisfitFields : Nat → List Stage → List Char → SchemaCause → List Char → Prop
  | short {count : Nat} {stage : Stage} {stages : List Stage} {chars rest : List Char} :
      Blanks chars (']' :: rest) →
      MisfitFields count (stage :: stages) chars (.invalidLength count) rest
  | field {count : Nat} {stage : Stage} {stages : List Stage} {cause : SchemaCause}
      {chars start rest : List Char} : Before (count == 0) chars start →
      WrongShape .string start cause rest → MisfitFields count (stage :: stages) chars cause rest
  | later {count : Nat} {stage : Stage} {stages : List Stage} {cause : SchemaCause} {value : Value}
      {symbol : Option String} {chars stop rest : List Char} :
      PartAhead (count == 0) (.value value) chars stop → SpellsField value symbol →
      MisfitFields (count + 1) stages stop cause rest →
      MisfitFields count (stage :: stages) chars cause rest

inductive MisfitRecord : List Char → SchemaCause → List Char → Prop
  | shape {cause : SchemaCause} {chars rest : List Char} :
      WrongShape .record chars cause rest → MisfitRecord chars cause rest
  | object {cause : SchemaCause} {chars start rest : List Char} : Blanks chars ('{' :: start) →
      MisfitMembers true [] start cause rest → MisfitRecord chars cause rest
  | list {cause : SchemaCause} {chars start rest : List Char} : Blanks chars ('[' :: start) →
      MisfitFields 0 Stage.all start cause rest → MisfitRecord chars cause rest

inductive MisfitRecords : Bool → List Char → SchemaCause → List Char → Prop
  | here {first : Bool} {cause : SchemaCause} {chars start rest : List Char} :
      Before first chars start → MisfitRecord start cause rest → MisfitRecords first chars cause rest
  | later {first : Bool} {record : Record} {value : Value} {cause : SchemaCause}
      {chars stop rest : List Char} : PartAhead first (.value value) chars stop →
      SpellsRecord record value → MisfitRecords false stop cause rest →
      MisfitRecords first chars cause rest

inductive MisfitTable : List Char → SchemaCause → List Char → Prop
  | shape {cause : SchemaCause} {chars rest : List Char} :
      WrongShape .sequence chars cause rest → MisfitTable chars cause rest
  | records {cause : SchemaCause} {chars start rest : List Char} : Blanks chars ('[' :: start) →
      MisfitRecords true start cause rest → MisfitTable chars cause rest

/-! Nothing behind a misfit matters but the next character, at which a number may end. -/

def SameEnd (rest other : List Char) : Prop := other.head? = rest.head? ∨ Ends other

theorem Decimal.Stops.of_sameEnd {d : Decimal} (h : d.Stops rest) (hother : SameEnd rest other) :
    d.Stops other := by
  rcases hother with hhead | hends
  · exact h.of_head hhead
  · exact hends.stops d

theorem ends_nil : Ends [] := by simp [Ends]

theorem ends_cons {c : Char} (hc : c ∈ [' ', '\t', '\n', '\r', ',', ']', '}']) (rest : List Char) :
    Ends (c :: rest) := by
  intro d hd
  obtain rfl : c = d := by simpa using hd
  exact hc

/-- The characters up to a misfit are a misfit before any others that end it, and they can be
completed to what is spelled. -/
def Completable (misfit spelled : List Char → List Char → Prop) (chars rest : List Char) : Prop :=
  ∃ front more, chars = front ++ rest ∧
    (∀ other, SameEnd rest other → misfit (front ++ other) other) ∧
    ∀ other, Ends other → Ends (more ++ other) ∧ spelled (front ++ (more ++ other)) other

section

variable {misfit misfit' spelled spelled' : List Char → List Char → Prop}

theorem Completable.prepend (front : List Char) (h : Completable misfit spelled mid rest)
    (hmisfit : ∀ {begin last}, misfit begin last → misfit' (front ++ begin) last)
    (hspelled : ∀ {begin last}, spelled begin last → spelled' (front ++ begin) last) :
    Completable misfit' spelled' (front ++ mid) rest := by
  obtain ⟨back, more, rfl, hback, hmore⟩ := h
  refine ⟨front ++ back, more, (List.append_assoc _ _ _).symm, ?_, ?_⟩
  · intro other hother
    rw [List.append_assoc]
    exact hmisfit (hback other hother)
  · intro other hother
    obtain ⟨hends, hcompleted⟩ := hmore other hother
    rw [List.append_assoc]
    exact ⟨hends, hspelled hcompleted⟩

theorem Completable.close (back : List Char) (h : Completable misfit spelled chars rest)
    (hback : ∀ other, Ends (back ++ other))
    (hspelled : ∀ {begin last}, spelled begin (back ++ last) → spelled' begin last) :
    Completable misfit spelled' chars rest := by
  obtain ⟨front, more, rfl, hfront, hmore⟩ := h
  refine ⟨front, more ++ back, rfl, hfront, fun other _ => ?_⟩
  obtain ⟨hends, hcompleted⟩ := hmore (back ++ other) (hback other)
  rw [List.append_assoc]
  exact ⟨hends, hspelled hcompleted⟩

end

theorem local_before (first : Bool) : Local (Before first) := by
  intro chars rest h
  cases h with
  | first hblanks =>
    obtain ⟨blanks, rfl, hblanks'⟩ := local_blanks hblanks
    exact ⟨blanks, rfl, fun other => .first (hblanks' other)⟩
  | next hcomma hblanks =>
    obtain ⟨blanks, rfl, hblanks'⟩ := local_blanks hblanks
    obtain ⟨comma, rfl, hcomma'⟩ := local_blanks hcomma
    refine ⟨comma ++ ',' :: blanks, by simp, fun other => ?_⟩
    simp only [List.append_assoc, List.cons_append]
    exact .next (hcomma' _) (hblanks' other)

theorem local_keyAhead (first : Bool) (key : List Item) : Local (KeyAhead first key) := by
  intro chars rest h
  cases h with
  | mk hbefore hkey hcolon =>
    obtain ⟨colon, rfl, hcolon'⟩ := local_blanks hcolon
    obtain ⟨quoted, rfl, hkey'⟩ := local_spellsItems key hkey
    obtain ⟨front, rfl, hfront⟩ := local_before first hbefore
    refine ⟨front ++ '"' :: (quoted ++ (colon ++ [':'])), by simp, fun other => ?_⟩
    simp only [List.append_assoc, List.cons_append, List.nil_append]
    exact .mk (hfront _) (hkey' _) (hcolon' _)

theorem local_partAhead (first : Bool) (part : Phrase) : Local (PartAhead first part) := by
  intro chars rest h
  cases h with
  | mk hbefore hpart =>
    obtain ⟨spelled, rfl, hpart'⟩ := local_spells part hpart
    obtain ⟨front, rfl, hfront⟩ := local_before first hbefore
    refine ⟨front ++ spelled, by simp, fun other => ?_⟩
    rw [List.append_assoc]
    exact .mk (hfront _) (hpart' other)

/-! What is spelled when a misfit is completed. -/

def ValueAhead (chars rest : List Char) : Prop :=
  ∃ start value, Blanks chars start ∧ Spells start (.value value) rest

def MembersAhead (first : Bool) (chars rest : List Char) : Prop :=
  ∃ members, SpellsMembers first chars members rest

def ElementsAhead (first : Bool) (chars rest : List Char) : Prop :=
  ∃ values, SpellsElements first chars values rest

theorem valueAhead_number {d : Decimal} {chars rest : List Char} (h : SpellsDecimal chars d rest) :
    ValueAhead chars rest ∧ ValueAhead ('-' :: chars) rest := by
  obtain ⟨front, hfront⟩ := h.unsigned.isTail.1
  have hpositive := Spells.number hfront (.positive h.unsigned)
  have hnegative : Spells ('-' :: chars) (.value (.number ('-' :: front))) rest :=
    .number (congrArg ('-' :: ·) hfront) (.negative h.unsigned)
  exact ⟨⟨_, _, .none, hpositive⟩, _, _, .none, hnegative⟩

/-- Characters after which nothing is missing. -/
theorem Completable.of_whole {misfit spelled : List Char → List Char → Prop} (front : List Char)
    (hmisfit : ∀ other, SameEnd rest other → misfit (front ++ other) other)
    (hspelled : ∀ other, spelled (front ++ other) other) :
    Completable misfit spelled (front ++ rest) rest :=
  ⟨front, [], rfl, hmisfit, fun other hother => ⟨hother, hspelled other⟩⟩

theorem Finds.completable {found : Found} (h : Finds chars found rest) :
    Completable (fun chars rest => Finds chars found rest) ValueAhead chars rest := by
  cases h with
  | null => exact .of_whole ['n', 'u', 'l', 'l'] (fun _ _ => .null) fun _ => ⟨_, _, .none, .null⟩
  | yes => exact .of_whole ['t', 'r', 'u', 'e'] (fun _ _ => .yes) fun _ => ⟨_, _, .none, .yes⟩
  | no => exact .of_whole ['f', 'a', 'l', 's', 'e'] (fun _ _ => .no) fun _ => ⟨_, _, .none, .no⟩
  | positive h hrest hread =>
    obtain ⟨front, rfl, hfront⟩ := local_spellsDecimal _ h
    exact .of_whole front
      (fun other hother => .positive (hfront other) (hrest.of_sameEnd hother) hread)
      fun other => (valueAhead_number (hfront other)).1
  | negative h hrest hread =>
    obtain ⟨front, rfl, hfront⟩ := local_spellsDecimal _ h
    exact .of_whole ('-' :: front)
      (fun other hother => .negative (hfront other) (hrest.of_sameEnd hother) hread)
      fun other => (valueAhead_number (hfront other)).2
  | string h htext =>
    obtain ⟨front, rfl, hfront⟩ := local_spellsItems _ h
    exact .of_whole ('"' :: front) (fun other _ => .string (hfront other) htext)
      fun other => ⟨_, _, .none, .string (hfront other)⟩
  | list =>
    refine ⟨['['], [']'], rfl, fun _ _ => .list, fun other _ => ⟨ends_cons (by decide) _, ?_⟩⟩
    exact ⟨_, _, .none, .emptyList .none⟩
  | object =>
    refine ⟨['{'], ['}'], rfl, fun _ _ => .object, fun other _ => ⟨ends_cons (by decide) _, ?_⟩⟩
    exact ⟨_, _, .none, .emptyObject .none⟩

variable {expected : Expected}

theorem WrongShape.completable (h : WrongShape expected chars cause rest) :
    Completable (fun chars rest => WrongShape expected chars cause rest) ValueAhead chars rest := by
  cases h with
  | mk hblanks hfinds hadmits =>
    obtain ⟨blanks, rfl, hblanks'⟩ := local_blanks hblanks
    refine hfinds.completable.prepend blanks (fun h => .mk (hblanks' _) h hadmits) ?_
    rintro begin last ⟨start, value, hstart, hvalue⟩
    exact ⟨start, value, (hblanks' begin).trans hstart, hvalue⟩

theorem MisfitMembers.completable {first : Bool} {read : Members}
    (h : MisfitMembers first read chars cause rest) :
    Completable (fun chars rest => MisfitMembers first read chars cause rest) (MembersAhead first)
      chars rest := by
  induction h with
  | @duplicate first read key stage _ start rest hbefore hkey hname hhas =>
    obtain ⟨quoted, rfl, hkey'⟩ := local_spellsItems key hkey
    obtain ⟨front, rfl, hfront⟩ := local_before first hbefore
    have hduplicate : ∀ other, MisfitMembers first read (front ++ '"' :: quoted ++ other)
        (.duplicateField stage) other := by
      intro other
      rw [List.append_assoc]
      exact .duplicate (hfront _) (hkey' other) hname hhas
    refine ⟨front ++ '"' :: quoted, [' ', ':', 'n', 'u', 'l', 'l', '}'], by simp,
      fun other _ => hduplicate other, fun other _ => ⟨ends_cons (by decide) _, ?_⟩⟩
    have hmember := Spells.member (hkey' (' ' :: ':' :: 'n' :: 'u' :: 'l' :: 'l' :: '}' :: other))
      (.more (by decide) .none) .none .null
    rw [List.append_assoc]
    exact ⟨_, .more (hfront _) hmember (.stop .none)⟩
  | field hkey hname hnew hshape =>
    obtain ⟨front, rfl, hfront⟩ := local_keyAhead _ _ hkey
    have hclosed := hshape.completable.close ['}'] (fun _ => ends_cons (by decide) _)
      fun {begin last} h => h
    refine hclosed.prepend front (fun h => .field (hfront _) hname hnew h) ?_
    rintro begin last ⟨start, value, hblanks, hvalue⟩
    obtain ⟨hbefore, hquoted, hcolon⟩ := hfront begin
    exact ⟨_, .more hbefore (.member hquoted hcolon hblanks hvalue) (.stop .none)⟩
  | later hpart htakes _ ih =>
    obtain ⟨front, rfl, hfront⟩ := local_partAhead _ _ hpart
    refine ih.prepend front (fun h => .later (hfront _) htakes h) ?_
    rintro begin last ⟨members, hmembers⟩
    obtain ⟨hbefore, hmember⟩ := hfront begin
    exact ⟨_, .more hbefore hmember hmembers⟩

theorem MisfitFields.completable {count : Nat} {stages : List Stage}
    (h : MisfitFields count stages chars cause rest) :
    Completable (fun chars rest => MisfitFields count stages chars cause rest)
      (ElementsAhead (count == 0)) chars rest := by
  induction h with
  | short hblanks =>
    obtain ⟨front, rfl, hfront⟩ := local_blanks hblanks
    refine ⟨front ++ [']'], [], by simp, ?_, ?_⟩
    · intro other _
      rw [List.append_assoc]
      exact .short (hfront _)
    · intro other hother
      rw [List.append_assoc]
      exact ⟨hother, _, .stop (hfront _)⟩
  | field hbefore hshape =>
    obtain ⟨front, rfl, hfront⟩ := local_before _ hbefore
    have hclosed := hshape.completable.close [']'] (fun _ => ends_cons (by decide) _)
      fun {begin last} h => h
    refine hclosed.prepend front (fun h => .field (hfront _) h) ?_
    rintro begin last ⟨start, value, hblanks, hvalue⟩
    exact ⟨_, .more ((hfront begin).blanks hblanks) hvalue (.stop .none)⟩
  | later hpart hvalue _ ih =>
    obtain ⟨front, rfl, hfront⟩ := local_partAhead _ _ hpart
    refine ih.prepend front (fun h => .later (hfront _) hvalue h) ?_
    rintro begin last ⟨values, hvalues⟩
    obtain ⟨hbefore, hvalue⟩ := hfront begin
    exact ⟨_, .more hbefore hvalue hvalues⟩

theorem MisfitRecord.completable (h : MisfitRecord chars cause rest) :
    Completable (fun chars rest => MisfitRecord chars cause rest) ValueAhead chars rest := by
  cases h with
  | shape hshape => exact hshape.completable.prepend [] .shape id
  | @object _ _ start _ hblanks hmembers =>
    obtain ⟨front, rfl, hfront⟩ := local_blanks hblanks
    rw [← List.singleton_append, ← List.append_assoc]
    refine hmembers.completable.prepend (front ++ ['{']) ?_ ?_
    · intro begin last h
      rw [List.append_assoc]
      exact .object (hfront _) h
    · rintro begin last ⟨members, hmembers⟩
      rw [List.append_assoc]
      exact ⟨_, _, hfront _, spellsMembers_true_iff.mp hmembers⟩
  | list hblanks hfields =>
    obtain ⟨front, rfl, hfront⟩ := local_blanks hblanks
    rw [← List.singleton_append, ← List.append_assoc]
    refine hfields.completable.prepend (front ++ ['[']) ?_ ?_
    · intro begin last h
      rw [List.append_assoc]
      exact .list (hfront _) h
    · rintro begin last ⟨values, hvalues⟩
      rw [List.append_assoc]
      exact ⟨_, _, hfront _, spellsElements_true_iff.mp hvalues⟩

theorem MisfitRecords.completable {first : Bool} (h : MisfitRecords first chars cause rest) :
    Completable (fun chars rest => MisfitRecords first chars cause rest) (ElementsAhead first)
      chars rest := by
  induction h with
  | here hbefore hrecord =>
    obtain ⟨front, rfl, hfront⟩ := local_before _ hbefore
    have hclosed := hrecord.completable.close [']'] (fun _ => ends_cons (by decide) _)
      fun {begin last} h => h
    refine hclosed.prepend front (fun h => .here (hfront _) h) ?_
    rintro begin last ⟨start, value, hblanks, hvalue⟩
    exact ⟨_, .more ((hfront begin).blanks hblanks) hvalue (.stop .none)⟩
  | later hpart hrecord _ ih =>
    obtain ⟨front, rfl, hfront⟩ := local_partAhead _ _ hpart
    refine ih.prepend front (fun h => .later (hfront _) hrecord h) ?_
    rintro begin last ⟨values, hvalues⟩
    obtain ⟨hbefore, hvalue⟩ := hfront begin
    exact ⟨_, .more hbefore hvalue hvalues⟩

theorem MisfitTable.completable (h : MisfitTable chars cause rest) :
    Completable (fun chars rest => MisfitTable chars cause rest) ValueAhead chars rest := by
  cases h with
  | shape hshape => exact hshape.completable.prepend [] .shape id
  | records hblanks hrecords =>
    obtain ⟨front, rfl, hfront⟩ := local_blanks hblanks
    rw [← List.singleton_append, ← List.append_assoc]
    refine hrecords.completable.prepend (front ++ ['[']) ?_ ?_
    · intro begin last h
      rw [List.append_assoc]
      exact .records (hfront _) h
    · rintro begin last ⟨values, hvalues⟩
      rw [List.append_assoc]
      exact ⟨_, _, hfront _, spellsElements_true_iff.mp hvalues⟩

/-- A text with a misfit goes on as a valid text with the same misfit, and so does its beginning up
to the misfit before any other characters that end it in the same way. -/
theorem MisfitTable.exists_text (h : MisfitTable chars cause rest) : ∃ front more value,
    chars = front ++ rest ∧ Text (front ++ more) value ∧ MisfitTable (front ++ more) cause more ∧
      ∀ other, other.head? = rest.head? → MisfitTable (front ++ other) cause other := by
  obtain ⟨front, more, hchars, hfront, hmore⟩ := h.completable
  obtain ⟨hends, start, value, hblanks, hvalue⟩ := hmore [] ends_nil
  rw [List.append_nil] at hends hblanks
  exact ⟨front, more, value, hchars, .mk hblanks hvalue .none, hfront more (.inr hends),
    fun other hother => hfront other (.inl hother)⟩

end Json

end ShaderBinding
