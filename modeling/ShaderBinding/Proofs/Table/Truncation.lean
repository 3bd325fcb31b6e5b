import ShaderBinding.Proofs.Json.Locality
import ShaderBinding.Proofs.Json.Truncation
import ShaderBinding.Proofs.Table.Texts

/-! Texts of tables that have been cut off, or that go on. A table ends with its closing bracket: a
text without that bracket does not parse, and behind it there is room for blanks only. -/

namespace ShaderBinding

namespace Json

variable {chars rest : List Char}

theorem blanks_nil_iff : Blanks chars [] ↔ ∀ c ∈ chars, c ∈ [' ', '\t', '\n', '\r'] := by
  induction chars with
  | nil => exact ⟨fun _ _ => nofun, fun _ => .none⟩
  | cons c chars ih =>
    rw [List.forall_mem_cons, ← ih]
    constructor
    · intro h
      cases h with
      | more hc hchars => exact ⟨hc, hchars⟩
    · rintro ⟨hc, hchars⟩
      exact .more hc hchars

theorem SpellsElements.bracket_suffix {first : Bool} {values : List Value}
    (h : SpellsElements first chars values rest) : ']' :: rest <:+ chars := by
  induction h with
  | stop hblanks => exact hblanks.suffix
  | more hbefore hvalue _ ih => exact ih.trans (hvalue.isTail.1.trans hbefore.suffix)

/-- Some characters that spell a list behind blanks, however the text goes on. -/
def SpellsList (front : List Char) (values : List Value) : Prop :=
  ∀ rest, ∃ start, Blanks (front ++ rest) start ∧ Spells start (.value (.list values)) rest

/-- The text of a list is a list with its closing bracket, and blanks. -/
theorem Text.exists_spellsList {values : List Value} (h : Text chars (.list values)) :
    ∃ front blanks, chars = front ++ ']' :: blanks ∧ Blanks blanks [] ∧
      SpellsList (front ++ [']']) values := by
  cases h with
  | @mk _ _ start stop hblanks h hend =>
    obtain ⟨lead, rfl, hlead⟩ := local_blanks hblanks
    obtain ⟨list, rfl, hlist⟩ := local_spells _ h
    obtain ⟨begin, hbegin⟩ := h.list_start
    have hbracket : ']' :: stop <:+ list ++ stop := by
      rw [hbegin] at h ⊢
      exact (spellsElements_true_iff.mpr h).bracket_suffix.trans (List.suffix_cons _ _)
    obtain ⟨body, hbody⟩ := hbracket
    obtain rfl : list = body ++ [']'] := by
      rw [← List.singleton_append, ← List.append_assoc] at hbody
      exact (List.append_cancel_right hbody).symm
    refine ⟨lead ++ body, stop, by simp, hend, fun rest => ?_⟩
    refine ⟨(body ++ [']']) ++ rest, ?_, hlist rest⟩
    have he : lead ++ body ++ [']'] ++ rest = lead ++ (body ++ [']'] ++ rest) := by simp
    rw [he]
    exact hlead _

end Json

namespace Reader

open Json

variable {chars rest : List Char}

theorem wary_symbol : Wary symbol := by
  refine .token_bind (starves_refuseNext _) fun b => ?_
  dsimp only
  split
  · exact .bind wary_eat fun _ => .bind (wary_word _) fun _ => wary_pure none
  · split
    · exact .bind wary_eat fun _ => wary_string.map some
    · exact (refuses_refuseShape _ _).wary

theorem wary_members : Wary members := by
  refine .loop (fun ⟨first, members⟩ => .bind (wary_hasMember first) fun more => ?_) (true, [])
  split
  · refine .bind wary_eat fun _ => .bind wary_string fun key => ?_
    split
    · split
      · exact wary_pure _
      · exact .bind wary_colon fun _ => .bind wary_symbol fun _ => wary_pure _
    · exact .bind wary_colon fun _ => .bind wary_skipValue fun _ => wary_pure _
  · exact wary_pure _

theorem wary_fields (count : Nat) (stages : List Stage) (read : Members) :
    Wary (fields count stages read) := by
  induction stages generalizing count read with
  | nil => exact wary_pure _
  | cons stage stages ih =>
    refine .bind (wary_hasElement _) fun more => ?_
    split
    · exact .bind wary_symbol fun _ => ih _ _
    · exact wary_pure _

theorem wary_record : Wary record := by
  refine .bind wary_valueStart fun b => ?_
  split
  · exact (Wary.enclosed wary_objectEnd wary_members).map _
  · split
    · exact (Wary.enclosed wary_listEnd (wary_fields _ _ _)).map _
    · exact (refuses_refuseShape _ _).wary

theorem wary_records : Wary records := by
  refine .loop (fun records => .bind (wary_hasElement _) fun more => ?_) []
  split
  · exact .bind wary_record fun _ => wary_pure _
  · exact wary_pure _

theorem wary_tableEnd (records : List Record) : Wary (tableEnd records) := by
  intro more cursor other value after' hbeside hdone
  obtain ⟨next, between', htoken', hnext'⟩ := exists_of_bind_done hdone
  cases next with
  | some b => exact absurd hnext' (refuses_refuseNext _).not_done
  | none =>
    obtain ⟨rfl, rfl⟩ := Outcome.done.inj hnext'
    rcases token_beside hbeside with ⟨b, _, between, _, hother, _⟩ | ⟨after, htoken, _, hbeside'⟩
    · rw [htoken'] at hother
      cases hother
    · refine .inl ⟨after, ?_, hbeside' none between' htoken'⟩
      rw [tableEnd, bind_apply, htoken]
      rfl

theorem wary_table : Wary Reader.table := by
  refine .bind wary_valueStart fun b => ?_
  split
  · exact .bind (.enclosed wary_listEnd (wary_records.map _)) fun records => wary_tableEnd _
  · exact (refuses_refuseShape _ _).wary

theorem tableEnd_failsToParse {cursor : Cursor} (hcursor : cursor.ahead = Utf8.encode rest)
    (hrest : ¬ Blanks rest []) (records : List Record) :
    (tableEnd records .text cursor).FailsToParse := by
  obtain ⟨last, hblanks, hhead⟩ := exists_blanks rest
  cases last with
  | nil => exact absurd hblanks hrest
  | cons c last =>
    obtain ⟨after, _, htoken⟩ := reads_token_cons hblanks (hhead c rfl) cursor hcursor
    refine ⟨.trailingCharacters, after.nextPlace .text, after, ?_⟩
    rw [tableEnd, bind_apply, htoken]
    rfl

end Reader

namespace Table

open Json

/-- A text that is refused for its syntax, not for the shape of what it spells. -/
def FailsToParse (text : String) : Prop := ∃ error, ofText text = .error error ∧ error.kind = .parse

theorem failsToParse_of_run {text : String}
    (h : (Reader.table .text (.start (utf8Bytes text))).FailsToParse) : FailsToParse text := by
  obtain ⟨cause, place, after, hfailed⟩ := h
  refine ⟨.table (.parse cause place), ?_, rfl⟩
  rw [Table.ofText, Table.read, hfailed]
  rfl

theorem ofText_of_run {text : String} {table : Table} {after : Cursor}
    (h : Reader.table .text (.start (utf8Bytes text)) = .done table after) :
    ofText text = .ok table := by
  rw [Table.ofText, Table.read, h]
  rfl

theorem exists_run_of_ofText {text : String} {table : Table} (h : ofText text = .ok table) :
    ∃ after, Reader.table .text (.start (utf8Bytes text)) = .done table after := by
  rw [Table.ofText, Table.read] at h
  cases hrun : Reader.table .text (.start (utf8Bytes text)) with
  | failed fault after =>
    rw [hrun] at h
    cases h
  | done read after =>
    rw [hrun] at h
    obtain rfl : read = table := Except.ok.inj h
    exact ⟨after, rfl⟩

theorem failsToParse_of_spellsList {text : String} {front rest : List Char} {elements : List Value}
    {records : List Record} (htext : text.toList = front ++ rest) (hlist : SpellsList front elements)
    (hrecords : List.Forall₂ SpellsRecord records elements) (hrest : ¬ Blanks rest []) :
    FailsToParse text := by
  apply failsToParse_of_run
  obtain ⟨start, hblanks, hspells⟩ := hlist rest
  obtain ⟨between, hbetween, hrun⟩ := Reader.leadsTo_tableEnd hblanks hspells hrecords
    (.start (utf8Bytes text)) (congrArg Utf8.encode htext)
  rw [hrun]
  exact Reader.tableEnd_failsToParse hbetween hrest records

theorem ofText_of_spellsList {text : String} {front rest : List Char} {elements : List Value}
    {records : List Record} (htext : text.toList = front ++ rest) (hlist : SpellsList front elements)
    (hrecords : List.Forall₂ SpellsRecord records elements) (hrest : Blanks rest []) :
    ofText text = .ok ⟨records⟩ := by
  obtain ⟨start, hblanks, hspells⟩ := hlist rest
  refine ofText_of_spells ?_ hrecords
  rw [htext]
  exact .mk hblanks hspells hrest

/-- The beginning of a text that is read as a table is read as the same table, or it fails to parse. -/
theorem ofText_front {text : String} {table : Table} (h : ofText text = .ok table)
    {front : List Char} (hfront : front <+: text.toList) :
    ofText (String.ofList front) = .ok table ∨ FailsToParse (String.ofList front) := by
  obtain ⟨after', hrun'⟩ := exists_run_of_ofText h
  obtain ⟨more, hmore⟩ := hfront
  have hbytes : utf8Bytes text = utf8Bytes (String.ofList front) ++ Utf8.encode more := by
    rw [utf8Bytes, utf8Bytes, ← hmore, Utf8.encode_append, String.toList_ofList]
  rw [hbytes] at hrun'
  rcases Reader.wary_table (Utf8.encode more) (.start (utf8Bytes (String.ofList front))) _ table after'
    (.level _) hrun' with ⟨after, hrun, _⟩ | hfails
  · exact .inl (ofText_of_run hrun)
  · exact .inr (failsToParse_of_run hfails)

/-- A text that is read as a table goes on with blanks only. -/
theorem blanks_of_ofText_append {text whole : String} {table table' : Table} {more : List Char}
    (h : ofText text = .ok table) (hwhole : ofText whole = .ok table')
    (hmore : whole.toList = text.toList ++ more) : Blanks more [] := by
  obtain ⟨elements, htext, _, hrecords⟩ := spells_of_ofText h
  obtain ⟨front, blanks, hfront, _, hlist⟩ := htext.exists_spellsList
  by_contra hblank
  have hrest : ¬ Blanks (blanks ++ more) [] := by
    rw [blanks_nil_iff] at hblank ⊢
    exact fun hall => hblank fun c hc => hall c (List.mem_append_right _ hc)
  have hsplit : whole.toList = (front ++ [']']) ++ (blanks ++ more) := by
    rw [hmore, hfront]
    simp
  obtain ⟨error, herror, _⟩ := failsToParse_of_spellsList hsplit hlist hrecords hrest
  rw [hwhole] at herror
  cases herror

/-- There is no part of a table: what is read as a table is not read as one without its closing
bracket, and behind the bracket only blanks may be left out or added. -/
theorem ofText_whole {text : String} {table : Table} (h : ofText text = .ok table) :
    ∃ front blanks, text.toList = front ++ ']' :: blanks ∧
      (∀ c ∈ blanks, c ∈ [' ', '\t', '\n', '\r']) ∧
      (∀ count ≤ front.length, FailsToParse (String.ofList (text.toList.take count))) ∧
      (∀ count, front.length < count →
        ofText (String.ofList (text.toList.take count)) = .ok table) ∧
      ∀ more : String,
        ((∀ c ∈ more.toList, c ∈ [' ', '\t', '\n', '\r']) → ofText (text ++ more) = .ok table) ∧
        ((∃ c ∈ more.toList, c ∉ [' ', '\t', '\n', '\r']) → FailsToParse (text ++ more)) := by
  obtain ⟨elements, htext, _, hrecords⟩ := spells_of_ofText h
  obtain ⟨front, blanks, hfront, hblanks, hlist⟩ := htext.exists_spellsList
  have hblank := blanks_nil_iff.mp hblanks
  refine ⟨front, blanks, hfront, hblank, ?_, ?_, ?_⟩
  · intro count hcount
    -- If the beginning were a table, what has been cut off would be blank, but it holds the bracket.
    refine (ofText_front h (List.take_prefix count text.toList)).resolve_left fun hpart => ?_
    have hrest : Blanks (text.toList.drop count) [] := by
      refine blanks_of_ofText_append hpart h ?_
      rw [String.toList_ofList, List.take_append_drop]
    have hbracket : ']' ∈ text.toList.drop count := by
      rw [hfront, List.drop_append_of_le_length hcount]
      simp
    exact absurd (blanks_nil_iff.mp hrest ']' hbracket) (by decide)
  · intro count hcount
    have hsplit : (String.ofList (text.toList.take count)).toList =
        (front ++ [']']) ++ blanks.take (count - (front.length + 1)) := by
      rw [String.toList_ofList, hfront, ← List.singleton_append, ← List.append_assoc,
        List.take_append, List.take_of_length_le (by rw [List.length_append]; exact hcount)]
      simp
    refine ofText_of_spellsList hsplit hlist hrecords (blanks_nil_iff.mpr fun c hc => ?_)
    exact hblank c (List.mem_of_mem_take hc)
  · intro more
    have hsplit : (text ++ more).toList = (front ++ [']']) ++ (blanks ++ more.toList) := by
      rw [String.toList_append, hfront]
      simp
    refine ⟨fun hmore => ?_, fun ⟨c, hc, hother⟩ => ?_⟩
    · refine ofText_of_spellsList hsplit hlist hrecords (blanks_nil_iff.mpr ?_)
      exact List.forall_mem_append.mpr ⟨hblank, hmore⟩
    · refine failsToParse_of_spellsList hsplit hlist hrecords fun hrest => hother ?_
      exact blanks_nil_iff.mp hrest c (List.mem_append_right _ hc)

theorem ofText_whole_marked :
    ofText markedText = .ok ⟨[⟨none, none, none, some "😀"⟩, .empty]⟩ ∧
      ∃ front blanks, markedText.toList = front ++ ']' :: blanks ∧
        (∀ c ∈ blanks, c ∈ [' ', '\t', '\n', '\r']) ∧
        (∀ count ≤ front.length, FailsToParse (String.ofList (markedText.toList.take count))) ∧
        (∀ count, front.length < count → ofText (String.ofList (markedText.toList.take count)) =
          .ok ⟨[⟨none, none, none, some "😀"⟩, .empty]⟩) ∧
        ∀ more : String,
          ((∀ c ∈ more.toList, c ∈ [' ', '\t', '\n', '\r']) →
            ofText (markedText ++ more) = .ok ⟨[⟨none, none, none, some "😀"⟩, .empty]⟩) ∧
          ((∃ c ∈ more.toList, c ∉ [' ', '\t', '\n', '\r']) → FailsToParse (markedText ++ more)) := by
  have hread : ofText markedText = .ok ⟨[⟨none, none, none, some "😀"⟩, .empty]⟩ := by
    decide +kernel
  exact ⟨hread, ofText_whole hread⟩

end Table

end ShaderBinding
