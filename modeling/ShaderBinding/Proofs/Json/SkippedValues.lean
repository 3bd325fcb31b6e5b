import ShaderBinding.Proofs.Json.SkippedNumbers
import ShaderBinding.Proofs.Json.SkippedStrings

/-! Values of any depth that are passed over with a stack of open brackets. Two relations say what
the brackets still ask for: behind a value, and where the next value starts. -/

namespace ShaderBinding

namespace Bracket

def openChar : Bracket → Char
  | list => '['
  | object => '{'

def closeChar : Bracket → Char
  | list => ']'
  | object => '}'

theorem closing_eq (bracket : Bracket) : bracket.closing = byte bracket.closeChar := by
  cases bracket <;> rfl

theorem closeChar_spec (bracket : Bracket) : bracket.closeChar.toNat < 0x80 ∧
    bracket.closeChar ∉ [' ', '\t', '\n', '\r'] ∧ bracket.closeChar ≠ ',' := by
  cases bracket <;> decide

end Bracket

namespace Json

variable {chars start mid stop rest : List Char} {brackets : List Bracket} {bracket : Bracket}
  {value : Value}

theorem Blanks.trans (h : Blanks chars mid) (h' : Blanks mid rest) : Blanks chars rest := by
  induction h with
  | none => exact h'
  | more hc _ ih => exact .more hc (ih h')

/-- What open brackets ask for behind a value, the innermost first. -/
inductive Closes : List Bracket → List Char → List Char → Prop
  | nil {rest : List Char} : Closes [] rest rest
  | list {values : List Value} {brackets : List Bracket} {chars mid rest : List Char} :
      Spells chars (.elements values) mid → Closes brackets mid rest →
      Closes (.list :: brackets) chars rest
  | object {members : List (List Item × Value)} {brackets : List Bracket}
      {chars mid rest : List Char} :
      Spells chars (.members members) mid → Closes brackets mid rest →
      Closes (.object :: brackets) chars rest

/-- What open brackets ask for where the innermost one goes on with an element or a member. -/
inductive Continues : List Bracket → List Char → List Char → Prop
  | nil {rest : List Char} : Continues [] rest rest
  | list {value : Value} {brackets : List Bracket} {chars start stop rest : List Char} :
      Blanks chars start → Spells start (.value value) stop → Closes (.list :: brackets) stop rest →
      Continues (.list :: brackets) chars rest
  | object {member : List Item × Value} {brackets : List Bracket}
      {chars start stop rest : List Char} :
      Blanks chars start → Spells start (.member member) stop →
      Closes (.object :: brackets) stop rest → Continues (.object :: brackets) chars rest

/-- What open brackets ask for when the innermost one may just have been opened. -/
inductive Opened : List Bracket → Bool → List Char → List Char → Prop
  | nil {fresh : Bool} {rest : List Char} : Opened [] fresh rest rest
  | closes {bracket : Bracket} {brackets : List Bracket} {chars rest : List Char} :
      Closes (bracket :: brackets) chars rest → Opened (bracket :: brackets) false chars rest
  | empty {bracket : Bracket} {brackets : List Bracket} {chars mid rest : List Char} :
      Blanks chars (bracket.closeChar :: mid) → Closes brackets mid rest →
      Opened (bracket :: brackets) true chars rest
  | first {bracket : Bracket} {brackets : List Bracket} {chars rest : List Char} :
      Continues (bracket :: brackets) chars rest → Opened (bracket :: brackets) true chars rest

theorem opened_false_iff : Opened brackets false chars rest ↔ Closes brackets chars rest := by
  constructor
  · intro h
    cases h with
    | nil => exact .nil
    | closes h => exact h
  · intro h
    cases brackets with
    | nil =>
      cases h
      exact .nil
    | cons bracket brackets => exact .closes h

/-- Behind a value the innermost bracket is closed, or a comma comes before what it goes on with. -/
theorem closes_cons_iff : Closes (bracket :: brackets) chars rest ↔
    (∃ mid, Blanks chars (bracket.closeChar :: mid) ∧ Closes brackets mid rest) ∨
      ∃ mid, Blanks chars (',' :: mid) ∧ Continues (bracket :: brackets) mid rest := by
  constructor
  · intro h
    cases h with
    | list helements hcloses =>
      cases helements with
      | noElements hblanks => exact .inl ⟨_, hblanks, hcloses⟩
      | elements hcomma hblanks hvalue helements =>
        exact .inr ⟨_, hcomma, .list hblanks hvalue (.list helements hcloses)⟩
    | object hmembers hcloses =>
      cases hmembers with
      | noMembers hblanks => exact .inl ⟨_, hblanks, hcloses⟩
      | members hcomma hblanks hmember hmembers =>
        exact .inr ⟨_, hcomma, .object hblanks hmember (.object hmembers hcloses)⟩
  · rintro (⟨mid, hblanks, hcloses⟩ | ⟨mid, hcomma, hcontinues⟩)
    · cases bracket with
      | list => exact .list (.noElements hblanks) hcloses
      | object => exact .object (.noMembers hblanks) hcloses
    · cases hcontinues with
      | list hblanks hvalue hcloses =>
        cases hcloses with
        | list helements hcloses => exact .list (.elements hcomma hblanks hvalue helements) hcloses
      | object hblanks hmember hcloses =>
        cases hcloses with
        | object hmembers hcloses => exact .object (.members hcomma hblanks hmember hmembers) hcloses

theorem Continues.blanks (h : Blanks chars mid)
    (h' : Continues (bracket :: brackets) mid rest) : Continues (bracket :: brackets) chars rest := by
  cases h' with
  | list hblanks hvalue hcloses => exact .list (h.trans hblanks) hvalue hcloses
  | object hblanks hmember hcloses => exact .object (h.trans hblanks) hmember hcloses

theorem mem_ends_of_blank {c : Char} (hc : c ∈ [' ', '\t', '\n', '\r']) :
    c ∈ [' ', '\t', '\n', '\r', ',', ']', '}'] :=
  List.mem_append_left [',', ']', '}'] hc

theorem Blanks.ends {c : Char} (h : Blanks chars (c :: rest))
    (hc : c ∈ [' ', '\t', '\n', '\r', ',', ']', '}']) : Ends chars := by
  cases h with
  | none =>
    intro d hd
    obtain rfl : c = d := by simpa using hd
    exact hc
  | @more d _ _ hblank _ =>
    intro e he
    obtain rfl : d = e := by simpa using he
    exact mem_ends_of_blank hblank

theorem Closes.ends (h : Closes brackets chars rest) (hrest : Ends rest) : Ends chars := by
  cases brackets with
  | nil =>
    cases h
    exact hrest
  | cons bracket brackets =>
    rcases closes_cons_iff.mp h with ⟨mid, hblanks, _⟩ | ⟨mid, hcomma, _⟩
    · refine hblanks.ends ?_
      cases bracket <;> decide
    · exact hcomma.ends (by decide)

/-- No value starts with a blank, a comma or a closing bracket. -/
theorem Spells.exists_first (h : Spells chars (.value value) rest) :
    ∃ c mid, chars = c :: mid ∧ c ∉ [' ', '\t', '\n', '\r', ',', ']', '}'] := by
  generalize hphrase : Phrase.value value = phrase at h
  cases h with
  | null | yes | no | string _ | emptyList _ | list _ _ _ | emptyObject _ | object _ _ _ =>
    exact ⟨_, _, rfl, by decide⟩
  | number _ h =>
    obtain ⟨c, mid, he, hc⟩ := h.exists_first
    refine ⟨c, mid, he, ?_⟩
    intro hmem
    have hnone : c ≠ '-' ∧ c.isDigit = false := of_mem_of_all hmem (by decide)
    rcases hc with ⟨hc, _⟩ | ⟨hc, _⟩
    · exact hnone.1 hc
    · rw [hnone.2] at hc
      cases hc
  | member _ _ _ _ | noElements _ | elements _ _ _ _ | noMembers _ | members _ _ _ _ =>
    cases hphrase

/-- Where an element or a member starts, blanks apart, is no sign of a list or an object. -/
theorem Continues.exists_first (h : Continues (bracket :: brackets) chars rest) :
    ∃ c mid, Blanks chars (c :: mid) ∧ c ∉ [' ', '\t', '\n', '\r', ',', ']', '}'] ∧
      Continues (bracket :: brackets) (c :: mid) rest := by
  cases h with
  | list hblanks hvalue hcloses =>
    obtain ⟨c, mid, rfl, hc⟩ := hvalue.exists_first
    exact ⟨c, mid, hblanks, hc, .list .none hvalue hcloses⟩
  | object hblanks hmember hcloses =>
    cases hmember with
    | member hkey hcolon hnext hvalue =>
      exact ⟨'"', _, hblanks, by decide, .object .none (.member hkey hcolon hnext hvalue) hcloses⟩

end Json

namespace Reader

open Json

variable {chars start mid stop rest : List Char} {brackets : List Bracket} {bracket : Bracket}
  {value : Value} {c : Char}

/-! What starts a value. -/

/-- What is passed over at once: a value that is no list and no object, or an opening bracket. -/
inductive Starts : Option Bracket → List Char → List Char → Prop
  | value {value : Value} {chars start rest : List Char} :
      Blanks chars start → Spells start (.value value) rest → Starts none chars rest
  | bracket {bracket : Bracket} {chars rest : List Char} :
      Blanks chars (bracket.openChar :: rest) → Starts (some bracket) chars rest

theorem reads_leaf {reader : Reader Unit} (hc : c.toNat < 0x80) (h : Reads reader mid () rest) :
    Reads (skipStart.leaf reader) (c :: mid) none rest :=
  Reads.bind (reads_eat hc mid) (Reads.bind h (LeadsTo.refl _ _))

theorem reads_skipStart_bracket (h : Blanks chars (bracket.openChar :: rest)) :
    Reads skipStart chars (some bracket) rest := by
  cases bracket with
  | list =>
    refine Reads.bind (reads_valueStart h (by decide)) ?_
    exact Reads.bind (reads_eat (by decide) rest) (LeadsTo.refl _ _)
  | object =>
    refine Reads.bind (reads_valueStart h (by decide)) ?_
    exact Reads.bind (reads_eat (by decide) rest) (LeadsTo.refl _ _)

theorem ne_of_isDigit (h : c.isDigit = true) :
    c ≠ 'n' ∧ c ≠ 't' ∧ c ≠ 'f' ∧ c ≠ '-' ∧ c ∉ [' ', '\t', '\n', '\r'] := by
  have hne : c ∉ ['n', 't', 'f', '-', ' ', '\t', '\n', '\r'] := by
    intro hmem
    have hnone : c.isDigit = false := of_mem_of_all hmem (by decide)
    rw [hnone] at h
    cases h
  simpa using hne

theorem reads_skipStart_digit (h : Blanks chars (c :: mid)) (hc : c.isDigit = true)
    (hnumber : Reads skipNumber (c :: mid) () rest) : Reads skipStart chars none rest := by
  obtain ⟨hn, ht, hf, hminus, hblank⟩ := ne_of_isDigit hc
  refine Reads.bind (reads_valueStart h hblank) ?_
  refine leadsTo_if_neg (by decide) hn (leadsTo_if_neg (by decide) ht ?_)
  refine leadsTo_if_neg (by decide) hf (leadsTo_if_neg (by decide) hminus ?_)
  rw [isDigit_lead, if_pos hc]
  exact Reads.bind hnumber (LeadsTo.refl _ _)

/-- What starts a value leaves the brackets with what they ask for. -/
theorem reads_skipStart (hblanks : Blanks chars start) (h : Spells start (.value value) stop)
    (hcloses : Closes brackets stop rest) (hrest : Ends rest) : ∃ opened mid,
      Reads skipStart chars opened mid ∧ IsTail mid chars ∧
        Opened (opened.toList ++ brackets) opened.isSome mid rest := by
  have hstop : Ends stop := hcloses.ends hrest
  have hleaf : ∀ {mid}, Reads skipStart chars none mid → IsTail mid start →
      Closes brackets mid rest → ∃ opened mid, Reads skipStart chars opened mid ∧
        IsTail mid chars ∧ Opened (opened.toList ++ brackets) opened.isSome mid rest :=
    fun hreads htail hcloses => ⟨none, _, hreads, htail.trans_suffix hblanks.suffix,
      opened_false_iff.mpr hcloses⟩
  have hbracket : ∀ bracket {mid}, Blanks chars (bracket.openChar :: mid) →
      Opened (bracket :: brackets) true mid rest → ∃ opened mid, Reads skipStart chars opened mid ∧
        IsTail mid chars ∧ Opened (opened.toList ++ brackets) opened.isSome mid rest := by
    intro bracket mid hblanks hopened
    have htail : IsTail mid chars :=
      IsTail.trans_suffix (.cons _ (List.suffix_refl mid)) hblanks.suffix
    exact ⟨some bracket, mid, reads_skipStart_bracket hblanks, htail, hopened⟩
  have htail := h.isTail
  generalize hphrase : Phrase.value value = phrase at h
  cases h with
  | null | yes | no =>
    refine hleaf (Reads.bind (reads_valueStart hblanks (by decide)) ?_) htail hcloses
    exact reads_leaf (by decide) (reads_word (by decide) stop)
  | number _ h =>
    obtain ⟨c, mid, he, ⟨rfl, hunsigned⟩ | ⟨hc, hunsigned⟩⟩ := h.exists_first
    · rw [he] at hblanks htail
      refine hleaf (Reads.bind (reads_valueStart hblanks (by decide)) ?_) (he ▸ htail) hcloses
      exact reads_leaf (by decide) (reads_skipNumber hunsigned hstop)
    · rw [he] at hblanks hunsigned
      have hnumber := reads_skipNumber hunsigned hstop
      exact hleaf (reads_skipStart_digit hblanks hc hnumber) htail hcloses
  | string h =>
    refine hleaf (Reads.bind (reads_valueStart hblanks (by decide)) ?_) htail hcloses
    exact reads_leaf (by decide) (reads_skipString h)
  | emptyList h => exact hbracket .list hblanks (.empty h hcloses)
  | list h hvalue helements =>
    exact hbracket .list hblanks (.first (.list h hvalue (.list helements hcloses)))
  | emptyObject h => exact hbracket .object hblanks (.empty h hcloses)
  | object h hmember hmembers =>
    exact hbracket .object hblanks
      (.first (.object h hmember (.object hmembers hcloses)))
  | member _ _ _ _ | noElements _ | elements _ _ _ _ | noMembers _ | members _ _ _ _ =>
    cases hphrase

theorem accepts_leaf {reader : Reader Unit} (hc : c.toNat < 0x80)
    (hblanks : Blanks chars (c :: mid))
    (h : Accepts reader mid fun _ rest => ∃ value, Spells (c :: mid) (.value value) rest) :
    Accepts (skipStart.leaf reader) (c :: mid) fun opened rest => Starts opened chars rest := by
  refine Reads.accepts_bind (reads_eat hc mid) (Accepts.bind (h.mono ?_))
  rintro _ rest ⟨value, hvalue⟩
  exact accepts_pure (.value hblanks hvalue)

theorem accepts_leaf_word {letters : List Char}
    (hlow : (c :: letters).all (fun c => c.toNat < 0x80) = true)
    (hblanks : Blanks chars (c :: mid))
    (h : ∀ rest, Spells (c :: (letters ++ rest)) (.value value) rest) :
    Accepts (skipStart.leaf (word letters)) (c :: mid) fun opened rest =>
      Starts opened chars rest := by
  obtain ⟨hc, hletters⟩ := Bool.and_eq_true_iff.mp hlow
  refine accepts_leaf (of_decide_eq_true hc) hblanks ((accepts_word hletters).mono ?_)
  rintro _ rest rfl
  exact ⟨value, h rest⟩

theorem accepts_skipStart : Accepts skipStart chars fun opened rest => Starts opened chars rest := by
  refine accepts_valueStart ?_
  intro c mid hblanks
  have hnumber : ∀ {rest}, Numeral (c :: mid) rest →
      ∃ value, Spells (c :: mid) (.value value) rest := by
    intro rest h
    obtain ⟨text, he⟩ := h.isTail.1
    exact ⟨.number text, .number he h⟩
  refine accepts_if (by decide) ?_ ?_
  · rintro rfl
    exact accepts_leaf_word (by decide) hblanks fun _ => .null
  intro _
  refine accepts_if (by decide) ?_ ?_
  · rintro rfl
    exact accepts_leaf_word (by decide) hblanks fun _ => .yes
  intro _
  refine accepts_if (by decide) ?_ ?_
  · rintro rfl
    exact accepts_leaf_word (by decide) hblanks fun _ => .no
  intro _
  refine accepts_if (by decide) ?_ ?_
  · rintro rfl
    refine accepts_leaf (by decide) hblanks (accepts_skipNumber.mono ?_)
    exact fun _ rest h => hnumber (.negative h)
  intro _
  split
  · refine Accepts.bind (accepts_skipNumber.mono ?_)
    intro _ rest h
    obtain ⟨value, hvalue⟩ := hnumber (.positive h)
    exact accepts_pure (.value hblanks hvalue)
  refine accepts_if (by decide) ?_ ?_
  · rintro rfl
    refine accepts_leaf (by decide) hblanks (accepts_skipString.mono ?_)
    rintro _ rest ⟨items, h⟩
    exact ⟨.string items, .string h⟩
  intro _
  refine accepts_if (by decide) ?_ ?_
  · rintro rfl
    have hstarts : Starts (some .list) chars mid := .bracket hblanks
    exact Reads.accepts_bind (reads_eat (by decide) mid) (accepts_pure hstarts)
  intro _
  refine accepts_if (by decide) ?_ ?_
  · rintro rfl
    have hstarts : Starts (some .object) chars mid := .bracket hblanks
    exact Reads.accepts_bind (reads_eat (by decide) mid) (accepts_pure hstarts)
  · intro _
    exact (refuses_refuseNext _).accepts

/-- A value that has been started is completed by what its brackets ask for. -/
theorem Starts.exists_spells {opened : Option Bracket} (h : Starts opened chars mid)
    (h' : Opened (opened.toList ++ brackets) opened.isSome mid rest) : ∃ value start stop,
      Blanks chars start ∧ Spells start (.value value) stop ∧ Closes brackets stop rest := by
  cases h with
  | value hblanks hvalue => exact ⟨_, _, _, hblanks, hvalue, opened_false_iff.mp h'⟩
  | @bracket bracket _ _ hblanks =>
    cases bracket with
    | list =>
      cases h' with
      | empty h hcloses => exact ⟨_, _, _, hblanks, .emptyList h, hcloses⟩
      | first h =>
        cases h with
        | list h hvalue hcloses =>
          cases hcloses with
          | list helements hcloses => exact ⟨_, _, _, hblanks, .list h hvalue helements, hcloses⟩
    | object =>
      cases h' with
      | empty h hcloses => exact ⟨_, _, _, hblanks, .emptyObject h, hcloses⟩
      | first h =>
        cases h with
        | object h hmember hcloses =>
          cases hcloses with
          | object hmembers hcloses => exact ⟨_, _, _, hblanks, .object h hmember hmembers, hcloses⟩

/-! Closing brackets. -/

theorem reads_closeBrackets {fresh : Bool} (h : Opened brackets fresh chars rest) :
    ∃ left mid, Reads (closeBrackets brackets fresh) chars left mid ∧ mid <:+ chars ∧
      Continues left mid rest := by
  induction brackets generalizing fresh chars with
  | nil =>
    cases h
    exact ⟨[], rest, reads_loop_stop (LeadsTo.refl _ _), List.suffix_refl rest, .nil⟩
  | cons bracket brackets ih =>
    obtain ⟨hlow, hblank, hcomma⟩ := bracket.closeChar_spec
    have hclose : ∀ {fresh mid}, Blanks chars (bracket.closeChar :: mid) →
        Closes brackets mid rest → ∃ left last,
          Reads (closeBrackets (bracket :: brackets) fresh) chars left last ∧ last <:+ chars ∧
            Continues left last rest := by
      intro fresh mid hblanks hcloses
      obtain ⟨left, last, hreads, hsuffix, hcontinues⟩ := ih (opened_false_iff.mpr hcloses)
      have htail : IsTail mid chars :=
        IsTail.trans_suffix (.cons _ (List.suffix_refl mid)) hblanks.suffix
      refine ⟨left, last, LeadsTo.trans ?_ hreads, hsuffix.trans htail.1, hcontinues⟩
      refine leadsTo_loop_again (Reads.bind (reads_token_cons hblanks hblank) ?_) htail
      simp only [bracket.closing_eq]
      exact leadsTo_if_pos hlow (Reads.bind (reads_eat hlow mid) (LeadsTo.refl _ _))
    cases h with
    | closes hcloses =>
      rcases closes_cons_iff.mp hcloses with ⟨mid, hblanks, hcloses⟩ | ⟨mid, hblanks, hcontinues⟩
      · exact hclose hblanks hcloses
      · have hsuffix := (List.suffix_cons ',' mid).trans hblanks.suffix
        refine ⟨bracket :: brackets, mid, reads_loop_stop ?_, hsuffix, hcontinues⟩
        refine Reads.bind (reads_token_cons hblanks (by decide)) ?_
        simp only [bracket.closing_eq]
        refine leadsTo_if_neg hlow hcomma.symm ?_
        exact Reads.bind (reads_comma bracket.part mid) (LeadsTo.refl _ _)
    | empty hblanks hcloses => exact hclose hblanks hcloses
    | first h =>
      obtain ⟨c, mid, hblanks, hc, hcontinues⟩ := h.exists_first
      have hsign : c ≠ bracket.closeChar := by
        rintro rfl
        cases bracket <;> exact hc (by decide)
      have hc' : c ∉ [' ', '\t', '\n', '\r'] := fun hblank => hc (mem_ends_of_blank hblank)
      refine ⟨bracket :: brackets, c :: mid, reads_loop_stop ?_, hblanks.suffix, hcontinues⟩
      refine Reads.bind (reads_token_cons hblanks hc') ?_
      simp only [bracket.closing_eq]
      exact leadsTo_if_neg hlow hsign (LeadsTo.refl _ _)

theorem accepts_closeBrackets (brackets : List Bracket) (fresh : Bool) (chars : List Char) :
    Accepts (closeBrackets brackets fresh) chars fun left mid =>
      ∀ rest, Continues left mid rest → Opened brackets fresh chars rest := by
  refine accepts_loop (fun state chars left mid =>
    ∀ rest, Continues left mid rest → Opened state.1 state.2 chars rest) ?_ (brackets, fresh) chars
  rintro ⟨brackets, fresh⟩ chars
  cases brackets with
  | nil =>
    apply accepts_pure
    intro rest h
    cases h
    exact .nil
  | cons bracket brackets =>
    refine accepts_token_some (refuses_refuseNext _) ?_
    intro c mid hblanks _
    simp only [bracket.closing_eq]
    refine accepts_if bracket.closeChar_spec.1 ?_ ?_
    · rintro rfl
      refine Reads.accepts_bind (reads_eat bracket.closeChar_spec.1 mid) (accepts_pure ?_)
      intro left last h rest hcontinues
      have hcloses := opened_false_iff.mp (h rest hcontinues)
      cases fresh with
      | true => exact .empty hblanks hcloses
      | false => exact .closes (closes_cons_iff.mpr (.inl ⟨mid, hblanks, hcloses⟩))
    · intro _
      cases fresh with
      | true => exact accepts_pure fun rest h => .first (h.blanks hblanks)
      | false =>
        refine Accepts.bind ((accepts_comma bracket.part c mid).mono ?_)
        rintro _ _ ⟨rfl, rfl⟩
        apply accepts_pure
        intro rest h
        exact .closes (closes_cons_iff.mpr (.inr ⟨_, hblanks, h⟩))

/-! Keys, and whole values. -/

theorem reads_skipKey {key : List Item} {next : List Char} (hblanks : Blanks chars ('"' :: start))
    (hkey : SpellsItems start key stop) (hcolon : Blanks stop (':' :: next)) :
    Reads skipKey chars () next := by
  refine Reads.bind (reads_token_cons hblanks (by decide)) ?_
  refine Reads.bind (reads_keyStart start) (Reads.bind (reads_eat (by decide) start) ?_)
  exact Reads.bind (reads_skipString hkey) (reads_colon hcolon)

theorem accepts_skipKey : Accepts skipKey chars fun _ next => ∃ start key stop,
    Blanks chars ('"' :: start) ∧ SpellsItems start key stop ∧ Blanks stop (':' :: next) := by
  refine accepts_token_some (refuses_refuseNext _) ?_
  intro c mid hblanks _
  refine Accepts.bind ((accepts_keyStart c mid).mono ?_)
  rintro _ _ ⟨rfl, rfl⟩
  refine Reads.accepts_bind (reads_eat (by decide) mid) ?_
  refine Accepts.bind (accepts_skipString.mono ?_)
  rintro _ stop ⟨key, hkey⟩
  exact accepts_colon.mono fun _ next hcolon => ⟨mid, key, stop, hblanks, hkey, hcolon⟩

theorem reads_skipTurns (hblanks : Blanks chars start) (h : Spells start (.value value) stop)
    (hcloses : Closes brackets stop rest) (hrest : Ends rest) :
    Reads (loop skipTurn brackets) chars () rest := by
  -- The next value starts further on, but it belongs to the brackets and not to this value.
  generalize hlength : chars.length = length
  induction length using Nat.strongRecOn generalizing brackets chars start value stop with
  | ind length ih =>
    subst hlength
    obtain ⟨opened, mid, hopened, htail, hasks⟩ := reads_skipStart hblanks h hcloses hrest
    obtain ⟨left, last, hclose, hsuffix, hcontinues⟩ := reads_closeBrackets hasks
    have htail' : IsTail last chars := isTail_of_suffix hsuffix htail
    cases hcontinues with
    | nil => exact reads_loop_stop (Reads.bind hopened (Reads.bind hclose (LeadsTo.refl _ _)))
    | list hblanks' hvalue hcloses' =>
      refine LeadsTo.trans ?_ (ih last.length htail'.2 hblanks' hvalue hcloses' rfl)
      exact leadsTo_loop_again (Reads.bind hopened (Reads.bind hclose (LeadsTo.refl _ _))) htail'
    | object hblanks' hmember hcloses' =>
      cases hmember with
      | @member _ _ _ _ next _ _ hkey hcolon hnext hvalue =>
        have hnextTail : IsTail next last := by
          have hsuffix' := (List.suffix_cons ':' next).trans hcolon.suffix
          have hkeyTail := IsTail.cons '"' (hsuffix'.trans hkey.isTail.1)
          exact hkeyTail.trans_suffix hblanks'.suffix
        have htail'' : IsTail next chars := hnextTail.trans htail'
        refine LeadsTo.trans ?_ (ih next.length htail''.2 hnext hvalue hcloses' rfl)
        refine leadsTo_loop_again (Reads.bind hopened (Reads.bind hclose ?_)) htail''
        exact Reads.bind (reads_skipKey hblanks' hkey hcolon) (LeadsTo.refl _ _)

theorem accepts_skipTurns (brackets : List Bracket) (chars : List Char) :
    Accepts (loop skipTurn brackets) chars fun _ rest => ∃ value start stop,
      Blanks chars start ∧ Spells start (.value value) stop ∧ Closes brackets stop rest := by
  refine accepts_loop (fun brackets chars _ rest => ∃ value start stop,
    Blanks chars start ∧ Spells start (.value value) stop ∧ Closes brackets stop rest) ?_
      brackets chars
  intro brackets chars
  refine Accepts.bind (accepts_skipStart.mono ?_)
  intro opened mid hstarts
  refine Accepts.bind ((accepts_closeBrackets _ _ mid).mono ?_)
  intro left last hleft
  match left with
  | [] => exact accepts_pure (hstarts.exists_spells (hleft last .nil))
  | .list :: left =>
    apply accepts_pure
    rintro _ rest ⟨value, start, stop, hblanks, hvalue, hcloses⟩
    exact hstarts.exists_spells (hleft rest (.list hblanks hvalue hcloses))
  | .object :: left =>
    refine Accepts.bind (accepts_skipKey.mono ?_)
    rintro _ next ⟨begin, key, colon, hquote, hkey, hcolon⟩
    apply accepts_pure
    rintro _ rest ⟨value, start, stop, hblanks, hvalue, hcloses⟩
    have hmember : Spells ('"' :: begin) (.member (key, value)) stop :=
      .member hkey hcolon hblanks hvalue
    exact hstarts.exists_spells (hleft rest (.object hquote hmember hcloses))

theorem reads_skipValue (hblanks : Blanks chars start) (h : Spells start (.value value) rest)
    (hrest : Ends rest) : Reads skipValue chars () rest :=
  reads_skipTurns hblanks h .nil hrest

theorem accepts_skipValue : Accepts skipValue chars fun _ rest =>
    ∃ value start, Blanks chars start ∧ Spells start (.value value) rest := by
  refine (accepts_skipTurns [] chars).mono ?_
  rintro _ rest ⟨value, start, stop, hblanks, hvalue, hcloses⟩
  cases hcloses
  exact ⟨value, start, hblanks, hvalue⟩

end Reader

end ShaderBinding
