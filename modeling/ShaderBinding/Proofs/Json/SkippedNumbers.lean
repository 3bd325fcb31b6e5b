import ShaderBinding.Proofs.Json.Lexemes
import ShaderBinding.Json.Ignored

/-! Numbers that are passed over. Digits are taken as long as there are some, so a number is taken
as a whole only where nothing follows that could belong to it. -/

namespace ShaderBinding

namespace Json

def NoDigit (chars : List Char) : Prop := ∀ c ∈ chars.head?, c.isDigit = false

/-- What may follow a value: blanks, a comma, a closing bracket, or nothing. -/
def Ends (chars : List Char) : Prop :=
  ∀ c ∈ chars.head?, c ∈ [' ', '\t', '\n', '\r', ',', ']', '}']

def AllDigits (digits : List Char) : Prop := ∀ c ∈ digits, c.isDigit = true

theorem allDigits_nil : AllDigits [] := by simp [AllDigits]

theorem allDigits_cons {c : Char} {digits : List Char} :
    AllDigits (c :: digits) ↔ c.isDigit = true ∧ AllDigits digits := by
  simp [AllDigits]

/-- The direction that an exponent is given by its sign. -/
inductive SpellsSign : List Char → Bool → List Char → Prop
  | absent {rest : List Char} : SpellsSign rest true rest
  | plus {rest : List Char} : SpellsSign ('+' :: rest) true rest
  | minus {rest : List Char} : SpellsSign ('-' :: rest) false rest

variable {chars mid rest : List Char} {c : Char}

theorem SpellsSign.sign {positive : Bool} (h : SpellsSign chars positive rest) :
    Sign chars rest := by
  cases h with
  | absent => exact .absent
  | plus => exact .plus
  | minus => exact .minus

theorem Sign.exists_spellsSign (h : Sign chars rest) :
    ∃ positive, SpellsSign chars positive rest := by
  cases h with
  | absent => exact ⟨true, .absent⟩
  | plus => exact ⟨true, .plus⟩
  | minus => exact ⟨false, .minus⟩

theorem noDigit_cons (h : c.isDigit = false) (rest : List Char) : NoDigit (c :: rest) := by
  intro d hd
  obtain rfl : c = d := by simpa using hd
  exact h

theorem Ends.noDigit (h : Ends chars) : NoDigit chars := by
  intro c hc
  exact of_mem_of_all (h c hc) (by decide)

theorem Exponent.noDigit (h : Exponent chars rest) (hrest : Ends rest) : NoDigit chars := by
  cases h with
  | absent => exact hrest.noDigit
  | @digits e _ _ _ he _ _ =>
    have hdigit : e.isDigit = false := of_mem_of_all he (by decide)
    exact noDigit_cons hdigit _

theorem Fraction.noDigit (h : Fraction chars rest) (hrest : NoDigit rest) : NoDigit chars := by
  cases h with
  | absent => exact hrest
  | digits _ => exact noDigit_cons (by decide) _

theorem toNat_lt_of_isDigit (h : c.isDigit = true) : c.toNat < 0x80 := by
  apply Nat.lt_of_not_le
  intro hle
  rw [isDigit_of_le hle] at h
  cases h

theorem digits_iff : Digits chars rest ↔
    ∃ c mid, chars = c :: mid ∧ c.isDigit = true ∧ (mid = rest ∨ Digits mid rest) := by
  constructor
  · intro h
    cases h with
    | one hc => exact ⟨_, _, rfl, hc, .inl rfl⟩
    | more hc hdigits => exact ⟨_, _, rfl, hc, .inr hdigits⟩
  · rintro ⟨c, mid, rfl, hc, rfl | hdigits⟩
    · exact .one hc
    · exact .more hc hdigits

theorem digits_append {digits : List Char} (hdigits : AllDigits digits) (hne : digits ≠ [])
    (rest : List Char) : Digits (digits ++ rest) rest := by
  induction digits with
  | nil => exact absurd rfl hne
  | cons c digits ih =>
    obtain ⟨hc, hdigits⟩ := allDigits_cons.mp hdigits
    by_cases hnil : digits = []
    · subst hnil
      exact .one hc
    · exact .more hc (ih hdigits hnil)

theorem Digits.exists_eq_append (h : Digits chars rest) :
    ∃ c digits, chars = c :: (digits ++ rest) ∧ c.isDigit = true ∧ AllDigits digits := by
  induction h with
  | @one c _ hc => exact ⟨c, [], rfl, hc, allDigits_nil⟩
  | @more c _ _ hc _ ih =>
    obtain ⟨d, digits, rfl, hd, hdigits⟩ := ih
    exact ⟨c, d :: digits, rfl, hc, allDigits_cons.mpr ⟨hd, hdigits⟩⟩

theorem digits_cons {digits : List Char} (hc : c.isDigit = true) (hdigits : AllDigits digits)
    (rest : List Char) : Digits (c :: (digits ++ rest)) rest :=
  digits_append (allDigits_cons.mpr ⟨hc, hdigits⟩) (List.cons_ne_nil _ _) rest

theorem Unsigned.exists_digit (h : Unsigned chars rest) :
    ∃ c mid, chars = c :: mid ∧ c.isDigit = true := by
  cases h with
  | mk hwhole _ _ =>
    cases hwhole with
    | zero => exact ⟨_, _, rfl, by decide⟩
    | one hc _ => exact ⟨_, _, rfl, hc⟩
    | more hc _ _ => exact ⟨_, _, rfl, hc⟩

theorem Numeral.exists_first (h : Numeral chars rest) :
    ∃ c mid, chars = c :: mid ∧ (c = '-' ∧ Unsigned mid rest ∨
      c.isDigit = true ∧ Unsigned chars rest) := by
  cases h with
  | positive h =>
    obtain ⟨c, mid, rfl, hc⟩ := h.exists_digit
    exact ⟨c, mid, rfl, .inr ⟨hc, h⟩⟩
  | negative h => exact ⟨_, _, rfl, .inl ⟨rfl, h⟩⟩

end Json

namespace Reader

open Json

variable {α : Type} {chars mid rest : List Char} {c : Char}

/-! Digits. -/

theorem isDigit_lead_of_noDigit (h : NoDigit (c :: rest)) : isDigit (lead c) = false := by
  rw [isDigit_lead]
  exact h c rfl

theorem reads_skipDigits_stop (count : Nat) (h : NoDigit chars) :
    Reads (loop skipDigitsTurn count) chars count chars := by
  refine reads_loop_stop (Reads.bind (reads_look chars) ?_)
  cases chars with
  | nil => exact LeadsTo.refl _ _
  | cons c rest =>
    simp only [firstByte?_cons, isDigit_lead_of_noDigit h, Bool.false_eq_true, if_false]
    exact LeadsTo.refl _ _

theorem leadsTo_skipDigits_again (count : Nat) (h : c.isDigit = true) (rest : List Char) :
    LeadsTo (loop skipDigitsTurn count) (c :: rest) (loop skipDigitsTurn (count + 1)) rest := by
  refine leadsTo_loop_again (Reads.bind (reads_look _) ?_) (.cons c (List.suffix_refl rest))
  have hc : isDigit (lead c) = true := by rwa [isDigit_lead]
  simp only [firstByte?_cons, hc, if_true]
  exact Reads.bind (reads_eat (toNat_lt_of_isDigit h) rest) (LeadsTo.refl _ _)

theorem reads_skipDigits_all {digits : List Char} (hdigits : AllDigits digits)
    (hrest : NoDigit rest) (count : Nat) :
    Reads (loop skipDigitsTurn count) (digits ++ rest) (count + digits.length) rest := by
  induction digits generalizing count with
  | nil => exact reads_skipDigits_stop count hrest
  | cons c digits ih =>
    obtain ⟨hc, hdigits⟩ := allDigits_cons.mp hdigits
    have hlength : count + (c :: digits).length = count + 1 + digits.length := by
      rw [List.length_cons]
      omega
    rw [hlength]
    exact LeadsTo.trans (leadsTo_skipDigits_again count hc _) (ih hdigits _)

theorem reads_skipDigits (h : Digits chars rest) (hrest : NoDigit rest) (count : Nat) :
    ∃ total, count < total ∧ Reads (loop skipDigitsTurn count) chars total rest := by
  obtain ⟨c, digits, rfl, hc, hdigits⟩ := h.exists_eq_append
  have hall := allDigits_cons.mpr ⟨hc, hdigits⟩
  exact ⟨_, Nat.lt_add_of_pos_right (Nat.succ_pos _), reads_skipDigits_all hall hrest count⟩

theorem exists_reads_skipDigits (h : chars = rest ∨ Digits chars rest) (hrest : NoDigit rest) :
    ∃ total, Reads skipDigits chars total rest := by
  rcases h with rfl | h
  · exact ⟨0, reads_skipDigits_stop 0 hrest⟩
  · obtain ⟨total, _, htotal⟩ := reads_skipDigits h hrest 0
    exact ⟨total, htotal⟩

theorem accepts_skipDigits (count : Nat) (chars : List Char) :
    Accepts (loop skipDigitsTurn count) chars fun total rest =>
      total = count ∧ chars = rest ∨ count < total ∧ Digits chars rest := by
  refine accepts_loop (fun count chars total rest =>
    total = count ∧ chars = rest ∨ count < total ∧ Digits chars rest) ?_ count chars
  intro count chars
  refine Reads.accepts_bind (reads_look chars) ?_
  cases chars with
  | nil => exact accepts_pure (.inl ⟨rfl, rfl⟩)
  | cons c rest =>
    simp only [firstByte?_cons, isDigit_lead]
    split
    · rename_i hc
      refine Reads.accepts_bind (reads_eat (toNat_lt_of_isDigit hc) rest) (accepts_pure ?_)
      rintro total last (⟨rfl, rfl⟩ | ⟨hlt, hdigits⟩)
      · exact .inr ⟨Nat.lt_succ_self _, .one hc⟩
      · exact .inr ⟨Nat.lt_of_succ_lt hlt, .more hc hdigits⟩
    · exact accepts_pure (.inl ⟨rfl, rfl⟩)

/-! Exponents. -/

theorem reads_exponentSign {positive : Bool} (h : SpellsSign chars positive mid)
    (hdigits : Digits mid rest) : Reads exponentSign chars positive mid := by
  cases h with
  | absent =>
    refine Reads.bind (reads_look chars) ?_
    obtain ⟨c, mid, rfl, hc, _⟩ := digits_iff.mp hdigits
    have hplus : c ≠ '+' := by
      rintro rfl
      exact absurd hc (by decide)
    have hminus : c ≠ '-' := by
      rintro rfl
      exact absurd hc (by decide)
    rw [firstByte?_cons]
    exact leadsTo_if_neg (by decide) hplus (leadsTo_if_neg (by decide) hminus (LeadsTo.refl _ _))
  | plus =>
    refine Reads.bind (reads_look _) ?_
    rw [firstByte?_cons]
    exact leadsTo_if_pos (by decide) (Reads.bind (reads_eat (by decide) _) (LeadsTo.refl _ _))
  | minus =>
    refine Reads.bind (reads_look _) ?_
    rw [firstByte?_cons]
    refine leadsTo_if_neg (by decide) (by decide) (leadsTo_if_pos (by decide) ?_)
    exact Reads.bind (reads_eat (by decide) _) (LeadsTo.refl _ _)

theorem accepts_exponentSign :
    Accepts exponentSign chars fun positive rest => SpellsSign chars positive rest := by
  refine Reads.accepts_bind (reads_look chars) ?_
  cases chars with
  | nil => exact accepts_pure .absent
  | cons c rest =>
    rw [firstByte?_cons]
    refine accepts_if (by decide) ?_ ?_
    · rintro rfl
      exact Reads.accepts_bind (reads_eat (by decide) rest) (accepts_pure .plus)
    · intro _
      refine accepts_if (by decide) ?_ (fun _ => accepts_pure .absent)
      rintro rfl
      exact Reads.accepts_bind (reads_eat (by decide) rest) (accepts_pure .minus)

theorem reads_skipExponent (h : Exponent chars rest) (hrest : Ends rest) :
    Reads skipExponent chars () rest := by
  cases h with
  | absent =>
    refine Reads.bind (reads_look chars) ?_
    cases chars with
    | nil => exact LeadsTo.refl _ _
    | cons c chars =>
      have hc : c ∉ ['e', 'E'] := of_mem_of_all (hrest c rfl) (by decide)
      simp only [firstByte?_cons, startsExponent_lead, decide_eq_false hc, Bool.false_eq_true,
        if_false]
      exact LeadsTo.refl _ _
  | @digits e chars mid _ he hsign hdigits =>
    obtain ⟨positive, hspelled⟩ := hsign.exists_spellsSign
    have hpositive := reads_exponentSign hspelled hdigits
    obtain ⟨c, mid, rfl, hc, hmore⟩ := digits_iff.mp hdigits
    obtain ⟨total, htotal⟩ := exists_reads_skipDigits hmore hrest.noDigit
    have hlow := toNat_lt_of_mem_marks he
    refine Reads.bind (reads_look _) ?_
    simp only [firstByte?_cons, startsExponent_lead, decide_eq_true he, if_true]
    refine Reads.bind (reads_eat hlow chars) (Reads.bind hpositive ?_)
    refine Reads.bind (reads_next (toNat_lt_of_isDigit hc) mid) ?_
    simp only [isDigit_lead, hc, if_true]
    exact Reads.bind htotal (LeadsTo.refl _ _)

theorem accepts_skipExponent : Accepts skipExponent chars fun _ rest => Exponent chars rest := by
  refine Reads.accepts_bind (reads_look chars) ?_
  cases chars with
  | nil => exact accepts_pure .absent
  | cons e chars =>
    simp only [firstByte?_cons, startsExponent_lead, decide_eq_true_eq]
    split
    · rename_i he
      have hlow := toNat_lt_of_mem_marks he
      refine Reads.accepts_bind (reads_eat hlow chars) ?_
      refine Accepts.bind (accepts_exponentSign.mono ?_)
      intro _ mid hsign
      refine accepts_next (refuses_refuse _) ?_ ?_
      · rintro c mid rfl _
        simp only [isDigit_lead]
        split
        · rename_i hc
          refine Accepts.bind ((accepts_skipDigits 0 mid).mono ?_)
          rintro total rest (⟨_, rfl⟩ | ⟨_, hdigits⟩)
          · exact accepts_pure (.digits he hsign.sign (.one hc))
          · exact accepts_pure (.digits he hsign.sign (.more hc hdigits))
        · exact (refuses_refuse _).accepts
      · intro b hb
        simp only [isDigit_of_byte_le hb, Bool.false_eq_true, if_false]
        exact refuses_refuse _
    · exact accepts_pure .absent

/-! Fractions, and whole numbers before them. -/

theorem reads_skipFraction (h : Fraction chars mid) (h' : Exponent mid rest) (hrest : Ends rest) :
    Reads skipFraction chars () rest := by
  refine Reads.bind (reads_look chars) ?_
  cases h with
  | absent =>
    have hexponent := reads_skipExponent h' hrest
    cases chars with
    | nil =>
      cases h' with
      | absent => exact LeadsTo.refl _ _
    | cons c chars =>
      have hc : c ≠ '.' := by
        cases h' with
        | absent => exact of_mem_of_all (hrest c rfl) (by decide)
        | digits he _ _ => exact of_mem_of_all he (by decide)
      rw [firstByte?_cons]
      exact leadsTo_if_neg (by decide) hc hexponent
  | digits hdigits =>
    obtain ⟨total, hlt, htotal⟩ := reads_skipDigits hdigits (h'.noDigit hrest) 0
    rw [firstByte?_cons]
    refine leadsTo_if_pos (by decide) (Reads.bind (reads_eat (by decide) _) ?_)
    refine Reads.bind htotal ?_
    rw [if_neg (Nat.ne_of_gt hlt)]
    exact reads_skipExponent h' hrest

theorem accepts_skipFraction : Accepts skipFraction chars fun _ rest =>
    ∃ mid, Fraction chars mid ∧ Exponent mid rest := by
  refine Reads.accepts_bind (reads_look chars) ?_
  cases chars with
  | nil => exact accepts_pure ⟨[], .absent, .absent⟩
  | cons c chars =>
    rw [firstByte?_cons]
    refine accepts_if (by decide) ?_ ?_
    · rintro rfl
      refine Reads.accepts_bind (reads_eat (by decide) chars) ?_
      refine Accepts.bind ((accepts_skipDigits 0 chars).mono ?_)
      rintro total mid (⟨rfl, _⟩ | ⟨hlt, hdigits⟩)
      · exact (refuses_refuseNext _).accepts
      · rw [if_neg (Nat.ne_of_gt hlt)]
        exact accepts_skipExponent.mono fun _ rest h => ⟨mid, .digits hdigits, h⟩
    · intro _
      exact accepts_skipExponent.mono fun _ rest h => ⟨_, .absent, h⟩

theorem reads_skipNumber (h : Unsigned chars rest) (hrest : Ends rest) :
    Reads skipNumber chars () rest := by
  cases h with
  | @mk point _ _ hwhole hpoint hmark =>
    have hfraction := reads_skipFraction hpoint hmark hrest
    have hdigit : NoDigit point := hpoint.noDigit (hmark.noDigit hrest)
    have hmore : ∀ {c mid}, c.isDigit = true → c ≠ '0' → (mid = point ∨ Digits mid point) →
        Reads skipNumber (c :: mid) () rest := by
      intro c mid hc hzero hdigits
      obtain ⟨total, htotal⟩ := exists_reads_skipDigits hdigits hdigit
      refine Reads.bind (reads_next (toNat_lt_of_isDigit hc) mid) ?_
      refine leadsTo_if_neg (by decide) hzero ?_
      simp only [isDigit_lead, hc, if_true]
      exact Reads.bind htotal hfraction
    cases hwhole with
    | zero =>
      refine Reads.bind (reads_next (by decide) point) (leadsTo_if_pos (by decide) ?_)
      refine Reads.bind (reads_look point) ?_
      cases point with
      | nil => exact hfraction
      | cons c point =>
        simp only [firstByte?_cons, isDigit_lead_of_noDigit hdigit, Bool.false_eq_true, if_false]
        exact hfraction
    | one hc hzero => exact hmore hc hzero (.inl rfl)
    | more hc hzero hdigits => exact hmore hc hzero (.inr hdigits)

theorem accepts_skipNumber : Accepts skipNumber chars fun _ rest => Unsigned chars rest := by
  refine accepts_next (refuses_refuse _) ?_ ?_
  · rintro c chars rfl _
    refine accepts_if (by decide) ?_ ?_
    · rintro rfl
      refine Reads.accepts_bind (reads_look chars) ?_
      have hfraction : Accepts skipFraction chars fun _ rest => Unsigned ('0' :: chars) rest :=
        accepts_skipFraction.mono fun _ rest ⟨mid, hpoint, hmark⟩ => .mk .zero hpoint hmark
      split
      · split
        · exact (refuses_refuseNext _).accepts
        · exact hfraction
      · exact hfraction
    · intro hzero
      simp only [isDigit_lead]
      split
      · rename_i hc
        refine Accepts.bind ((accepts_skipDigits 0 chars).mono ?_)
        rintro total point hdigits
        have hwhole : Whole (c :: chars) point := by
          rcases hdigits with ⟨_, rfl⟩ | ⟨_, hdigits⟩
          · exact .one hc hzero
          · exact .more hc hzero hdigits
        exact accepts_skipFraction.mono fun _ rest ⟨mid, hpoint, hmark⟩ => .mk hwhole hpoint hmark
      · exact (refuses_refuse _).accepts
  · intro b hb
    have hzero : b ≠ byte '0' := ne_byte_of_le hb (by decide)
    simp only [hzero, isDigit_of_byte_le hb, Bool.false_eq_true, if_false]
    exact refuses_refuse _

end Reader

end ShaderBinding
