import ShaderBinding.Proofs.Json.Decimals

/-! Numbers that are read. A decimal is read as the number that its digits stand for, or it is
refused as out of range; what is no decimal is refused for another cause. -/

namespace ShaderBinding

namespace Json

/-- What follows a decimal does not go on with it. -/
structure Decimal.Stops (d : Decimal) (rest : List Char) : Prop where
  noDigit : NoDigit rest
  noMark : d.exponent = none → ∀ c ∈ rest.head?, c ∉ ['e', 'E']
  noPoint : d.exponent = none → d.fraction = [] → ∀ c ∈ rest.head?, c ≠ '.'

theorem Ends.stops {rest : List Char} (h : Ends rest) (d : Decimal) : d.Stops rest where
  noDigit := h.noDigit
  noMark _ c hc := of_mem_of_all (h c hc) (by decide)
  noPoint _ _ c hc := of_mem_of_all (h c hc) (by decide)

theorem Decimal.Stops.of_head {d : Decimal} {rest other : List Char} (h : d.Stops rest)
    (hhead : other.head? = rest.head?) : d.Stops other where
  noDigit := by
    rw [NoDigit, hhead]
    exact h.noDigit
  noMark := by
    rw [hhead]
    exact h.noMark
  noPoint := by
    rw [hhead]
    exact h.noPoint

theorem SpellsExponent.noDigit {chars rest : List Char} {exponent : Option (Bool × List Char)}
    (h : SpellsExponent chars exponent rest) (hrest : NoDigit rest) : NoDigit chars := by
  cases h with
  | absent => exact hrest
  | @digits e _ _ _ _ _ he _ _ _ =>
    have hdigit : e.isDigit = false := of_mem_of_all he (by decide)
    exact noDigit_cons hdigit _

theorem exists_allDigits (chars : List Char) :
    ∃ digits rest, chars = digits ++ rest ∧ AllDigits digits ∧ NoDigit rest := by
  induction chars with
  | nil => exact ⟨[], [], rfl, allDigits_nil, by simp [NoDigit]⟩
  | cons c chars ih =>
    by_cases hc : c.isDigit = true
    · obtain ⟨digits, rest, rfl, hdigits, hrest⟩ := ih
      exact ⟨c :: digits, rest, rfl, allDigits_cons.mpr ⟨hc, hdigits⟩, hrest⟩
    · exact ⟨[], c :: chars, rfl, allDigits_nil, noDigit_cons (by simpa using hc) _⟩

end Json

namespace Reader

open Json

variable {α : Type} {chars mid rest : List Char} {c : Char}

/-! Digits. -/

theorem digitValue_lead (hc : c.isDigit = true) : digitValue (lead c) = digit c := by
  rw [digitValue, toNat_lead (toNat_lt_of_isDigit hc)]
  rfl

theorem reads_gather_stop (whole count : Nat) (h : NoDigit chars) :
    Reads (loop gatherTurn (whole, count)) chars (whole, count) chars := by
  refine reads_loop_stop (Reads.bind (reads_look chars) ?_)
  cases chars with
  | nil => exact LeadsTo.refl _ _
  | cons c rest =>
    simp only [firstByte?_cons, isDigit_lead_of_noDigit h, Bool.false_and, Bool.false_eq_true,
      if_false]
    exact LeadsTo.refl _ _

theorem leadsTo_gather_again {whole : Nat} (count : Nat) (hc : c.isDigit = true)
    (hfits : whole * 10 + digit c < wordBound) (rest : List Char) :
    LeadsTo (loop gatherTurn (whole, count)) (c :: rest)
      (loop gatherTurn (whole * 10 + digit c, count + 1)) rest := by
  refine leadsTo_loop_again (Reads.bind (reads_look _) ?_) (.cons c (List.suffix_refl rest))
  have hlead : isDigit (lead c) = true := by rwa [isDigit_lead]
  simp only [firstByte?_cons, hlead, digitValue_lead hc, hfits, decide_true, Bool.and_self,
    if_true]
  exact Reads.bind (reads_eat (toNat_lt_of_isDigit hc) rest) (LeadsTo.refl _ _)

/-- A digit that does not fit any more is left where it is. -/
theorem reads_gather_full {whole : Nat} (count : Nat) (hc : c.isDigit = true)
    (hfull : ¬ whole * 10 + digit c < wordBound) (rest : List Char) :
    Reads (loop gatherTurn (whole, count)) (c :: rest) (whole, count) (c :: rest) := by
  refine reads_loop_stop (Reads.bind (reads_look _) ?_)
  simp only [firstByte?_cons, digitValue_lead hc, hfull, decide_false, Bool.and_false,
    Bool.false_eq_true, if_false]
  exact LeadsTo.refl _ _

theorem reads_gather {digits : List Char} (hdigits : AllDigits digits) (hrest : NoDigit rest)
    (whole count : Nat) : Reads (loop gatherTurn (whole, count)) (digits ++ rest)
      ((gathered whole digits).1, count + (digits.length - (gathered whole digits).2.length))
      ((gathered whole digits).2 ++ rest) := by
  induction digits generalizing whole count with
  | nil => exact reads_gather_stop whole count hrest
  | cons c digits ih =>
    obtain ⟨hc, hdigits⟩ := allDigits_cons.mp hdigits
    rw [gathered]
    by_cases hfits : whole * 10 + digit c < wordBound
    · rw [if_pos hfits]
      obtain ⟨kept, hkept, _⟩ := gathered_spec (whole * 10 + digit c) digits
      have hlength := congrArg List.length hkept
      rw [List.length_append] at hlength
      have hcount : count + ((c :: digits).length -
          (gathered (whole * 10 + digit c) digits).2.length) =
            count + 1 + (digits.length - (gathered (whole * 10 + digit c) digits).2.length) := by
        rw [List.length_cons]
        omega
      rw [hcount]
      exact LeadsTo.trans (leadsTo_gather_again count hc hfits _) (ih hdigits _ _)
    · rw [if_neg hfits, Nat.sub_self]
      exact reads_gather_full count hc hfits _

theorem reads_gatherDigits {digits : List Char} (hdigits : AllDigits digits)
    (hrest : NoDigit rest) (whole : Nat) : Reads (gatherDigits whole) (digits ++ rest)
      ((gathered whole digits).1, digits.length - (gathered whole digits).2.length)
      ((gathered whole digits).2 ++ rest) := by
  have hreads := reads_gather hdigits hrest whole 0
  rwa [Nat.zero_add] at hreads

theorem allDigits_lost {digits : List Char} (hdigits : AllDigits digits) (whole : Nat) :
    AllDigits (gathered whole digits).2 := by
  obtain ⟨kept, hkept, _⟩ := gathered_spec whole digits
  exact fun c hc => hdigits c (hkept ▸ List.mem_append_right _ hc)

theorem reads_exponentDigits_stop (exponent : Nat) (h : NoDigit chars) :
    Reads (exponentDigits exponent) chars (some exponent) chars := by
  refine reads_loop_stop (Reads.bind (reads_look chars) ?_)
  cases chars with
  | nil => exact LeadsTo.refl _ _
  | cons c rest =>
    simp only [firstByte?_cons, isDigit_lead_of_noDigit h, Bool.false_eq_true, if_false]
    exact LeadsTo.refl _ _

theorem reads_exponentTurn (hc : c.isDigit = true) (exponent : Nat) (rest : List Char) :
    Reads (exponentTurn exponent) (c :: rest)
      (if exponent * 10 + digit c ≤ greatestExponent then .again (exponent * 10 + digit c)
        else .stop none) rest := by
  have hlead : isDigit (lead c) = true := by rwa [isDigit_lead]
  refine Reads.bind (reads_look _) ?_
  simp only [firstByte?_cons, hlead, if_true, digitValue_lead hc]
  refine Reads.bind (reads_eat (toNat_lt_of_isDigit hc) rest) ?_
  split <;> exact LeadsTo.refl _ _

theorem lt_digitsValue {bound start : Nat} (h : bound < start) (digits : List Char) :
    bound < digitsValue digits start :=
  calc bound < start := h
    _ ≤ start * 10 ^ digits.length := Nat.le_mul_of_pos_right _ (Nat.pow_pos (by decide))
    _ ≤ digitsValue digits start := mul_le_digitsValue digits start

/-- The digits of an exponent are counted, unless it is too great. -/
theorem reads_exponentDigits {digits : List Char} (hdigits : AllDigits digits)
    (hrest : NoDigit rest) {exponent : Nat} (hexponent : exponent ≤ greatestExponent) :
    if digitsValue digits exponent ≤ greatestExponent then
      Reads (exponentDigits exponent) (digits ++ rest) (some (digitsValue digits exponent)) rest
    else ∃ lost, AllDigits lost ∧
      Reads (exponentDigits exponent) (digits ++ rest) none (lost ++ rest) := by
  induction digits generalizing exponent with
  | nil =>
    have hvalue : digitsValue [] exponent = exponent := rfl
    rw [hvalue, if_pos hexponent]
    exact reads_exponentDigits_stop exponent hrest
  | cons c digits ih =>
    obtain ⟨hc, hdigits⟩ := allDigits_cons.mp hdigits
    have hturn := reads_exponentTurn hc exponent (digits ++ rest)
    rw [digitsValue_cons]
    by_cases hmore : exponent * 10 + digit c ≤ greatestExponent
    · rw [if_pos hmore] at hturn
      have hagain : LeadsTo (exponentDigits exponent) (c :: (digits ++ rest))
          (exponentDigits (exponent * 10 + digit c)) (digits ++ rest) :=
        leadsTo_loop_again hturn (.cons c (List.suffix_refl _))
      have hnext := ih hdigits hmore
      split
      · rename_i hcount
        rw [if_pos hcount] at hnext
        exact LeadsTo.trans hagain hnext
      · rename_i hcount
        rw [if_neg hcount] at hnext
        obtain ⟨lost, hlost, hnext⟩ := hnext
        exact ⟨lost, hlost, LeadsTo.trans hagain hnext⟩
    · rw [if_neg hmore] at hturn
      rw [if_neg (lt_digitsValue (Nat.lt_of_not_le hmore) digits).not_ge]
      exact ⟨digits, hdigits, reads_loop_stop hturn⟩

/-! The end of a number. -/

/-- Gives a number, or refuses it as out of range. -/
def answer : Option Number → Reader Number
  | some number => pure number
  | none => refuse .numberOutOfRange

/-- A reader reads what is ahead as a number, or refuses it as out of range, perhaps before its
end. -/
def Answers (reader : Reader Number) (chars : List Char) (result : Option Number)
    (rest : List Char) : Prop :=
  ∃ stop, LeadsTo reader chars (answer result) stop ∧ (result ≠ none → stop = rest)

theorem Answers.of_leadsTo {first second : Reader Number} {result : Option Number}
    (h' : Answers second mid result rest) (h : LeadsTo first chars second mid) :
    Answers first chars result rest := by
  obtain ⟨stop, hstop, he⟩ := h'
  exact ⟨stop, h.trans hstop, he⟩

theorem Answers.of_reads {value : α} {first : Reader α} {next : α → Reader Number}
    {result : Option Number} (h : Reads first chars value mid)
    (h' : Answers (next value) mid result rest) : Answers (first >>= next) chars result rest :=
  h'.of_leadsTo (Reads.bind h (LeadsTo.refl _ _))

theorem answers_self (result : Option Number) (rest : List Char) :
    Answers (answer result) rest result rest :=
  ⟨rest, LeadsTo.refl _ _, fun _ => rfl⟩

theorem double_eq (negative : Bool) (whole : Nat) (power : Int) :
    double negative whole power = answer (double? negative whole power) := by
  rw [double, double?]
  cases Magnitude.ofDecimal? whole power <;> rfl

theorem integer_eq (negative : Bool) (whole : Nat) :
    integer negative whole = answer (integer? negative whole) := by
  rw [integer, integer?]
  split
  · rfl
  · split
    · rfl
    · exact double_eq _ _ _

variable {negative positive : Bool} {whole : Nat} {power : Int} {digits : List Char}

theorem answers_exponent {e : Char} (he : e ∈ ['e', 'E'])
    (hsign : SpellsSign chars positive (c :: (digits ++ rest))) (hc : c.isDigit = true)
    (hdigits : AllDigits digits) (hrest : NoDigit rest) :
    Answers (exponent negative whole power) (e :: chars)
      (scaled? negative whole power (some (positive, c :: digits))) rest := by
  have hlead : isDigit (lead c) = true := by rwa [isDigit_lead]
  have hsize : digit c ≤ greatestExponent := by
    have hten := digit_lt hc
    have hgreat : 10 ≤ greatestExponent := by decide
    omega
  have hcounted := reads_exponentDigits hdigits hrest hsize
  have hvalue : digitsValue (c :: digits) 0 = digitsValue digits (digit c) := by
    rw [digitsValue_cons, Nat.zero_mul, Nat.zero_add]
  refine .of_reads (reads_eat (toNat_lt_of_mem_marks he) _) ?_
  refine .of_reads (reads_exponentSign hsign (digits_cons hc hdigits rest)) ?_
  refine .of_reads (reads_next (toNat_lt_of_isDigit hc) _) ?_
  simp only [hlead, if_true, digitValue_lead hc, scaled?, hvalue]
  by_cases hcount : digitsValue digits (digit c) ≤ greatestExponent
  · rw [if_pos hcount] at hcounted ⊢
    refine .of_reads hcounted ?_
    dsimp only
    rw [double_eq]
    exact answers_self _ _
  · rw [if_neg hcount] at hcounted ⊢
    obtain ⟨lost, hlost, hnone⟩ := hcounted
    refine .of_reads hnone ?_
    by_cases hgreat : whole ≠ 0 ∧ positive = true
    · simp only [if_pos hgreat]
      exact ⟨lost ++ rest, LeadsTo.refl _ _, fun h => absurd rfl h⟩
    · simp only [if_neg hgreat]
      refine .of_reads (reads_skipDigits_all hlost hrest 0) ?_
      exact answers_self (some (.float ⟨negative, .zero⟩)) rest

theorem answers_scaled {exponent : Option (Bool × List Char)}
    (h : SpellsExponent chars exponent rest) (hrest : NoDigit rest)
    (hmark : exponent = none → ∀ c ∈ rest.head?, c ∉ ['e', 'E']) :
    Answers (scaled negative whole power) chars (scaled? negative whole power exponent) rest := by
  refine .of_reads (reads_look chars) ?_
  cases h with
  | absent =>
    have hdouble := answers_self (double? negative whole power) chars
    rw [← double_eq] at hdouble
    cases chars with
    | nil => exact hdouble
    | cons c chars =>
      have hc : startsExponent (lead c) = false := by
        rw [startsExponent_lead]
        exact decide_eq_false (hmark rfl c rfl)
      simp only [firstByte?_cons, hc, Bool.false_eq_true, if_false]
      exact hdouble
  | digits he hsign hc hdigits =>
    simp only [firstByte?_cons, startsExponent_lead, decide_eq_true he, if_true]
    exact answers_exponent he hsign hc hdigits hrest

theorem answers_fraction {exponent : Option (Bool × List Char)} (hc : c.isDigit = true)
    (hdigits : AllDigits digits) (h : SpellsExponent mid exponent rest) (hrest : NoDigit rest)
    (hmark : exponent = none → ∀ c ∈ rest.head?, c ∉ ['e', 'E']) :
    Answers (fraction negative whole power) ('.' :: c :: (digits ++ mid))
      (scaled? negative (gathered whole (c :: digits)).1 (power -
        ((c :: digits).length - (gathered whole (c :: digits)).2.length : Nat)) exponent) rest := by
  have hall := allDigits_cons.mpr ⟨hc, hdigits⟩
  have hmid := h.noDigit hrest
  obtain ⟨kept, hkept, _⟩ := gathered_spec whole (c :: digits)
  have hlength := congrArg List.length hkept
  rw [List.length_append, List.length_cons] at hlength
  have hsome : ¬ ((c :: digits).length - (gathered whole (c :: digits)).2.length = 0 ∧
      0 + (gathered whole (c :: digits)).2.length = 0) := by
    rw [List.length_cons]
    omega
  refine .of_reads (reads_eat (by decide) _) ?_
  refine .of_reads (reads_gatherDigits hall hmid whole) ?_
  refine .of_reads (reads_skipDigits_all (allDigits_lost hall whole) hmid 0) ?_
  rw [if_neg hsome]
  exact answers_scaled h hrest hmark

/-- What follows the whole part, from which `dropped` digits were lost. -/
theorem answers_afterWhole {dropped : Nat} {fraction : List Char}
    {exponent : Option (Bool × List Char)} (hfraction : SpellsFraction chars fraction mid)
    (hexponent : SpellsExponent mid exponent rest)
    (hrest : Decimal.Stops ⟨[], fraction, exponent⟩ rest) :
    Answers (afterWhole negative whole dropped) chars
      (if fraction = [] ∧ exponent = none ∧ dropped = 0 then integer? negative whole
        else scaled? negative (gathered whole fraction).1
          (dropped - (fraction.length - (gathered whole fraction).2.length : Nat)) exponent) rest := by
  refine .of_reads (reads_look chars) ?_
  cases hfraction with
  | digits hc hdigits =>
    rw [if_neg (fun h => List.cons_ne_nil _ _ h.1), firstByte?_cons]
    exact (answers_fraction hc hdigits hexponent hrest.noDigit hrest.noMark).of_leadsTo
      (leadsTo_if_pos (by decide) (LeadsTo.refl _ _))
  | absent =>
    have hzero : ((dropped : Int) - (([] : List Char).length -
        (gathered whole []).2.length : Nat)) = dropped := by simp
    rw [hzero]
    cases hexponent with
    | digits he hsign hc hdigits =>
      rename_i e _ _ _ _
      have hpoint : e ≠ '.' := of_mem_of_all he (by decide)
      rw [if_neg (fun h => Option.some_ne_none _ h.2.1), firstByte?_cons]
      refine Answers.of_leadsTo ?_ (leadsTo_if_neg (by decide) hpoint (LeadsTo.refl _ _))
      simp only [startsExponent_lead, decide_eq_true he, if_true]
      exact answers_exponent he hsign hc hdigits hrest.noDigit
    | absent =>
      have hplain : Answers (afterWhole.plain negative whole dropped) chars
          (if ([] : List Char) = [] ∧ (none : Option (Bool × List Char)) = none ∧ dropped = 0 then
            integer? negative whole else scaled? negative whole dropped none) chars := by
        rw [afterWhole.plain]
        by_cases hnone : dropped = 0
        · rw [if_pos hnone, if_pos ⟨rfl, rfl, hnone⟩, integer_eq]
          exact answers_self _ _
        · rw [if_neg hnone, if_neg (fun h => hnone h.2.2), double_eq]
          exact answers_self _ _
      cases chars with
      | nil => exact hplain
      | cons c chars =>
        have hpoint : c ≠ '.' := hrest.noPoint rfl rfl c rfl
        have hmark : startsExponent (lead c) = false := by
          rw [startsExponent_lead]
          exact decide_eq_false (hrest.noMark rfl c rfl)
        rw [firstByte?_cons]
        refine Answers.of_leadsTo ?_ (leadsTo_if_neg (by decide) hpoint (LeadsTo.refl _ _))
        rw [hmark]
        exact hplain

theorem answers_number (negative : Bool) {d : Decimal} (h : SpellsDecimal chars d rest)
    (hrest : d.Stops rest) :
    Answers (number negative) chars (d.read? negative) rest := by
  cases h with
  | @mk point _ whole fraction _ exponent hwhole hfraction hexponent =>
    have hpoint : NoDigit point :=
      hfraction.grammar.noDigit (hexponent.noDigit hrest.noDigit)
    have hrest' : Decimal.Stops ⟨[], fraction, exponent⟩ rest :=
      ⟨hrest.noDigit, hrest.noMark, hrest.noPoint⟩
    have hafter : Answers (afterWhole negative (gathered 0 whole).1 (gathered 0 whole).2.length)
        point (Decimal.read? ⟨whole, fraction, exponent⟩ negative) rest :=
      answers_afterWhole hfraction hexponent hrest'
    cases hwhole with
    | zero =>
      refine .of_reads (reads_next (by decide) point) ?_
      refine Answers.of_leadsTo ?_ (leadsTo_if_pos (by decide) (LeadsTo.refl _ _))
      refine .of_reads (reads_look point) ?_
      cases point with
      | nil => exact hafter
      | cons c point =>
        simp only [firstByte?_cons, isDigit_lead_of_noDigit hpoint, Bool.false_eq_true, if_false]
        exact hafter
    | @digits c digits _ hc hzero hdigits =>
      have hlead : isDigit (lead c) = true := by rwa [isDigit_lead]
      have hfits : 0 * 10 + digit c < wordBound := by
        have hten := digit_lt hc
        have hbound : 10 ≤ wordBound := by decide
        omega
      have hfirst : gathered 0 (c :: digits) = gathered (digit c) digits := by
        rw [gathered, if_pos hfits, Nat.zero_mul, Nat.zero_add]
      rw [hfirst] at hafter
      refine .of_reads (reads_next (toNat_lt_of_isDigit hc) _) ?_
      refine Answers.of_leadsTo ?_ (leadsTo_if_neg (by decide) hzero (LeadsTo.refl _ _))
      simp only [hlead, if_true, digitValue_lead hc]
      refine .of_reads (reads_gatherDigits hdigits hpoint (digit c)) ?_
      refine .of_reads (reads_skipDigits_all (allDigits_lost hdigits (digit c)) hpoint 0) ?_
      rw [Nat.zero_add]
      exact hafter

/-! What is accepted as a number is a decimal, which ends where the number does. -/

theorem accepts_exponent {e : Char} (he : e ∈ ['e', 'E']) :
    Accepts (exponent negative whole power) (e :: chars) fun _ rest =>
      ∃ marked, SpellsExponent (e :: chars) (some marked) rest ∧ NoDigit rest := by
  refine Reads.accepts_bind (reads_eat (toNat_lt_of_mem_marks he) _) ?_
  refine Accepts.bind (accepts_exponentSign.mono ?_)
  intro positive mid hsign
  refine accepts_next (refuses_refuse _) ?_ ?_
  · rintro c last rfl _
    simp only [isDigit_lead]
    split
    · rename_i hc
      obtain ⟨digits, rest, rfl, hdigits, hrest⟩ := exists_allDigits last
      have hsize : digit c ≤ greatestExponent := by
        have hten := digit_lt hc
        have hgreat : 10 ≤ greatestExponent := by decide
        omega
      have hspelled := SpellsExponent.digits he hsign hc hdigits
      have hcounted := reads_exponentDigits hdigits hrest hsize
      rw [digitValue_lead hc]
      split at hcounted
      · refine Reads.accepts_bind hcounted ?_
        dsimp only
        rw [double]
        split
        · exact accepts_pure ⟨_, hspelled, hrest⟩
        · exact (refuses_refuse _).accepts
      · obtain ⟨lost, hlost, hnone⟩ := hcounted
        refine Reads.accepts_bind hnone ?_
        dsimp only
        split
        · exact (refuses_refuse _).accepts
        · exact Reads.accepts_bind (reads_skipDigits_all hlost hrest 0)
            (accepts_pure ⟨_, hspelled, hrest⟩)
    · exact (refuses_refuse _).accepts
  · intro b hb
    simp only [isDigit_of_byte_le hb, Bool.false_eq_true, if_false]
    exact refuses_refuse _

theorem accepts_double {post : Number → List Char → Prop} (h : ∀ number, post number chars) :
    Accepts (double negative whole power) chars post := by
  rw [double]
  split
  · exact accepts_pure (h _)
  · exact (refuses_refuse _).accepts

theorem accepts_scaled (hchars : NoDigit chars) :
    Accepts (scaled negative whole power) chars fun _ rest =>
      ∃ exponent, SpellsExponent chars exponent rest ∧ NoDigit rest ∧
        (exponent = none → ∀ c ∈ rest.head?, c ∉ ['e', 'E']) := by
  refine Reads.accepts_bind (reads_look chars) ?_
  cases chars with
  | nil => exact accepts_double fun _ => ⟨none, .absent, hchars, by simp⟩
  | cons c chars =>
    simp only [firstByte?_cons, startsExponent_lead, decide_eq_true_eq]
    split
    · rename_i hc
      refine (accepts_exponent hc).mono ?_
      rintro _ rest ⟨marked, hspelled, hrest⟩
      exact ⟨some marked, hspelled, hrest, by simp⟩
    · rename_i hc
      exact accepts_double fun _ => ⟨none, .absent, hchars, by simpa using hc⟩

theorem accepts_fraction : Accepts (fraction negative whole power) ('.' :: chars) fun _ rest =>
    ∃ d : Decimal, (∃ mid, SpellsFraction ('.' :: chars) d.fraction mid ∧
      SpellsExponent mid d.exponent rest) ∧ d.Stops rest := by
  obtain ⟨digits, mid, rfl, hdigits, hmid⟩ := exists_allDigits chars
  refine Reads.accepts_bind (reads_eat (by decide) _) ?_
  refine Reads.accepts_bind (reads_gatherDigits hdigits hmid whole) ?_
  refine Reads.accepts_bind (reads_skipDigits_all (allDigits_lost hdigits whole) hmid 0) ?_
  split
  · refine (Refuses.bind fun next => ?_).accepts
    split <;> exact refuses_refuseNext _
  · rename_i hsome
    cases digits with
    | nil => exact absurd ⟨rfl, rfl⟩ hsome
    | cons c digits =>
      obtain ⟨hc, hdigits⟩ := allDigits_cons.mp hdigits
      refine (accepts_scaled hmid).mono ?_
      rintro _ rest ⟨exponent, hspelled, hrest, hmark⟩
      have hpoint : c :: digits = [] → ∀ d ∈ rest.head?, d ≠ '.' :=
        fun h => absurd h (List.cons_ne_nil _ _)
      exact ⟨⟨[], c :: digits, exponent⟩, ⟨mid, .digits hc hdigits, hspelled⟩,
        ⟨hrest, hmark, fun _ => hpoint⟩⟩

theorem accepts_plain {dropped : Nat} {post : Number → List Char → Prop}
    (h : ∀ number, post number chars) :
    Accepts (afterWhole.plain negative whole dropped) chars post := by
  have hanswer : ∀ result, Accepts (answer result) chars post := by
    intro result
    cases result with
    | none => exact (refuses_refuse _).accepts
    | some number => exact accepts_pure (h number)
  rw [afterWhole.plain]
  split
  · rw [integer_eq]
    exact hanswer _
  · rw [double_eq]
    exact hanswer _

theorem accepts_afterWhole {dropped : Nat} (hchars : NoDigit chars) :
    Accepts (afterWhole negative whole dropped) chars fun _ rest =>
      ∃ d : Decimal, (∃ mid, SpellsFraction chars d.fraction mid ∧
        SpellsExponent mid d.exponent rest) ∧ d.Stops rest := by
  refine Reads.accepts_bind (reads_look chars) ?_
  cases chars with
  | nil =>
    exact accepts_plain fun _ =>
      ⟨⟨[], [], none⟩, ⟨[], .absent, .absent⟩, hchars, by simp, by simp⟩
  | cons c chars =>
    rw [firstByte?_cons]
    refine accepts_if (by decide) ?_ ?_
    · rintro rfl
      exact accepts_fraction
    · intro hpoint
      simp only [startsExponent_lead, decide_eq_true_eq]
      split
      · rename_i hc
        refine (accepts_exponent hc).mono ?_
        rintro _ rest ⟨marked, hspelled, hrest⟩
        exact ⟨⟨[], [], some marked⟩, ⟨_, .absent, hspelled⟩, hrest, by simp, by simp⟩
      · rename_i hc
        refine accepts_plain fun _ => ⟨⟨[], [], none⟩, ⟨_, .absent, .absent⟩, hchars, ?_, ?_⟩
        · simpa using hc
        · simpa using hpoint

theorem accepts_decimal : Accepts (number negative) chars fun _ rest =>
    ∃ d, SpellsDecimal chars d rest ∧ d.Stops rest := by
  have hafter : ∀ {chars point wholeDigits dropped}, SpellsWhole chars wholeDigits point →
      NoDigit point → ∀ whole, Accepts (afterWhole negative whole dropped) point fun _ rest =>
        ∃ d, SpellsDecimal chars d rest ∧ d.Stops rest := by
    intro chars point wholeDigits dropped hwhole hpoint whole
    refine (accepts_afterWhole hpoint).mono ?_
    rintro _ rest ⟨d, ⟨mid, hfraction, hexponent⟩, hrest⟩
    exact ⟨⟨wholeDigits, d.fraction, d.exponent⟩, .mk hwhole hfraction hexponent,
      hrest.noDigit, hrest.noMark, hrest.noPoint⟩
  refine accepts_next (refuses_refuse _) ?_ ?_
  · rintro c point rfl _
    refine accepts_if (by decide) ?_ ?_
    · rintro rfl
      refine Reads.accepts_bind (reads_look point) ?_
      cases point with
      | nil => exact hafter .zero (by simp [NoDigit]) 0
      | cons c point =>
        simp only [firstByte?_cons, isDigit_lead]
        split
        · exact (refuses_refuseNext _).accepts
        · rename_i hc
          exact hafter .zero (noDigit_cons (by simpa using hc) point) 0
    · intro hzero
      simp only [isDigit_lead]
      split
      · rename_i hc
        obtain ⟨digits, mid, rfl, hdigits, hmid⟩ := exists_allDigits point
        refine Reads.accepts_bind (reads_gatherDigits hdigits hmid _) ?_
        refine Reads.accepts_bind (reads_skipDigits_all (allDigits_lost hdigits _) hmid 0) ?_
        exact hafter (.digits hc hzero hdigits) hmid _
      · exact (refuses_refuse _).accepts
  · intro b hb
    have hzero : b ≠ byte '0' := ne_byte_of_le hb (by decide)
    simp only [hzero, isDigit_of_byte_le hb, Bool.false_eq_true, if_false]
    exact refuses_refuse _

theorem accepts_number : Accepts (number negative) chars fun number rest =>
    ∃ d, SpellsDecimal chars d rest ∧ d.Stops rest ∧ d.read? negative = some number := by
  intro cursor value after hcursor hdone
  obtain ⟨rest, hrest, d, hd, hstops⟩ := accepts_decimal cursor value after hcursor hdone
  obtain ⟨stop, hleads, hstop⟩ := answers_number negative hd hstops
  obtain ⟨last, hlast, he⟩ := hleads cursor hcursor
  rw [hdone] at he
  cases hread : d.read? negative with
  | none =>
    rw [hread] at he
    cases he
  | some number =>
    rw [hread] at he
    obtain ⟨rfl, rfl⟩ := Outcome.done.inj he
    exact ⟨rest, hrest, d, hd, hstops, hread⟩

theorem reads_number {d : Decimal} {result : Number} (h : SpellsDecimal chars d rest)
    (hrest : d.Stops rest) (hread : d.read? negative = some result) :
    Reads (number negative) chars result rest := by
  obtain ⟨stop, hleads, hstop⟩ := answers_number negative h hrest
  rw [hread] at hleads hstop
  obtain rfl := hstop (Option.some_ne_none _)
  exact hleads

end Reader

end ShaderBinding
