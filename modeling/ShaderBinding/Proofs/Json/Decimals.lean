import ShaderBinding.Proofs.Binary64.Scaling
import ShaderBinding.Proofs.Json.Locality
import ShaderBinding.Proofs.Json.SkippedNumbers

/-! Numbers by their digits: how a decimal is written, how great it is, and what it is read as. Only
numbers close to the greatest double, or with an exponent beyond all counting, are not read. -/

namespace ShaderBinding

namespace Json

def digit (c : Char) : Nat := c.toNat - '0'.toNat

def digitsValue (digits : List Char) (start : Nat) : Nat := Nat.ofDigitChars 10 digits start

/-- A number without its sign. The fraction is empty when no point is written; an exponent has its
direction and its digits. -/
structure Decimal where
  whole : List Char
  fraction : List Char
  exponent : Option (Bool × List Char)

namespace Decimal

def scale (d : Decimal) : Int :=
  match d.exponent with
  | none => 0
  | some (true, digits) => digitsValue digits 0
  | some (false, digits) => -digitsValue digits 0

def size (d : Decimal) : ℚ :=
  digitsValue (d.whole ++ d.fraction) 0 * 10 ^ (d.scale - d.fraction.length)

end Decimal

inductive SpellsWhole : List Char → List Char → List Char → Prop
  | zero {rest : List Char} : SpellsWhole ('0' :: rest) ['0'] rest
  | digits {c : Char} {digits rest : List Char} : c.isDigit = true → c ≠ '0' → AllDigits digits →
      SpellsWhole (c :: (digits ++ rest)) (c :: digits) rest

inductive SpellsFraction : List Char → List Char → List Char → Prop
  | absent {rest : List Char} : SpellsFraction rest [] rest
  | digits {c : Char} {digits rest : List Char} : c.isDigit = true → AllDigits digits →
      SpellsFraction ('.' :: c :: (digits ++ rest)) (c :: digits) rest

inductive SpellsExponent : List Char → Option (Bool × List Char) → List Char → Prop
  | absent {rest : List Char} : SpellsExponent rest none rest
  | digits {e c : Char} {positive : Bool} {chars digits rest : List Char} : e ∈ ['e', 'E'] →
      SpellsSign chars positive (c :: (digits ++ rest)) → c.isDigit = true → AllDigits digits →
      SpellsExponent (e :: chars) (some (positive, c :: digits)) rest

inductive SpellsDecimal : List Char → Decimal → List Char → Prop
  | mk {chars point mark whole fraction rest : List Char} {exponent : Option (Bool × List Char)} :
      SpellsWhole chars whole point → SpellsFraction point fraction mark →
      SpellsExponent mark exponent rest → SpellsDecimal chars ⟨whole, fraction, exponent⟩ rest

/-- The decimal of a whole text, which may have a sign. -/
inductive DecimalOf : List Char → Bool → Decimal → Prop
  | positive {text : List Char} {d : Decimal} : SpellsDecimal text d [] → DecimalOf text false d
  | negative {text : List Char} {d : Decimal} :
      SpellsDecimal text d [] → DecimalOf ('-' :: text) true d

/-! The grammar of numbers, with the digits named. -/

section

variable {chars rest : List Char} {c : Char}

theorem SpellsWhole.grammar {whole : List Char} (h : SpellsWhole chars whole rest) :
    Whole chars rest := by
  cases h with
  | zero => exact .zero
  | @digits c digits _ hc hzero hdigits =>
    by_cases hnil : digits = []
    · subst hnil
      exact .one hc hzero
    · exact .more hc hzero (digits_append hdigits hnil rest)

theorem SpellsFraction.grammar {fraction : List Char} (h : SpellsFraction chars fraction rest) :
    Fraction chars rest := by
  cases h with
  | absent => exact .absent
  | digits hc hdigits => exact .digits (digits_cons hc hdigits rest)

theorem SpellsExponent.grammar {exponent : Option (Bool × List Char)}
    (h : SpellsExponent chars exponent rest) : Exponent chars rest := by
  cases h with
  | absent => exact .absent
  | digits he hsign hc hdigits => exact .digits he hsign.sign (digits_cons hc hdigits rest)

theorem SpellsDecimal.unsigned {d : Decimal} (h : SpellsDecimal chars d rest) :
    Unsigned chars rest := by
  cases h with
  | mk hwhole hfraction hexponent =>
    exact .mk hwhole.grammar hfraction.grammar hexponent.grammar

theorem Whole.exists_spells (h : Whole chars rest) : ∃ whole, SpellsWhole chars whole rest := by
  cases h with
  | zero => exact ⟨_, .zero⟩
  | @one c _ hc hzero =>
    have hspells : SpellsWhole (c :: ([] ++ rest)) [c] rest := .digits hc hzero allDigits_nil
    exact ⟨[c], hspells⟩
  | @more c _ _ hc hzero h =>
    obtain ⟨d, digits, rfl, hd, hdigits⟩ := h.exists_eq_append
    have hspells : SpellsWhole (c :: (d :: digits ++ rest)) (c :: d :: digits) rest :=
      .digits hc hzero (allDigits_cons.mpr ⟨hd, hdigits⟩)
    exact ⟨c :: d :: digits, hspells⟩

theorem Fraction.exists_spells (h : Fraction chars rest) :
    ∃ fraction, SpellsFraction chars fraction rest := by
  cases h with
  | absent => exact ⟨[], .absent⟩
  | digits h =>
    obtain ⟨c, digits, rfl, hc, hdigits⟩ := h.exists_eq_append
    exact ⟨c :: digits, .digits hc hdigits⟩

theorem Exponent.exists_spells (h : Exponent chars rest) :
    ∃ exponent, SpellsExponent chars exponent rest := by
  cases h with
  | absent => exact ⟨none, .absent⟩
  | digits he hsign h =>
    obtain ⟨c, digits, rfl, hc, hdigits⟩ := h.exists_eq_append
    obtain ⟨positive, hspelled⟩ := hsign.exists_spellsSign
    exact ⟨_, .digits he hspelled hc hdigits⟩

theorem Unsigned.exists_spellsDecimal (h : Unsigned chars rest) :
    ∃ d, SpellsDecimal chars d rest := by
  cases h with
  | mk hwhole hpoint hmark =>
    obtain ⟨_, hwhole⟩ := hwhole.exists_spells
    obtain ⟨_, hpoint⟩ := hpoint.exists_spells
    obtain ⟨_, hmark⟩ := hmark.exists_spells
    exact ⟨_, .mk hwhole hpoint hmark⟩

end

theorem local_spellsWhole (whole : List Char) :
    Local fun chars rest => SpellsWhole chars whole rest := by
  intro chars rest h
  cases h with
  | zero => exact ⟨['0'], rfl, fun _ => .zero⟩
  | @digits c digits _ hc hzero hdigits =>
    exact ⟨c :: digits, rfl, fun _ => .digits hc hzero hdigits⟩

theorem local_spellsFraction (fraction : List Char) :
    Local fun chars rest => SpellsFraction chars fraction rest := by
  intro chars rest h
  cases h with
  | absent => exact ⟨[], rfl, fun _ => .absent⟩
  | @digits c digits _ hc hdigits =>
    exact ⟨'.' :: c :: digits, rfl, fun _ => .digits hc hdigits⟩

theorem local_spellsExponent (exponent : Option (Bool × List Char)) :
    Local fun chars rest => SpellsExponent chars exponent rest := by
  intro chars rest h
  cases h with
  | absent => exact ⟨[], rfl, fun _ => .absent⟩
  | @digits e c _ _ digits _ he hsign hc hdigits =>
    cases hsign with
    | absent => exact ⟨e :: c :: digits, rfl, fun _ => .digits he .absent hc hdigits⟩
    | plus => exact ⟨e :: '+' :: c :: digits, rfl, fun _ => .digits he .plus hc hdigits⟩
    | minus => exact ⟨e :: '-' :: c :: digits, rfl, fun _ => .digits he .minus hc hdigits⟩

theorem local_spellsDecimal (d : Decimal) : Local fun chars rest => SpellsDecimal chars d rest := by
  intro chars rest h
  cases h with
  | mk hwhole hfraction hexponent =>
    obtain ⟨mark, rfl, hmark⟩ := local_spellsExponent _ hexponent
    obtain ⟨point, rfl, hpoint⟩ := local_spellsFraction _ hfraction
    obtain ⟨whole, rfl, hwhole'⟩ := local_spellsWhole _ hwhole
    refine ⟨whole ++ (point ++ mark), by simp, fun other => ?_⟩
    simp only [List.append_assoc]
    exact .mk (hwhole' _) (hpoint _) (hmark other)

/-! Digits that fit into 64 bits, and those that do not. -/

/-- The whole number that digits are gathered into, and the digits that no longer fit. -/
def gathered (whole : Nat) : List Char → Nat × List Char
  | [] => (whole, [])
  | c :: digits =>
    if whole * 10 + digit c < wordBound then gathered (whole * 10 + digit c) digits
    else (whole, c :: digits)

/-- Some digits are kept, and the first of the others does not fit behind them. -/
theorem gathered_spec (whole : Nat) (digits : List Char) :
    ∃ kept, digits = kept ++ (gathered whole digits).2 ∧
      (gathered whole digits).1 = digitsValue kept whole ∧
      (∀ c ∈ kept.head?, whole * 10 + digit c < wordBound) ∧
      ∀ c ∈ (gathered whole digits).2.head?,
        wordBound ≤ (gathered whole digits).1 * 10 + digit c := by
  induction digits generalizing whole with
  | nil => exact ⟨[], rfl, rfl, by simp, by simp [gathered]⟩
  | cons c digits ih =>
    rw [gathered]
    by_cases hfits : whole * 10 + digit c < wordBound
    · rw [if_pos hfits]
      obtain ⟨kept, hkept, hvalue, _, hlost⟩ := ih (whole * 10 + digit c)
      refine ⟨c :: kept, congrArg (c :: ·) hkept, ?_, by simpa using hfits, hlost⟩
      rw [hvalue, digitsValue, digitsValue, Nat.ofDigitChars_cons, Nat.mul_comm 10 whole, digit]
    · rw [if_neg hfits]
      refine ⟨[], rfl, rfl, by simp, ?_⟩
      intro d hd
      obtain rfl : c = d := by simpa using hd
      exact Nat.le_of_not_lt hfits

theorem gathered_lt {whole : Nat} (h : whole < wordBound) (digits : List Char) :
    (gathered whole digits).1 < wordBound := by
  induction digits generalizing whole with
  | nil => exact h
  | cons c digits ih =>
    rw [gathered]
    by_cases hfits : whole * 10 + digit c < wordBound
    · rw [if_pos hfits]
      exact ih hfits
    · rw [if_neg hfits]
      exact h

theorem digitsValue_append (first second : List Char) (start : Nat) :
    digitsValue (first ++ second) start = digitsValue second (digitsValue first start) :=
  Nat.ofDigitChars_append start

theorem digitsValue_cons (c : Char) (digits : List Char) (start : Nat) :
    digitsValue (c :: digits) start = digitsValue digits (start * 10 + digit c) := by
  rw [digitsValue, digitsValue, Nat.ofDigitChars_cons, Nat.mul_comm 10 start, digit]

theorem mul_le_digitsValue (digits : List Char) (start : Nat) :
    start * 10 ^ digits.length ≤ digitsValue digits start := by
  induction digits generalizing start with
  | nil => simp [digitsValue]
  | cons c digits ih =>
    calc start * 10 ^ (digits.length + 1) = start * 10 * 10 ^ digits.length := by
          rw [Nat.pow_succ']
          ring
      _ ≤ (start * 10 + digit c) * 10 ^ digits.length := Nat.mul_le_mul_right _ (by omega)
      _ ≤ digitsValue digits (start * 10 + digit c) := ih _
      _ = digitsValue (c :: digits) start := (digitsValue_cons c digits start).symm

theorem digit_lt {c : Char} (h : c.isDigit = true) : digit c < 10 := by
  have hnine : c.toNat ≤ '9'.toNat := by
    simp only [Char.isDigit, Bool.and_eq_true, decide_eq_true_eq] at h
    exact h.2
  have hvalue : '9'.toNat = 57 := rfl
  have hzero : '0'.toNat = 48 := rfl
  rw [digit]
  omega

theorem digitsValue_lt {digits : List Char} (h : AllDigits digits) (start : Nat) :
    digitsValue digits start < (start + 1) * 10 ^ digits.length := by
  induction digits generalizing start with
  | nil => simp [digitsValue]
  | cons c digits ih =>
    obtain ⟨hc, hdigits⟩ := allDigits_cons.mp h
    have hten := digit_lt hc
    calc digitsValue (c :: digits) start = digitsValue digits (start * 10 + digit c) :=
          digitsValue_cons c digits start
      _ < (start * 10 + digit c + 1) * 10 ^ digits.length := ih hdigits _
      _ ≤ ((start + 1) * 10) * 10 ^ digits.length := Nat.mul_le_mul_right _ (by omega)
      _ = (start + 1) * 10 ^ (digits.length + 1) := by
          rw [Nat.pow_succ']
          ring

/-- Digits that begin with a lesser one have the lesser value, whatever follows. -/
theorem digitsValue_mul_le {c d : Char} {digits others : List Char} {count : Nat}
    (hdigits : AllDigits digits) (hless : digit d < digit c)
    (hcount : digits.length + count = others.length) (start : Nat) :
    digitsValue (d :: digits) start * 10 ^ count ≤ digitsValue (c :: others) start := by
  have hupper := digitsValue_lt hdigits (start * 10 + digit d)
  rw [digitsValue_cons d, digitsValue_cons c]
  calc digitsValue digits (start * 10 + digit d) * 10 ^ count
      ≤ ((start * 10 + digit d + 1) * 10 ^ digits.length) * 10 ^ count :=
        Nat.mul_le_mul_right _ hupper.le
    _ ≤ ((start * 10 + digit c) * 10 ^ digits.length) * 10 ^ count :=
        Nat.mul_le_mul_right _ (Nat.mul_le_mul_right _ (by omega))
    _ = (start * 10 + digit c) * 10 ^ others.length := by
        rw [Nat.mul_assoc, ← Nat.pow_add, hcount]
    _ ≤ digitsValue others (start * 10 + digit c) := mul_le_digitsValue others _

/-- What is gathered from the digits of the whole part and then from those of the fraction is not
too great, although digits in between may have been lost. -/
theorem gathered_le (whole : List Char) {fraction : List Char} (hfraction : AllDigits fraction) :
    (gathered (gathered 0 whole).1 fraction).1 *
        10 ^ ((gathered 0 whole).2.length + (gathered (gathered 0 whole).1 fraction).2.length) ≤
      digitsValue (whole ++ fraction) 0 := by
  obtain ⟨front, hfront, hvalue, _, hlost⟩ := gathered_spec 0 whole
  obtain ⟨back, hback, hvalue', hfits, _⟩ := gathered_spec (gathered 0 whole).1 fraction
  generalize gathered 0 whole = first at *
  generalize hsecond : gathered first.1 fraction = second at *
  obtain ⟨start, lost⟩ := first
  obtain ⟨value, lost'⟩ := second
  dsimp only at *
  subst hvalue hvalue'
  have hall : digitsValue (whole ++ fraction) 0 =
      digitsValue (lost ++ (back ++ lost')) (digitsValue front 0) := by
    rw [hfront, hback, List.append_assoc, digitsValue_append]
  rw [hall]
  have hbackDigits : AllDigits back := fun c hc => hfraction c (hback ▸ List.mem_append_left _ hc)
  cases lost with
  | nil =>
    rw [List.nil_append, digitsValue_append]
    simpa using mul_le_digitsValue lost' _
  | cons c lost =>
    cases back with
    | nil =>
      have hle := mul_le_digitsValue (c :: lost ++ lost') (digitsValue front 0)
      rwa [List.length_append] at hle
    | cons d back =>
      -- A digit of the fraction fits where one of the whole part did not: it is the lesser one.
      obtain ⟨_, hback⟩ := allDigits_cons.mp hbackDigits
      have hc := hlost c (by simp)
      have hd := hfits d (by simp)
      rw [List.cons_append]
      refine digitsValue_mul_le hback (by omega) ?_ _
      simp only [List.length_append, List.length_cons]
      omega

/-! What a decimal is read as. -/

def double? (negative : Bool) (whole : Nat) (power : Int) : Option Number :=
  (Magnitude.ofDecimal? whole power).map fun magnitude => .float ⟨negative, magnitude⟩

def integer? (negative : Bool) (whole : Nat) : Option Number :=
  if !negative then some (.integer whole)
  else if 1 ≤ whole ∧ whole ≤ leastWord then some (.integer (-whole))
  else double? true whole 0

def scaled? (negative : Bool) (whole : Nat) (power : Int) :
    Option (Bool × List Char) → Option Number
  | none => double? negative whole power
  | some (positive, digits) =>
    if digitsValue digits 0 ≤ greatestExponent then
      double? negative whole
        (if positive then power + digitsValue digits 0 else power - digitsValue digits 0)
    else if whole ≠ 0 ∧ positive then none
    else some (.float ⟨negative, .zero⟩)

namespace Decimal

/-- The digits of the whole part that fit into 64 bits, and the others. -/
def start (d : Decimal) : Nat × List Char := gathered 0 d.whole

/-- All digits that fit into 64 bits, and the power of ten that they count for. -/
def mantissa (d : Decimal) : Nat × Int :=
  ((gathered d.start.1 d.fraction).1,
    d.start.2.length - (d.fraction.length - (gathered d.start.1 d.fraction).2.length : Nat))

/-- The number that a decimal is read as; none when it is out of range. -/
def read? (d : Decimal) (negative : Bool) : Option Number :=
  if d.fraction = [] ∧ d.exponent = none ∧ d.start.2.length = 0 then integer? negative d.start.1
  else scaled? negative d.mantissa.1 d.mantissa.2 d.exponent

/-- A number that may be taken for one out of range: it is close to the greatest double, or its
exponent is not counted. -/
def Extreme (d : Decimal) : Prop :=
  Magnitude.safe < d.size ∨
    ∃ digits, d.exponent = some (true, digits) ∧ greatestExponent < digitsValue digits 0

theorem mantissa_lt (d : Decimal) : d.mantissa.1 < wordBound :=
  gathered_lt (gathered_lt (by decide) _) _

theorem mantissa_le {d : Decimal} (hfraction : AllDigits d.fraction) :
    (d.mantissa.1 : ℚ) * 10 ^ (d.mantissa.2 + d.scale) ≤ d.size := by
  have hnat := gathered_le d.whole hfraction
  have hcast : (d.mantissa.1 : ℚ) *
      10 ^ (d.start.2.length + (gathered d.start.1 d.fraction).2.length) ≤
        digitsValue (d.whole ++ d.fraction) 0 := by
    exact_mod_cast hnat
  obtain ⟨kept, hkept, _⟩ := gathered_spec d.start.1 d.fraction
  have hlength := congrArg List.length hkept
  rw [List.length_append] at hlength
  have hpower : d.mantissa.2 + d.scale =
      ((d.start.2.length + (gathered d.start.1 d.fraction).2.length : Nat) : Int) +
        (d.scale - d.fraction.length) := by
    rw [mantissa]
    omega
  have hpos : (0 : ℚ) < 10 ^ (d.scale - d.fraction.length) := by positivity
  rw [hpower, zpow_add₀ (by norm_num), ← mul_assoc, size, zpow_natCast]
  exact mul_le_mul_of_nonneg_right hcast hpos.le

theorem double?_ne_none {negative : Bool} {whole : Nat} {power : Int} (hword : whole < wordBound)
    (hsafe : (whole : ℚ) * 10 ^ power ≤ Magnitude.safe) : double? negative whole power ≠ none := by
  obtain ⟨x, hx⟩ := Option.isSome_iff_exists.mp (Magnitude.ofDecimal?_isSome hword hsafe)
  simp [double?, hx]

theorem integer?_ne_none {negative : Bool} {whole : Nat} (hword : whole < wordBound) :
    integer? negative whole ≠ none := by
  have hsafe : (whole : ℚ) * 10 ^ (0 : Int) ≤ Magnitude.safe := by
    have hle : whole ≤ 1797693134862315 * 10 ^ 293 := hword.le.trans (by decide +kernel)
    have hcast := Nat.cast_le (α := ℚ) |>.mpr hle
    rw [zpow_zero, mul_one, Magnitude.safe]
    simpa only [Nat.cast_mul, Nat.cast_pow, Nat.cast_ofNat] using hcast
  rw [integer?]
  split
  · exact Option.some_ne_none _
  · split
    · exact Option.some_ne_none _
    · exact double?_ne_none hword hsafe

/-- Only an extreme number is not read. -/
theorem extreme_of_read? {d : Decimal} {negative : Bool} (hfraction : AllDigits d.fraction)
    (h : d.read? negative = none) : d.Extreme := by
  by_contra hmild
  obtain ⟨hsafe, hcounted⟩ := not_or.mp hmild
  have hle := (mantissa_le hfraction).trans (not_lt.mp hsafe)
  rw [read?] at h
  split at h
  · exact integer?_ne_none (gathered_lt (by decide) _) h
  · cases hexponent : d.exponent with
    | none =>
      rw [scale, hexponent] at hle
      rw [hexponent, scaled?] at h
      exact double?_ne_none d.mantissa_lt (by simpa using hle) h
    | some marked =>
      obtain ⟨positive, digits⟩ := marked
      rw [scale, hexponent] at hle
      rw [hexponent, scaled?] at h
      by_cases hcount : digitsValue digits 0 ≤ greatestExponent
      · rw [if_pos hcount] at h
        cases positive with
        | true => exact double?_ne_none d.mantissa_lt hle h
        | false => exact double?_ne_none d.mantissa_lt (by simpa [sub_eq_add_neg] using hle) h
      · rw [if_neg hcount] at h
        split at h
        · rename_i hgreat
          obtain rfl : positive = true := hgreat.2
          exact hcounted ⟨digits, hexponent, not_le.mp hcount⟩
        · cases h

end Decimal

theorem SpellsDecimal.allDigits {chars rest : List Char} {d : Decimal}
    (h : SpellsDecimal chars d rest) : AllDigits d.fraction := by
  cases h with
  | mk _ hfraction _ =>
    cases hfraction with
    | absent => exact allDigits_nil
    | digits hc hdigits => exact allDigits_cons.mpr ⟨hc, hdigits⟩

end Json

end ShaderBinding
