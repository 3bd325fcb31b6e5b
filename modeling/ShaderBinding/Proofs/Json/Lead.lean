import ShaderBinding.Json.String
import ShaderBinding.Json.Number
import ShaderBinding.Proofs.Json.Grammar
import ShaderBinding.Proofs.Text.Utf8

/-! The first byte of a character. Readers look at single bytes; the first byte of a character tells
whether it is one of those that the syntax knows, all of which are among the first 128. -/

namespace ShaderBinding

def lead (c : Char) : UInt8 := (String.utf8EncodeChar c).headD 0

/-- The first byte of a text, none when it is empty. -/
def firstByte? (chars : List Char) : Option UInt8 := (Utf8.encode chars).head?

@[simp] theorem firstByte?_nil : firstByte? [] = none := rfl

theorem lead_of_lt {c : Char} (h : c.toNat < 0x80) : lead c = byte c := by
  rw [lead, Utf8.encodeChar_of_lt h]
  rfl

theorem le_lead {c : Char} (h : 0x80 ≤ c.toNat) : 0x80 ≤ lead c := by
  apply Utf8.le_of_mem_encodeChar h
  rw [lead]
  cases hbytes : String.utf8EncodeChar c with
  | nil => exact absurd hbytes String.utf8EncodeChar_ne_nil
  | cons b rest => simp

@[simp] theorem firstByte?_cons (c : Char) (rest : List Char) :
    firstByte? (c :: rest) = some (lead c) := by
  rw [firstByte?, Utf8.encode_cons, lead]
  cases hbytes : String.utf8EncodeChar c with
  | nil => exact absurd hbytes String.utf8EncodeChar_ne_nil
  | cons b rest => rfl

theorem encode_cons_of_lt {c : Char} (h : c.toNat < 0x80) (rest : List Char) :
    Utf8.encode (c :: rest) = byte c :: Utf8.encode rest := by
  rw [Utf8.encode_cons, Utf8.encodeChar_of_lt h]
  rfl

theorem toNat_byte {c : Char} (h : c.toNat < 0x80) : (byte c).toNat = c.toNat := by
  rw [byte, Nat.toUInt8_eq, UInt8.toNat_ofNat']
  omega

theorem ne_byte_of_le {b : UInt8} (hb : 0x80 ≤ b) {c : Char} (hc : c.toNat < 0x80) :
    b ≠ byte c := by
  rintro rfl
  rw [UInt8.le_iff_toNat_le, toNat_byte hc] at hb
  exact absurd hb (Nat.not_le.mpr hc)

/-- The characters of the first 128 are known by their first bytes. -/
theorem lead_eq_byte_iff {a c : Char} (ha : a.toNat < 0x80) : lead c = byte a ↔ c = a := by
  constructor
  · intro h
    by_cases hc : c.toNat < 0x80
    · have hnat := congrArg UInt8.toNat h
      rw [lead_of_lt hc, toNat_byte hc, toNat_byte ha] at hnat
      exact Char.toNat_inj.mp hnat
    · exact absurd h (ne_byte_of_le (le_lead (Nat.le_of_not_lt hc)) ha)
  · rintro rfl
    exact lead_of_lt ha

theorem toNat_lead {c : Char} (h : c.toNat < 0x80) : (lead c).toNat = c.toNat := by
  rw [lead_of_lt h, toNat_byte h]

theorem not_le_byte_of_le {b : UInt8} (hb : 0x80 ≤ b) {c : Char} (hc : c.toNat < 0x80) :
    ¬ b ≤ byte c := by
  rw [UInt8.le_iff_toNat_le] at hb ⊢
  have h80 : (0x80 : UInt8).toNat = 0x80 := rfl
  rw [toNat_byte hc]
  omega

theorem lead_le_byte_iff {a c : Char} (ha : a.toNat < 0x80) : lead c ≤ byte a ↔ c ≤ a := by
  by_cases hc : c.toNat < 0x80
  · rw [UInt8.le_iff_toNat_le, toNat_lead hc, toNat_byte ha]
    exact Iff.rfl
  · have hle := Nat.le_of_not_lt hc
    refine iff_of_false (not_le_byte_of_le (le_lead hle) ha) ?_
    intro h
    have hnat : c.toNat ≤ a.toNat := h
    omega

theorem byte_le_lead_iff {a c : Char} (ha : a.toNat < 0x80) : byte a ≤ lead c ↔ a ≤ c := by
  by_cases hc : c.toNat < 0x80
  · rw [UInt8.le_iff_toNat_le, toNat_lead hc, toNat_byte ha]
    exact Iff.rfl
  · have hle := Nat.le_of_not_lt hc
    refine iff_of_true ?_ ?_
    · exact (UInt8.le_total _ _).resolve_right (not_le_byte_of_le (le_lead hle) ha)
    · have hnat : a.toNat ≤ c.toNat := by omega
      exact hnat

theorem lead_beq_byte {a c : Char} (ha : a.toNat < 0x80) : (lead c == byte a) = decide (c = a) :=
  decide_eq_decide.mpr (lead_eq_byte_iff ha)

theorem isDigit_of_le {c : Char} (h : 0x80 ≤ c.toNat) : c.isDigit = false := by
  have hnine : '9'.val.toNat = 57 := rfl
  have hval : c.val.toNat = c.toNat := rfl
  simp only [Char.isDigit, Bool.and_eq_false_iff, decide_eq_false_iff_not, ge_iff_le,
    UInt32.le_iff_toNat_le]
  omega

theorem isDigit_lead (c : Char) : isDigit (lead c) = c.isDigit := by
  simp (disch := decide) only [isDigit, Char.isDigit, byte_le_lead_iff, lead_le_byte_iff]
  rfl

theorem isDigit_of_byte_le {b : UInt8} (h : 0x80 ≤ b) : isDigit b = false := by
  have hnot := not_le_byte_of_le h (by decide : '9'.toNat < 0x80)
  simp only [isDigit, hnot, decide_false, Bool.and_false]

theorem beq_byte_of_le {b : UInt8} (hb : 0x80 ≤ b) {c : Char} (hc : c.toNat < 0x80) :
    (b == byte c) = false :=
  beq_eq_false_iff_ne.mpr (ne_byte_of_le hb hc)

theorem isBlank_of_byte_le {b : UInt8} (h : 0x80 ≤ b) : isBlank b = false := by
  simp (disch := decide) only [isBlank, beq_byte_of_le h, Bool.or_self]

theorem isBlank_lead (c : Char) : isBlank (lead c) = decide (c ∈ [' ', '\t', '\n', '\r']) := by
  simp (disch := decide) only [isBlank, lead_beq_byte, List.mem_cons, List.not_mem_nil, or_false,
    Bool.decide_or, Bool.or_assoc, Bool.or_left_comm]

theorem startsExponent_lead (c : Char) : startsExponent (lead c) = decide (c ∈ ['e', 'E']) := by
  simp (disch := decide) only [startsExponent, lead_beq_byte, List.mem_cons, List.not_mem_nil,
    or_false, Bool.decide_or]

theorem startsExponent_of_byte_le {b : UInt8} (h : 0x80 ≤ b) : startsExponent b = false := by
  simp (disch := decide) only [startsExponent, beq_byte_of_le h, Bool.or_self]

theorem isControl_of_byte_le {b : UInt8} (h : 0x80 ≤ b) : isControl b = false := by
  rw [isControl, decide_eq_false_iff_not, UInt8.lt_iff_toNat_lt]
  have hle : 0x80 ≤ b.toNat := UInt8.le_iff_toNat_le.mp h
  have h20 : (0x20 : UInt8).toNat = 0x20 := rfl
  omega

theorem isControl_lead (c : Char) : isControl (lead c) = decide (c.toNat < 0x20) := by
  rw [isControl, decide_eq_decide, UInt8.lt_iff_toNat_lt]
  have h20 : (0x20 : UInt8).toNat = 0x20 := rfl
  by_cases hc : c.toNat < 0x80
  · rw [toNat_lead hc, h20]
  · have hle := UInt8.le_iff_toNat_le.mp (le_lead (Nat.le_of_not_lt hc))
    have h80 : (0x80 : UInt8).toNat = 0x80 := rfl
    omega

theorem hexValue?_of_byte_le {b : UInt8} (h : 0x80 ≤ b) : hexValue? b = none := by
  have hnot := fun a : Char => not_le_byte_of_le (c := a) h
  simp (disch := decide) only [hexValue?, isDigit_of_byte_le h, hnot, decide_false, Bool.and_false,
    Bool.false_eq_true, if_false]

theorem hexValue?_lead (c : Char) : hexValue? (lead c) = Json.hexDigit? c := by
  by_cases hc : c.toNat < 0x80
  · have hval : ∀ a b : Char, a ≤ b ↔ a.toNat ≤ b.toNat := fun _ _ => Iff.rfl
    have ha : 'a'.toNat = 97 := rfl
    have hA : 'A'.toNat = 65 := rfl
    simp (disch := decide) only [hexValue?, isDigit, byte_le_lead_iff, lead_le_byte_iff, digitValue,
      toNat_lead hc, Bool.and_eq_true, decide_eq_true_eq, Json.hexDigit?]
    by_cases h : '0' ≤ c ∧ c ≤ '9'
    · rw [if_pos h, if_pos h]
      rfl
    · rw [if_neg h, if_neg h]
      by_cases h' : 'a' ≤ c ∧ c ≤ 'f'
      · rw [if_pos h', if_pos h']
        have hle := (hval _ _).mp h'.1
        congr 1
        omega
      · rw [if_neg h', if_neg h']
        by_cases h'' : 'A' ≤ c ∧ c ≤ 'F'
        · rw [if_pos h'', if_pos h'']
          have hle := (hval _ _).mp h''.1
          congr 1
          omega
        · rw [if_neg h'', if_neg h'']
  · have hle := Nat.le_of_not_lt hc
    rw [hexValue?_of_byte_le (le_lead hle)]
    have hnone : ∀ a b : Char, b.toNat < 0x80 → ¬ (a ≤ c ∧ c ≤ b) := by
      intro a b hb ⟨_, hcb⟩
      have hnat : c.toNat ≤ b.toNat := hcb
      omega
    simp (disch := decide) only [Json.hexDigit?, hnone, if_false]

theorem simpleEscape?_of_byte_le {b : UInt8} (h : 0x80 ≤ b) : simpleEscape? b = none := by
  have hne := fun a : Char => ne_byte_of_le (c := a) h
  simp (disch := decide) only [simpleEscape?, hne, if_false]

theorem simpleEscape?_lead (c : Char) : simpleEscape? (lead c) = Json.shortEscapes.lookup c := by
  have hlookup : ∀ (letter char : Char) (escapes : List (Char × Char)),
      ((letter, char) :: escapes).lookup c =
        if c = letter then some char else escapes.lookup c := by
    intro letter char escapes
    rw [List.lookup_cons]
    by_cases h : c = letter
    · rw [if_pos h, beq_iff_eq.mpr h]
    · rw [if_neg h, beq_eq_false_iff_ne.mpr h]
  simp (disch := decide) only [simpleEscape?, lead_eq_byte_iff, Json.shortEscapes, hlookup,
    List.lookup_nil]

end ShaderBinding
