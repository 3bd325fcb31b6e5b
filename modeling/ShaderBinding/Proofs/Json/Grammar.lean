/-! The grammar of JSON texts. Each relation holds between the characters before which something is
read, what they spell, and the characters that are left. -/

namespace ShaderBinding

namespace Json

inductive Blanks : List Char → List Char → Prop
  | none {rest : List Char} : Blanks rest rest
  | more {c : Char} {chars rest : List Char} :
      c ∈ [' ', '\t', '\n', '\r'] → Blanks chars rest → Blanks (c :: chars) rest

inductive Digits : List Char → List Char → Prop
  | one {c : Char} {rest : List Char} : c.isDigit = true → Digits (c :: rest) rest
  | more {c : Char} {chars rest : List Char} :
      c.isDigit = true → Digits chars rest → Digits (c :: chars) rest

/-- The whole part of a number. Only the number zero starts with a zero. -/
inductive Whole : List Char → List Char → Prop
  | zero {rest : List Char} : Whole ('0' :: rest) rest
  | one {c : Char} {rest : List Char} : c.isDigit = true → c ≠ '0' → Whole (c :: rest) rest
  | more {c : Char} {chars rest : List Char} :
      c.isDigit = true → c ≠ '0' → Digits chars rest → Whole (c :: chars) rest

inductive Fraction : List Char → List Char → Prop
  | absent {rest : List Char} : Fraction rest rest
  | digits {chars rest : List Char} : Digits chars rest → Fraction ('.' :: chars) rest

inductive Sign : List Char → List Char → Prop
  | absent {rest : List Char} : Sign rest rest
  | plus {rest : List Char} : Sign ('+' :: rest) rest
  | minus {rest : List Char} : Sign ('-' :: rest) rest

inductive Exponent : List Char → List Char → Prop
  | absent {rest : List Char} : Exponent rest rest
  | digits {e : Char} {chars mid rest : List Char} : e ∈ ['e', 'E'] →
      Sign chars mid → Digits mid rest → Exponent (e :: chars) rest

inductive Unsigned : List Char → List Char → Prop
  | mk {chars point mark rest : List Char} :
      Whole chars point → Fraction point mark → Exponent mark rest → Unsigned chars rest

inductive Numeral : List Char → List Char → Prop
  | positive {chars rest : List Char} : Unsigned chars rest → Numeral chars rest
  | negative {chars rest : List Char} : Unsigned chars rest → Numeral ('-' :: chars) rest

/-- What a string is made of: characters, and units of UTF-16 that are spelled by their numbers. -/
inductive Item where
  | char (char : Char)
  | unit (number : Nat)
  deriving DecidableEq, Repr

def hexDigit? (c : Char) : Option Nat :=
  if '0' ≤ c ∧ c ≤ '9' then some (c.toNat - '0'.toNat)
  else if 'a' ≤ c ∧ c ≤ 'f' then some (c.toNat - 'a'.toNat + 10)
  else if 'A' ≤ c ∧ c ≤ 'F' then some (c.toNat - 'A'.toNat + 10)
  else none

/-- The letters that stand behind a backslash, each with the character that it spells there. -/
def shortEscapes : List (Char × Char) :=
  [('"', '"'), ('\\', '\\'), ('/', '/'), ('b', '\x08'), ('f', '\x0c'), ('n', '\n'), ('r', '\r'),
   ('t', '\t')]

inductive SpellsUnit : List Char → Nat → List Char → Prop
  | mk {a b c d : Char} {i j k l : Nat} {rest : List Char} : hexDigit? a = some i →
      hexDigit? b = some j → hexDigit? c = some k → hexDigit? d = some l →
      SpellsUnit (a :: b :: c :: d :: rest) (((i * 16 + j) * 16 + k) * 16 + l) rest

/-- One item of a string. The quote, the backslash and control characters do not stand for
themselves. -/
inductive SpellsItem : List Char → Item → List Char → Prop
  | plain {c : Char} {rest : List Char} : 0x20 ≤ c.toNat → c ≠ '"' → c ≠ '\\' →
      SpellsItem (c :: rest) (.char c) rest
  | short {letter c : Char} {rest : List Char} : (letter, c) ∈ shortEscapes →
      SpellsItem ('\\' :: letter :: rest) (.char c) rest
  | unit {number : Nat} {chars rest : List Char} : SpellsUnit chars number rest →
      SpellsItem ('\\' :: 'u' :: chars) (.unit number) rest

/-- The items of a string up to its closing quote, which belongs to it. -/
inductive SpellsItems : List Char → List Item → List Char → Prop
  | close {rest : List Char} : SpellsItems ('"' :: rest) [] rest
  | more {item : Item} {items : List Item} {chars mid rest : List Char} :
      SpellsItem chars item mid → SpellsItems mid items rest →
      SpellsItems chars (item :: items) rest

/-- The units of a character in UTF-16: its number, or two surrogates beyond the first plane. -/
def utf16 (c : Char) : List Nat :=
  if c.toNat < 0x10000 then [c.toNat]
  else [0xD800 + (c.toNat - 0x10000) / 0x400, 0xDC00 + (c.toNat - 0x10000) % 0x400]

/-- The text that the items of a string stand for. Items with a surrogate that is not one of a pair
stand for no text. -/
inductive Denotes : List Item → List Char → Prop
  | nil : Denotes [] []
  | char {items : List Item} {text : List Char} (c : Char) :
      Denotes items text → Denotes (.char c :: items) (c :: text)
  | units {items : List Item} {text : List Char} (c : Char) :
      Denotes items text → Denotes ((utf16 c).map .unit ++ items) (c :: text)

/-- A value as it is written, without the blanks in it. -/
inductive Value where
  | null
  | boolean (value : Bool)
  | number (text : List Char)
  | string (items : List Item)
  | list (elements : List Value)
  | object (members : List (List Item × Value))

/-- What the rules of the grammar derive: a value, a member of an object, and what follows the
first element of a list or the first member of an object, up to the closing bracket. -/
inductive Phrase where
  | value (value : Value)
  | member (member : List Item × Value)
  | elements (elements : List Value)
  | members (members : List (List Item × Value))

inductive Spells : List Char → Phrase → List Char → Prop
  | null {rest : List Char} : Spells ('n' :: 'u' :: 'l' :: 'l' :: rest) (.value .null) rest
  | yes {rest : List Char} : Spells ('t' :: 'r' :: 'u' :: 'e' :: rest) (.value (.boolean true)) rest
  | no {rest : List Char} :
      Spells ('f' :: 'a' :: 'l' :: 's' :: 'e' :: rest) (.value (.boolean false)) rest
  | number {text chars rest : List Char} :
      text ++ rest = chars → Numeral chars rest → Spells chars (.value (.number text)) rest
  | string {items : List Item} {chars rest : List Char} :
      SpellsItems chars items rest → Spells ('"' :: chars) (.value (.string items)) rest
  | emptyList {chars rest : List Char} :
      Blanks chars (']' :: rest) → Spells ('[' :: chars) (.value (.list [])) rest
  | list {value : Value} {values : List Value} {chars start stop rest : List Char} :
      Blanks chars start → Spells start (.value value) stop → Spells stop (.elements values) rest →
      Spells ('[' :: chars) (.value (.list (value :: values))) rest
  | emptyObject {chars rest : List Char} :
      Blanks chars ('}' :: rest) → Spells ('{' :: chars) (.value (.object [])) rest
  | object {member : List Item × Value} {members : List (List Item × Value)}
      {chars start stop rest : List Char} :
      Blanks chars start → Spells start (.member member) stop → Spells stop (.members members) rest →
      Spells ('{' :: chars) (.value (.object (member :: members))) rest
  | member {key : List Item} {value : Value} {chars stop next start rest : List Char} :
      SpellsItems chars key stop → Blanks stop (':' :: next) → Blanks next start →
      Spells start (.value value) rest → Spells ('"' :: chars) (.member (key, value)) rest
  | noElements {chars rest : List Char} :
      Blanks chars (']' :: rest) → Spells chars (.elements []) rest
  | elements {value : Value} {values : List Value} {chars next start stop rest : List Char} :
      Blanks chars (',' :: next) → Blanks next start → Spells start (.value value) stop →
      Spells stop (.elements values) rest → Spells chars (.elements (value :: values)) rest
  | noMembers {chars rest : List Char} :
      Blanks chars ('}' :: rest) → Spells chars (.members []) rest
  | members {member : List Item × Value} {members : List (List Item × Value)}
      {chars next start stop rest : List Char} :
      Blanks chars (',' :: next) → Blanks next start → Spells start (.member member) stop →
      Spells stop (.members members) rest → Spells chars (.members (member :: members)) rest

theorem Spells.object_start {members : List (List Item × Value)} {chars rest : List Char}
    (h : Spells chars (.value (.object members)) rest) : ∃ begin, chars = '{' :: begin := by
  cases h with
  | emptyObject _ => exact ⟨_, rfl⟩
  | object _ _ _ => exact ⟨_, rfl⟩

theorem Spells.list_start {values : List Value} {chars rest : List Char}
    (h : Spells chars (.value (.list values)) rest) : ∃ begin, chars = '[' :: begin := by
  cases h with
  | emptyList _ => exact ⟨_, rfl⟩
  | list _ _ _ => exact ⟨_, rfl⟩

/-- A whole text: one value with blanks around it. -/
inductive Text : List Char → Value → Prop
  | mk {value : Value} {text start stop : List Char} :
      Blanks text start → Spells start (.value value) stop → Blanks stop [] → Text text value

/-- A test that all of some characters pass is passed by each of them. -/
@[elab_as_elim]
theorem of_mem_of_all {p : Char → Prop} [DecidablePred p] {chars : List Char} {c : Char}
    (hc : c ∈ chars) (h : chars.all (fun c => decide (p c)) = true) : p c :=
  of_decide_eq_true (List.all_eq_true.mp h c hc)

theorem toNat_lt_of_mem_blanks {c : Char} (hc : c ∈ [' ', '\t', '\n', '\r']) : c.toNat < 0x80 :=
  of_mem_of_all hc (by decide)

theorem toNat_lt_of_mem_marks {c : Char} (hc : c ∈ ['e', 'E']) : c.toNat < 0x80 :=
  of_mem_of_all hc (by decide)

/-! What is left is a tail of the characters before which something is read, and a proper one unless
nothing at all may be read. -/

def IsTail (rest chars : List Char) : Prop := rest <:+ chars ∧ rest.length < chars.length

section

variable {rest mid chars : List Char}

theorem IsTail.cons (c : Char) (h : rest <:+ chars) : IsTail rest (c :: chars) :=
  ⟨h.trans (List.suffix_cons c chars), Nat.lt_succ_of_le h.length_le⟩

theorem IsTail.trans_suffix (h : IsTail rest mid) (h' : mid <:+ chars) : IsTail rest chars :=
  ⟨h.1.trans h', Nat.lt_of_lt_of_le h.2 h'.length_le⟩

theorem IsTail.trans (h : IsTail rest mid) (h' : IsTail mid chars) : IsTail rest chars :=
  h.trans_suffix h'.1

theorem isTail_of_suffix (h : rest <:+ mid) (h' : IsTail mid chars) : IsTail rest chars :=
  ⟨h.trans h'.1, Nat.lt_of_le_of_lt h.length_le h'.2⟩

theorem Blanks.suffix (h : Blanks chars rest) : rest <:+ chars := by
  induction h with
  | none => exact List.suffix_refl _
  | more _ _ ih => exact ih.trans (List.suffix_cons _ _)

theorem Digits.isTail (h : Digits chars rest) : IsTail rest chars := by
  induction h with
  | one _ => exact .cons _ (List.suffix_refl _)
  | more _ _ ih => exact .cons _ ih.1

theorem Whole.isTail (h : Whole chars rest) : IsTail rest chars := by
  cases h with
  | zero => exact .cons _ (List.suffix_refl _)
  | one _ _ => exact .cons _ (List.suffix_refl _)
  | more _ _ h => exact .cons _ h.isTail.1

theorem Fraction.suffix (h : Fraction chars rest) : rest <:+ chars := by
  cases h with
  | absent => exact List.suffix_refl _
  | digits h => exact h.isTail.1.trans (List.suffix_cons _ _)

theorem Sign.suffix (h : Sign chars rest) : rest <:+ chars := by
  cases h with
  | absent => exact List.suffix_refl _
  | plus => exact List.suffix_cons _ _
  | minus => exact List.suffix_cons _ _

theorem Exponent.suffix (h : Exponent chars rest) : rest <:+ chars := by
  cases h with
  | absent => exact List.suffix_refl _
  | digits _ hsign h => exact (h.isTail.1.trans hsign.suffix).trans (List.suffix_cons _ _)

theorem Unsigned.isTail (h : Unsigned chars rest) : IsTail rest chars := by
  cases h with
  | mk hwhole hpoint hmark =>
    exact isTail_of_suffix (hmark.suffix.trans hpoint.suffix) hwhole.isTail

theorem Numeral.isTail (h : Numeral chars rest) : IsTail rest chars := by
  cases h with
  | positive h => exact h.isTail
  | negative h => exact .cons _ h.isTail.1

theorem SpellsUnit.suffix {number : Nat} (h : SpellsUnit chars number rest) : rest <:+ chars := by
  cases h with
  | @mk a b c d _ _ _ _ _ _ _ _ _ => exact ⟨[a, b, c, d], rfl⟩

theorem SpellsItem.isTail {item : Item} (h : SpellsItem chars item rest) : IsTail rest chars := by
  cases h with
  | plain _ _ _ => exact .cons _ (List.suffix_refl _)
  | short _ => exact .cons _ (List.suffix_cons _ _)
  | unit h => exact .cons _ (h.suffix.trans (List.suffix_cons _ _))

theorem SpellsItems.isTail {items : List Item} (h : SpellsItems chars items rest) :
    IsTail rest chars := by
  induction h with
  | close => exact .cons _ (List.suffix_refl _)
  | more hitem _ ih => exact ih.trans hitem.isTail

theorem Spells.isTail {phrase : Phrase} (h : Spells chars phrase rest) : IsTail rest chars := by
  induction h with
  | @null rest => exact .cons _ (List.suffix_append ['u', 'l', 'l'] rest)
  | @yes rest => exact .cons _ (List.suffix_append ['r', 'u', 'e'] rest)
  | @no rest => exact .cons _ (List.suffix_append ['a', 'l', 's', 'e'] rest)
  | number _ h => exact h.isTail
  | string h => exact .cons _ h.isTail.1
  | emptyList hblanks => exact .cons _ ((List.suffix_cons _ _).trans hblanks.suffix)
  | list hblanks _ _ ih ih' => exact .cons _ (ih'.1.trans (ih.1.trans hblanks.suffix))
  | emptyObject hblanks => exact .cons _ ((List.suffix_cons _ _).trans hblanks.suffix)
  | object hblanks _ _ ih ih' => exact .cons _ (ih'.1.trans (ih.1.trans hblanks.suffix))
  | member hkey hcolon hblanks _ ih =>
    have hvalue := ih.1.trans (hblanks.suffix.trans (List.suffix_cons ':' _))
    exact .cons _ (hvalue.trans (hcolon.suffix.trans hkey.isTail.1))
  | noElements hblanks => exact IsTail.trans_suffix (.cons _ (List.suffix_refl _)) hblanks.suffix
  | elements hcomma hblanks _ _ ih ih' =>
    have hnext := ih'.1.trans (ih.1.trans hblanks.suffix)
    exact IsTail.trans_suffix (.cons _ hnext) hcomma.suffix
  | noMembers hblanks => exact IsTail.trans_suffix (.cons _ (List.suffix_refl _)) hblanks.suffix
  | members hcomma hblanks _ _ ih ih' =>
    have hnext := ih'.1.trans (ih.1.trans hblanks.suffix)
    exact IsTail.trans_suffix (.cons _ hnext) hcomma.suffix

end

end Json

end ShaderBinding
