import ShaderBinding.Proofs.Json.Grammar

/-! What some characters spell does not depend on what stands behind them: the characters that are
left may be replaced by any others. -/

namespace ShaderBinding

namespace Json

/-- A relation of the grammar that says nothing about the characters that are left. -/
def Local (relation : List Char → List Char → Prop) : Prop :=
  ∀ {chars rest : List Char}, relation chars rest →
    ∃ front, chars = front ++ rest ∧ ∀ other, relation (front ++ other) other

theorem local_blanks : Local Blanks := by
  intro chars rest h
  induction h with
  | none => exact ⟨[], rfl, fun _ => .none⟩
  | @more c _ _ hc _ ih =>
    obtain ⟨front, rfl, hother⟩ := ih
    exact ⟨c :: front, rfl, fun other => .more hc (hother other)⟩

theorem local_digits : Local Digits := by
  intro chars rest h
  induction h with
  | @one c _ hc => exact ⟨[c], rfl, fun _ => .one hc⟩
  | @more c _ _ hc _ ih =>
    obtain ⟨front, rfl, hother⟩ := ih
    exact ⟨c :: front, rfl, fun other => .more hc (hother other)⟩

theorem local_whole : Local Whole := by
  intro chars rest h
  cases h with
  | zero => exact ⟨['0'], rfl, fun _ => .zero⟩
  | @one c _ hc hzero => exact ⟨[c], rfl, fun _ => .one hc hzero⟩
  | @more c _ _ hc hzero hdigits =>
    obtain ⟨front, rfl, hother⟩ := local_digits hdigits
    exact ⟨c :: front, rfl, fun other => .more hc hzero (hother other)⟩

theorem local_fraction : Local Fraction := by
  intro chars rest h
  cases h with
  | absent => exact ⟨[], rfl, fun _ => .absent⟩
  | digits hdigits =>
    obtain ⟨front, rfl, hother⟩ := local_digits hdigits
    exact ⟨'.' :: front, rfl, fun other => .digits (hother other)⟩

theorem local_sign : Local Sign := by
  intro chars rest h
  cases h with
  | absent => exact ⟨[], rfl, fun _ => .absent⟩
  | plus => exact ⟨['+'], rfl, fun _ => .plus⟩
  | minus => exact ⟨['-'], rfl, fun _ => .minus⟩

theorem local_exponent : Local Exponent := by
  intro chars rest h
  cases h with
  | absent => exact ⟨[], rfl, fun _ => .absent⟩
  | @digits e _ _ _ he hsign hdigits =>
    obtain ⟨digits, rfl, hdigits'⟩ := local_digits hdigits
    obtain ⟨sign, rfl, hsign'⟩ := local_sign hsign
    refine ⟨e :: (sign ++ digits), by simp, fun other => ?_⟩
    rw [List.cons_append, List.append_assoc]
    exact .digits he (hsign' _) (hdigits' other)

theorem local_unsigned : Local Unsigned := by
  intro chars rest h
  cases h with
  | mk hwhole hpoint hmark =>
    obtain ⟨mark, rfl, hmark'⟩ := local_exponent hmark
    obtain ⟨point, rfl, hpoint'⟩ := local_fraction hpoint
    obtain ⟨whole, rfl, hwhole'⟩ := local_whole hwhole
    refine ⟨whole ++ (point ++ mark), by simp, fun other => ?_⟩
    rw [List.append_assoc, List.append_assoc]
    exact .mk (hwhole' _) (hpoint' _) (hmark' other)

theorem local_numeral : Local Numeral := by
  intro chars rest h
  cases h with
  | positive h =>
    obtain ⟨front, rfl, hother⟩ := local_unsigned h
    exact ⟨front, rfl, fun other => .positive (hother other)⟩
  | negative h =>
    obtain ⟨front, rfl, hother⟩ := local_unsigned h
    exact ⟨'-' :: front, rfl, fun other => .negative (hother other)⟩

theorem local_spellsItem (item : Item) : Local fun chars rest => SpellsItem chars item rest := by
  intro chars rest h
  cases h with
  | @plain c _ hcontrol hquote hslash =>
    exact ⟨[c], rfl, fun _ => .plain hcontrol hquote hslash⟩
  | @short letter _ _ hshort => exact ⟨['\\', letter], rfl, fun _ => .short hshort⟩
  | unit h =>
    cases h with
    | @mk a b c d _ _ _ _ _ ha hb hc hd =>
      exact ⟨['\\', 'u', a, b, c, d], rfl, fun _ => .unit (.mk ha hb hc hd)⟩

theorem local_spellsItems (items : List Item) :
    Local fun chars rest => SpellsItems chars items rest := by
  intro chars rest h
  induction h with
  | close => exact ⟨['"'], rfl, fun _ => .close⟩
  | more hitem _ ih =>
    obtain ⟨back, rfl, hback⟩ := ih
    obtain ⟨front, rfl, hfront⟩ := local_spellsItem _ hitem
    refine ⟨front ++ back, by simp, fun other => ?_⟩
    rw [List.append_assoc]
    exact .more (hfront _) (hback other)

theorem local_spells (phrase : Phrase) : Local fun chars rest => Spells chars phrase rest := by
  intro chars rest h
  induction h with
  | null => exact ⟨['n', 'u', 'l', 'l'], rfl, fun _ => .null⟩
  | yes => exact ⟨['t', 'r', 'u', 'e'], rfl, fun _ => .yes⟩
  | no => exact ⟨['f', 'a', 'l', 's', 'e'], rfl, fun _ => .no⟩
  | @number text chars rest htext h =>
    obtain ⟨front, hfront, hother⟩ := local_numeral h
    obtain rfl : text = front := List.append_cancel_right (htext.trans hfront)
    exact ⟨text, hfront, fun other => .number rfl (hother other)⟩
  | string h =>
    obtain ⟨front, rfl, hother⟩ := local_spellsItems _ h
    exact ⟨'"' :: front, rfl, fun other => .string (hother other)⟩
  | emptyList hblanks =>
    obtain ⟨blanks, rfl, hblanks'⟩ := local_blanks hblanks
    refine ⟨'[' :: (blanks ++ [']']), by simp, fun other => ?_⟩
    rw [List.cons_append, List.append_assoc]
    exact .emptyList (hblanks' _)
  | list hblanks _ _ ih ih' =>
    obtain ⟨last, rfl, hlast⟩ := ih'
    obtain ⟨first, rfl, hfirst⟩ := ih
    obtain ⟨blanks, rfl, hblanks'⟩ := local_blanks hblanks
    refine ⟨'[' :: (blanks ++ (first ++ last)), by simp, fun other => ?_⟩
    rw [List.cons_append, List.append_assoc, List.append_assoc]
    exact .list (hblanks' _) (hfirst _) (hlast other)
  | emptyObject hblanks =>
    obtain ⟨blanks, rfl, hblanks'⟩ := local_blanks hblanks
    refine ⟨'{' :: (blanks ++ ['}']), by simp, fun other => ?_⟩
    rw [List.cons_append, List.append_assoc]
    exact .emptyObject (hblanks' _)
  | object hblanks _ _ ih ih' =>
    obtain ⟨last, rfl, hlast⟩ := ih'
    obtain ⟨first, rfl, hfirst⟩ := ih
    obtain ⟨blanks, rfl, hblanks'⟩ := local_blanks hblanks
    refine ⟨'{' :: (blanks ++ (first ++ last)), by simp, fun other => ?_⟩
    rw [List.cons_append, List.append_assoc, List.append_assoc]
    exact .object (hblanks' _) (hfirst _) (hlast other)
  | member hkey hcolon hblanks _ ih =>
    obtain ⟨value, rfl, hvalue⟩ := ih
    obtain ⟨blanks, rfl, hblanks'⟩ := local_blanks hblanks
    obtain ⟨colon, rfl, hcolon'⟩ := local_blanks hcolon
    obtain ⟨key, rfl, hkey'⟩ := local_spellsItems _ hkey
    refine ⟨'"' :: (key ++ (colon ++ ':' :: (blanks ++ value))), by simp, fun other => ?_⟩
    simp only [List.cons_append, List.append_assoc]
    exact .member (hkey' _) (hcolon' _) (hblanks' _) (hvalue other)
  | noElements hblanks =>
    obtain ⟨blanks, rfl, hblanks'⟩ := local_blanks hblanks
    refine ⟨blanks ++ [']'], by simp, fun other => ?_⟩
    rw [List.append_assoc]
    exact .noElements (hblanks' _)
  | elements hcomma hblanks _ _ ih ih' =>
    obtain ⟨last, rfl, hlast⟩ := ih'
    obtain ⟨first, rfl, hfirst⟩ := ih
    obtain ⟨blanks, rfl, hblanks'⟩ := local_blanks hblanks
    obtain ⟨comma, rfl, hcomma'⟩ := local_blanks hcomma
    refine ⟨comma ++ ',' :: (blanks ++ (first ++ last)), by simp, fun other => ?_⟩
    simp only [List.cons_append, List.append_assoc]
    exact .elements (hcomma' _) (hblanks' _) (hfirst _) (hlast other)
  | noMembers hblanks =>
    obtain ⟨blanks, rfl, hblanks'⟩ := local_blanks hblanks
    refine ⟨blanks ++ ['}'], by simp, fun other => ?_⟩
    rw [List.append_assoc]
    exact .noMembers (hblanks' _)
  | members hcomma hblanks _ _ ih ih' =>
    obtain ⟨last, rfl, hlast⟩ := ih'
    obtain ⟨first, rfl, hfirst⟩ := ih
    obtain ⟨blanks, rfl, hblanks'⟩ := local_blanks hblanks
    obtain ⟨comma, rfl, hcomma'⟩ := local_blanks hcomma
    refine ⟨comma ++ ',' :: (blanks ++ (first ++ last)), by simp, fun other => ?_⟩
    simp only [List.cons_append, List.append_assoc]
    exact .members (hcomma' _) (hblanks' _) (hfirst _) (hlast other)

end Json

end ShaderBinding
