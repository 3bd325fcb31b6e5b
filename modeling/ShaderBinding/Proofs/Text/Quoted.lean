import Mathlib.Tactic.SplitIfs
import ShaderBinding.Text.Quoted

/-! Reading a quoted text back. Main statement: a text is got back from its quotes, and so is whatever
stands behind them, since a quote inside the text is written behind a backslash. -/

namespace ShaderBinding

namespace Quoted

/-- A point inside a quoted text. -/
inductive Position where
  | plain
  /-- Behind a backslash. -/
  | escape
  /-- Behind the letter of an escape that gives a code point. -/
  | brace
  /-- Among the digits of a code point. -/
  | digits (read : Nat)
  deriving DecidableEq, Repr

/-- The character that an escape of one letter stands for. -/
def escaped? (letter : Char) : Option Char :=
  if letter = '"' then some '"'
  else if letter = '\\' then some '\\'
  else if letter = 'n' then some '\n'
  else if letter = 'r' then some '\r'
  else if letter = 't' then some '\t'
  else if letter = '0' then some '\x00'
  else none

def hexValue? (digit : Char) : Option Nat :=
  if '0' ≤ digit ∧ digit ≤ '9' then some (digit.toNat - 48)
  else if 'a' ≤ digit ∧ digit ≤ 'f' then some (digit.toNat - 87)
  else none

def push (char : Char) : List Char × List Char → List Char × List Char
  | (read, rest) => (char :: read, rest)

/-- The characters up to the closing quote, and those behind it. -/
def decode : Position → List Char → Option (List Char × List Char)
  | _, [] => none
  | .plain, char :: rest =>
    if char = '"' then some ([], rest)
    else if char = '\\' then decode .escape rest
    else (decode .plain rest).map (push char)
  | .escape, char :: rest =>
    if char = 'u' then decode .brace rest
    else (escaped? char).bind fun meant => (decode .plain rest).map (push meant)
  | .brace, char :: rest => if char = '\x7b' then decode (.digits 0) rest else none
  | .digits read, char :: rest =>
    if char = '\x7d' then (decode .plain rest).map (push (Char.ofNat read))
    else (hexValue? char).bind fun value => decode (.digits (read * 16 + value)) rest

theorem decode_shown {char : Char} (hquote : char ≠ '"') (hslash : char ≠ '\\') (rest : List Char) :
    decode .plain (char :: rest) = (decode .plain rest).map (push char) := by
  rw [decode, if_neg hquote, if_neg hslash]

theorem decode_letter (letter : Char) {char : Char} (hletter : letter ≠ 'u')
    (hchar : escaped? letter = some char) (rest : List Char) :
    decode .plain ('\\' :: letter :: rest) = (decode .plain rest).map (push char) := by
  rw [decode, if_neg (by decide), if_pos rfl, decode, if_neg hletter, hchar, Option.bind_some]

/-! Code points. -/

theorem digitChar_ne_brace {value : Nat} (h : value < 16) : Nat.digitChar value ≠ '\x7d' := by
  decide +revert

theorem hexValue?_digitChar {value : Nat} (h : value < 16) :
    hexValue? (Nat.digitChar value) = some value := by
  decide +revert

theorem decode_digit {value : Nat} (h : value < 16) (read : Nat) (rest : List Char) :
    decode (.digits read) (Nat.digitChar value :: rest) = decode (.digits (read * 16 + value)) rest := by
  rw [decode, if_neg (digitChar_ne_brace h), hexValue?_digitChar h, Option.bind_some]

theorem decode_hex (n : Nat) (rest : List Char) :
    decode (.digits 0) (hex n ++ rest) = decode (.digits n) rest := by
  induction n using Nat.strongRecOn generalizing rest with
  | ind n ih =>
    rw [hex, Nat.toDigits_eq_if (by decide)]
    split
    · rename_i hlt
      rw [List.singleton_append, decode_digit hlt, Nat.zero_mul, Nat.zero_add]
    · have hfront := ih (n / 16) (by omega) (Nat.digitChar (n % 16) :: rest)
      have hwhole : n / 16 * 16 + n % 16 = n := Nat.div_add_mod' n 16
      rw [hex] at hfront
      rw [List.append_assoc, List.singleton_append, hfront, decode_digit (Nat.mod_lt n (by decide)),
        hwhole]

theorem decode_codePoint (char : Char) (rest : List Char) :
    decode .plain (['\\', 'u', '\x7b'] ++ hex char.toNat ++ ['\x7d'] ++ rest) =
      (decode .plain rest).map (push char) := by
  have hdigits : ['\\', 'u', '\x7b'] ++ hex char.toNat ++ ['\x7d'] ++ rest =
      '\\' :: 'u' :: '\x7b' :: (hex char.toNat ++ '\x7d' :: rest) := by simp
  rw [hdigits, decode, if_neg (by decide), if_pos rfl, decode, if_pos rfl, decode, if_pos rfl,
    decode_hex, decode, if_pos rfl, Char.ofNat_toNat]

/-- An escape is read as the character that it is written for. -/
theorem decode_escape (char : Char) (rest : List Char) :
    decode .plain (escape char ++ rest) = (decode .plain rest).map (push char) := by
  unfold escape
  split_ifs with hquote hslash hbreak hreturn htab hnul hhidden
  · exact decode_letter '"' (by decide) (by rw [hquote]; rfl) rest
  · exact decode_letter '\\' (by decide) (by rw [hslash]; rfl) rest
  · exact decode_letter 'n' (by decide) (by rw [hbreak]; rfl) rest
  · exact decode_letter 'r' (by decide) (by rw [hreturn]; rfl) rest
  · exact decode_letter 't' (by decide) (by rw [htab]; rfl) rest
  · exact decode_letter '0' (by decide) (by rw [hnul]; rfl) rest
  · exact decode_codePoint char rest
  · exact decode_shown hquote hslash rest

theorem decode_flatMap_escape (chars rest : List Char) :
    decode .plain (chars.flatMap escape ++ '"' :: rest) = some (chars, rest) := by
  induction chars with
  | nil => rw [List.flatMap_nil, List.nil_append, decode, if_pos rfl]
  | cons char chars ih =>
    rw [List.flatMap_cons, List.append_assoc, decode_escape, ih, Option.map_some, push]

end Quoted

/-- The text in the quotes with which a text begins, and what stands behind them. -/
def unquoted? (text : String) : Option (String × String) :=
  match text.toList with
  | '"' :: chars =>
    (Quoted.decode .plain chars).map fun (read, rest) => (String.ofList read, String.ofList rest)
  | _ => none

theorem unquoted?_quoted (text rest : String) :
    unquoted? (quoted text ++ rest) = some (text, rest) := by
  have hchars : (quoted text ++ rest).toList =
      '"' :: (text.toList.flatMap Quoted.escape ++ '"' :: rest.toList) := by
    rw [String.toList_append, quoted, String.toList_ofList]
    simp [Quoted.encode]
  rw [unquoted?, hchars]
  simp [Quoted.decode_flatMap_escape]

/-- No text behind a quoted text can be taken for a part of it. -/
theorem quoted_append_inj {text text' rest rest' : String}
    (h : quoted text ++ rest = quoted text' ++ rest') : text = text' ∧ rest = rest' := by
  have hread := congrArg unquoted? h
  rw [unquoted?_quoted, unquoted?_quoted] at hread
  exact Prod.mk.inj (Option.some.inj hread)

example : unquoted? "\"a\\\"\\u\x7b301\x7d\" not found" = some ("a\"\u0301", " not found") := by
  decide +kernel

end ShaderBinding
