import ShaderBinding.Text.Utf8

/-! Texts as bytes. Only characters of the first 128 have bytes below 128. Decoding and encoding
undo each other. -/

namespace ShaderBinding

namespace Utf8

@[simp] theorem encode_nil : encode [] = [] := rfl

theorem encode_cons (c : Char) (rest : List Char) :
    encode (c :: rest) = String.utf8EncodeChar c ++ encode rest := rfl

theorem encode_append (front back : List Char) :
    encode (front ++ back) = encode front ++ encode back := List.flatMap_append

theorem encodeChar_of_lt {c : Char} (h : c.toNat < 0x80) :
    String.utf8EncodeChar c = [c.toNat.toUInt8] := by
  have hle : c.val.toNat ≤ 127 := Nat.le_of_lt_succ h
  unfold String.utf8EncodeChar
  exact if_pos hle

theorem le_of_mem_encodeChar {c : Char} (h : 0x80 ≤ c.toNat) {b : UInt8}
    (hb : b ∈ String.utf8EncodeChar c) : 0x80 ≤ b := by
  have hge : ¬ c.val.toNat ≤ 127 := by
    have : c.val.toNat = c.toNat := rfl
    omega
  have hlt := c.val.toNat_lt
  rw [UInt8.le_iff_toNat_le]
  simp only [String.utf8EncodeChar, hge, if_false] at hb
  split at hb
  · simp only [List.mem_cons, List.not_mem_nil, or_false] at hb
    rcases hb with rfl | rfl <;> simp <;> omega
  · split at hb
    · simp only [List.mem_cons, List.not_mem_nil, or_false] at hb
      rcases hb with rfl | rfl | rfl <;> simp <;> omega
    · simp only [List.mem_cons, List.not_mem_nil, or_false] at hb
      rcases hb with rfl | rfl | rfl | rfl <;> simp <;> omega

theorem push_toNat (c : Char) (decoded : List Char × List UInt8) :
    push c.toNat decoded = (c :: decoded.1, decoded.2) := by
  rw [push, Char.ofNat_toNat]

theorem isContinuation_iff {b : UInt8} :
    isContinuation b = true ↔ 0x80 ≤ b.toNat ∧ b.toNat < 0xC0 := by
  simp [isContinuation, UInt8.le_iff_toNat_le, UInt8.lt_iff_toNat_lt]

section

variable {a b c d : UInt8} {rest : List UInt8} {n : Nat}

theorem decode_one (ha : a.toNat < 0x80) : decode (a :: rest) = push a.toNat (decode rest) := by
  have h : a < 0x80 := UInt8.lt_iff_toNat_lt.mpr ha
  rw [decode.eq_def]
  exact if_pos h

theorem decode_two (ha : 0xC0 ≤ a.toNat ∧ a.toNat < 0xE0) (hb : isContinuation b = true)
    (hn : (a.toNat - 0xC0) * 64 + (b.toNat - 0x80) = n) (hle : 0x80 ≤ n) :
    decode (a :: b :: rest) = push n (decode rest) := by
  have h1 : ¬ a < 0x80 := by rw [UInt8.lt_iff_toNat_lt]; simp; omega
  have h2 : (0xC0 ≤ a && a < 0xE0) = true := by
    simpa [UInt8.le_iff_toNat_le, UInt8.lt_iff_toNat_lt] using ha
  have hcode : codePoint 0xC0 a [b] = n := hn
  rw [decode, if_neg h1, if_pos h2]
  simp [hcode, hb, hle]

theorem decode_three (ha : 0xE0 ≤ a.toNat ∧ a.toNat < 0xF0) (hb : isContinuation b = true)
    (hc : isContinuation c = true)
    (hn : ((a.toNat - 0xE0) * 64 + (b.toNat - 0x80)) * 64 + (c.toNat - 0x80) = n)
    (hle : 0x800 ≤ n) (hvalid : n.isValidChar) :
    decode (a :: b :: c :: rest) = push n (decode rest) := by
  have h1 : ¬ a < 0x80 := by rw [UInt8.lt_iff_toNat_lt]; simp; omega
  have h2 : ¬ (0xC0 ≤ a && a < 0xE0) = true := by
    simp [UInt8.le_iff_toNat_le, UInt8.lt_iff_toNat_lt]; omega
  have h3 : (0xE0 ≤ a && a < 0xF0) = true := by
    simpa [UInt8.le_iff_toNat_le, UInt8.lt_iff_toNat_lt] using ha
  have hcode : codePoint 0xE0 a [b, c] = n := hn
  rw [decode, if_neg h1, if_neg h2, if_pos h3]
  simp [hcode, hb, hc, hle, hvalid]

theorem decode_four (ha : 0xF0 ≤ a.toNat ∧ a.toNat < 0xF8) (hb : isContinuation b = true)
    (hc : isContinuation c = true) (hd : isContinuation d = true)
    (hn : (((a.toNat - 0xF0) * 64 + (b.toNat - 0x80)) * 64 + (c.toNat - 0x80)) * 64 +
      (d.toNat - 0x80) = n) (hle : 0x10000 ≤ n) (hvalid : n.isValidChar) :
    decode (a :: b :: c :: d :: rest) = push n (decode rest) := by
  have h1 : ¬ a < 0x80 := by rw [UInt8.lt_iff_toNat_lt]; simp; omega
  have h2 : ¬ (0xC0 ≤ a && a < 0xE0) = true := by
    simp [UInt8.le_iff_toNat_le, UInt8.lt_iff_toNat_lt]; omega
  have h3 : ¬ (0xE0 ≤ a && a < 0xF0) = true := by
    simp [UInt8.le_iff_toNat_le, UInt8.lt_iff_toNat_lt]; omega
  have h4 : (0xF0 ≤ a && a < 0xF8) = true := by
    simpa [UInt8.le_iff_toNat_le, UInt8.lt_iff_toNat_lt] using ha
  have hcode : codePoint 0xF0 a [b, c, d] = n := hn
  rw [decode, if_neg h1, if_neg h2, if_neg h3, if_pos h4]
  simp [hcode, hb, hc, hd, hle, hvalid]

end

theorem decode_encodeChar (c : Char) (rest : List UInt8) :
    decode (String.utf8EncodeChar c ++ rest) = push c.toNat (decode rest) := by
  have hvalid : c.toNat.isValidChar := c.valid
  have hrange : c.toNat < 0x110000 := by
    rcases hvalid with h | h <;> omega
  have hval : c.val.toNat = c.toNat := rfl
  simp only [String.utf8EncodeChar, hval]
  generalize c.toNat = n at hvalid hrange
  have hbyte : ∀ k, k < 256 → (UInt8.ofNat k).toNat = k := by
    intro k hk
    simpa using hk
  split
  · rw [List.singleton_append, decode_one (by rw [hbyte] <;> omega), hbyte n (by omega)]
  · split
    · refine decode_two ?_ ?_ ?_ (by omega) <;>
        simp only [isContinuation_iff, hbyte _ (show n / 64 % 32 + 192 < 256 by omega),
          hbyte _ (show n % 64 + 128 < 256 by omega)] <;> omega
    · split
      · refine decode_three ?_ ?_ ?_ ?_ (by omega) hvalid <;>
          simp only [isContinuation_iff, hbyte _ (show n / 4096 % 16 + 224 < 256 by omega),
            hbyte _ (show n / 64 % 64 + 128 < 256 by omega),
            hbyte _ (show n % 64 + 128 < 256 by omega)] <;> omega
      · refine decode_four ?_ ?_ ?_ ?_ ?_ (by omega) hvalid <;>
          simp only [isContinuation_iff, hbyte _ (show n / 262144 % 8 + 240 < 256 by omega),
            hbyte _ (show n / 4096 % 64 + 128 < 256 by omega),
            hbyte _ (show n / 64 % 64 + 128 < 256 by omega),
            hbyte _ (show n % 64 + 128 < 256 by omega)] <;> omega

theorem decode_encode (chars : List Char) : decode (encode chars) = (chars, []) := by
  induction chars with
  | nil => simp [decode]
  | cons c rest ih => rw [encode_cons, decode_encodeChar, ih, push_toNat]

/-! The bytes of what has been decoded. -/

section

variable {a b c d : UInt8} {n : Nat}

theorem ofNat_of_eq {k : Nat} (h : k = a.toNat) : UInt8.ofNat k = a := by
  rw [h, UInt8.ofNat_toNat]

theorem val_ofNat (hvalid : n.isValidChar) : (Char.ofNat n).val.toNat = n := by
  rw [Char.ofNat, dif_pos hvalid]
  rfl

theorem encodeChar_one (ha : a.toNat < 0x80) : String.utf8EncodeChar (Char.ofNat a.toNat) = [a] := by
  have hval := val_ofNat (n := a.toNat) (.inl (by omega))
  simp only [String.utf8EncodeChar, hval]
  rw [if_pos (by omega), ofNat_of_eq rfl]

theorem encodeChar_two (ha : 0xC0 ≤ a.toNat ∧ a.toNat < 0xE0) (hb : isContinuation b = true)
    (hn : (a.toNat - 0xC0) * 64 + (b.toNat - 0x80) = n) (hle : 0x80 ≤ n) :
    String.utf8EncodeChar (Char.ofNat n) = [a, b] := by
  rw [isContinuation_iff] at hb
  have hval := val_ofNat (n := n) (.inl (by omega))
  have hfirst : n / 64 % 32 + 192 = a.toNat := by omega
  have hsecond : n % 64 + 128 = b.toNat := by omega
  simp only [String.utf8EncodeChar, hval]
  rw [if_neg (by omega), if_pos (by omega), ofNat_of_eq hfirst, ofNat_of_eq hsecond]

theorem encodeChar_three (ha : 0xE0 ≤ a.toNat ∧ a.toNat < 0xF0) (hb : isContinuation b = true)
    (hc : isContinuation c = true)
    (hn : ((a.toNat - 0xE0) * 64 + (b.toNat - 0x80)) * 64 + (c.toNat - 0x80) = n)
    (hle : 0x800 ≤ n) (hvalid : n.isValidChar) :
    String.utf8EncodeChar (Char.ofNat n) = [a, b, c] := by
  rw [isContinuation_iff] at hb hc
  have hfirst : n / 4096 % 16 + 224 = a.toNat := by omega
  have hsecond : n / 64 % 64 + 128 = b.toNat := by omega
  have hthird : n % 64 + 128 = c.toNat := by omega
  simp only [String.utf8EncodeChar, val_ofNat hvalid]
  rw [if_neg (by omega), if_neg (by omega), if_pos (by omega), ofNat_of_eq hfirst,
    ofNat_of_eq hsecond, ofNat_of_eq hthird]

theorem encodeChar_four (ha : 0xF0 ≤ a.toNat ∧ a.toNat < 0xF8) (hb : isContinuation b = true)
    (hc : isContinuation c = true) (hd : isContinuation d = true)
    (hn : (((a.toNat - 0xF0) * 64 + (b.toNat - 0x80)) * 64 + (c.toNat - 0x80)) * 64 +
      (d.toNat - 0x80) = n) (hle : 0x10000 ≤ n) (hvalid : n.isValidChar) :
    String.utf8EncodeChar (Char.ofNat n) = [a, b, c, d] := by
  rw [isContinuation_iff] at hb hc hd
  have hfirst : n / 262144 % 8 + 240 = a.toNat := by omega
  have hsecond : n / 4096 % 64 + 128 = b.toNat := by omega
  have hthird : n / 64 % 64 + 128 = c.toNat := by omega
  have hfourth : n % 64 + 128 = d.toNat := by omega
  simp only [String.utf8EncodeChar, val_ofNat hvalid]
  rw [if_neg (by omega), if_neg (by omega), if_neg (by omega), ofNat_of_eq hfirst,
    ofNat_of_eq hsecond, ofNat_of_eq hthird, ofNat_of_eq hfourth]

end

theorem encode_push {bytes rest : List UInt8} {n : Nat}
    (hchar : String.utf8EncodeChar (Char.ofNat n) = bytes)
    (hrest : encode (decode rest).1 ++ (decode rest).2 = rest) :
    encode (push n (decode rest)).1 ++ (push n (decode rest)).2 = bytes ++ rest := by
  rw [push, encode_cons, hchar, List.append_assoc, hrest]

/-- Encoding undoes decoding, up to the bytes that are left over. -/
theorem encode_decode (bytes : List UInt8) : encode (decode bytes).1 ++ (decode bytes).2 = bytes := by
  fun_induction decode bytes with
  | case2 a rest ha ih =>
    exact encode_push (encodeChar_one (UInt8.lt_iff_toNat_lt.mp ha)) ih
  | case3 a _ ha b rest char hchar ih =>
    simp only [Bool.and_eq_true, decide_eq_true_eq, UInt8.le_iff_toNat_le, UInt8.lt_iff_toNat_lt]
      at ha hchar
    exact encode_push (encodeChar_two ha hchar.1 rfl hchar.2) ih
  | case6 a _ _ ha b c rest char hchar ih =>
    simp only [Bool.and_eq_true, decide_eq_true_eq, UInt8.le_iff_toNat_le, UInt8.lt_iff_toNat_lt]
      at ha hchar
    obtain ⟨⟨⟨hb, hc⟩, hle⟩, hvalid⟩ := hchar
    exact encode_push (encodeChar_three ha hb hc rfl hle hvalid) ih
  | case9 a _ _ _ ha b c d rest char hchar ih =>
    simp only [Bool.and_eq_true, decide_eq_true_eq, UInt8.le_iff_toNat_le, UInt8.lt_iff_toNat_lt]
      at ha hchar
    obtain ⟨⟨⟨⟨hb, hc⟩, hd⟩, hle⟩, hvalid⟩ := hchar
    exact encode_push (encodeChar_four ha hb hc hd rfl hle hvalid) ih
  | _ => rfl

/-- Bytes are a text when they are the bytes of that text. -/
theorem text?_eq_some_iff {bytes : List UInt8} {text : String} :
    text? bytes = some text ↔ utf8Bytes text = bytes := by
  constructor
  · intro h
    have hdecode := encode_decode bytes
    unfold text? at h
    split at h
    · rename_i chars he
      obtain rfl := Option.some.inj h
      rw [he, List.append_nil] at hdecode
      rwa [utf8Bytes, String.toList_ofList]
    · cases h
  · rintro rfl
    rw [text?, utf8Bytes, decode_encode]
    exact congrArg some String.ofList_toList

end Utf8

end ShaderBinding
