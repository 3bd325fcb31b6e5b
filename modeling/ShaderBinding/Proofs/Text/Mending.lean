import ShaderBinding.Proofs.Json.Lead

/-! Bytes that are no text. A question mark takes the place of each byte that belongs to no
character, so the mended bytes are as many as before. -/

namespace ShaderBinding

namespace Utf8

theorem length_decode_le (bytes : List UInt8) : (decode bytes).2.length ≤ bytes.length := by
  have hlength := congrArg List.length (encode_decode bytes)
  rw [List.length_append] at hlength
  omega

/-- The characters of some bytes, with a question mark for each byte that belongs to none. -/
def mend (bytes : List UInt8) : List Char :=
  match h : decode bytes with
  | (chars, []) => chars
  | (chars, _ :: rest) =>
    have : rest.length < bytes.length := by
      have hle := length_decode_le bytes
      rw [h] at hle
      exact hle
    chars ++ '?' :: mend rest
termination_by bytes.length

variable {d : Char} {b : UInt8} {rest bytes mended : List UInt8}

theorem mend_of_decode {chars : List Char} (h : decode bytes = (chars, [])) :
    mend bytes = chars := by
  rw [mend]
  split
  · rename_i he
    rw [h] at he
    exact (congrArg Prod.fst he).symm
  · rename_i he
    rw [h] at he
    cases he

theorem mend_of_decode_cons {chars : List Char} (h : decode bytes = (chars, b :: rest)) :
    mend bytes = chars ++ '?' :: mend rest := by
  rw [mend]
  split
  · rename_i he
    rw [h] at he
    cases he
  · rename_i he
    rw [h] at he
    cases he
    rfl

@[simp] theorem mend_nil : mend [] = [] := mend_of_decode rfl

theorem mend_char (d : Char) (rest : List UInt8) :
    mend (String.utf8EncodeChar d ++ rest) = d :: mend rest := by
  have hdecode := decode_encodeChar d rest
  rw [push_toNat] at hdecode
  cases hrest : decode rest with
  | mk chars left =>
    rw [hrest] at hdecode
    cases left with
    | nil => rw [mend_of_decode hdecode, mend_of_decode hrest]
    | cons b left =>
      rw [mend_of_decode_cons hdecode, mend_of_decode_cons hrest]
      rfl

/-- A byte that starts no character. -/
def Broken (b : UInt8) (rest : List UInt8) : Prop :=
  ∀ d others, b :: rest ≠ String.utf8EncodeChar d ++ others

theorem mend_broken (h : Broken b rest) : mend (b :: rest) = '?' :: mend rest := by
  have hbytes := encode_decode (b :: rest)
  cases hdecode : decode (b :: rest) with
  | mk chars left =>
    rw [hdecode] at hbytes
    cases chars with
    | nil =>
      obtain rfl : left = b :: rest := hbytes
      exact mend_of_decode_cons hdecode
    | cons d chars =>
      rw [encode_cons, List.append_assoc] at hbytes
      exact absurd hbytes.symm (h d _)

theorem exists_char_or_broken (b : UInt8) (rest : List UInt8) :
    (∃ d others, b :: rest = String.utf8EncodeChar d ++ others) ∨ Broken b rest := by
  by_cases h : ∃ d others, b :: rest = String.utf8EncodeChar d ++ others
  · exact .inl h
  · exact .inr fun d others he => h ⟨d, others, he⟩

/-- A byte of the first 128 is a character of its own. -/
theorem exists_char_of_lt (h : b < 0x80) :
    ∃ d : Char, d.toNat < 0x80 ∧ String.utf8EncodeChar d = [b] := by
  have hnat : b.toNat < 0x80 := UInt8.lt_iff_toNat_lt.mp h
  have hval : (Char.ofNat b.toNat).toNat = b.toNat := val_ofNat (.inl (by omega))
  exact ⟨Char.ofNat b.toNat, by omega, encodeChar_one hnat⟩

theorem Broken.le (h : Broken b rest) : 0x80 ≤ b := by
  rw [UInt8.le_iff_toNat_le]
  apply Nat.le_of_not_lt
  intro hlt
  obtain ⟨d, _, hd⟩ := exists_char_of_lt (UInt8.lt_iff_toNat_lt.mpr hlt)
  exact h d rest (by rw [hd]; rfl)

theorem exists_encodeChar_eq (d : Char) : ∃ b more, String.utf8EncodeChar d = b :: more ∧
    isContinuation b = false ∧ ∀ k ∈ more, isContinuation k = true := by
  have hrange : d.val.toNat < 0x110000 := by
    have hvalid : d.toNat.isValidChar := d.valid
    have hval : d.val.toNat = d.toNat := rfl
    rcases hvalid with h | h <;> omega
  have hlead : ∀ k, k < 0x80 ∨ 0xC0 ≤ k → k < 0x100 → isContinuation (UInt8.ofNat k) = false := by
    intro k hk hlt
    rw [← Bool.not_eq_true, isContinuation_iff, UInt8.toNat_ofNat_of_lt' hlt]
    omega
  have hmore : ∀ k, isContinuation (UInt8.ofNat (k % 64 + 128)) = true := by
    intro k
    rw [isContinuation_iff, UInt8.toNat_ofNat_of_lt' (show k % 64 + 128 < 256 by omega)]
    omega
  have hnil : ∀ k ∈ ([] : List UInt8), isContinuation k = true := nofun
  simp only [String.utf8EncodeChar]
  generalize d.val.toNat = n at hrange
  split
  · exact ⟨_, _, rfl, hlead _ (by omega) (by omega), hnil⟩
  · split
    · refine ⟨_, _, rfl, hlead _ (by omega) (by omega), ?_⟩
      exact List.forall_mem_cons.mpr ⟨hmore _, hnil⟩
    · split
      · refine ⟨_, _, rfl, hlead _ (by omega) (by omega), ?_⟩
        exact List.forall_mem_cons.mpr ⟨hmore _, List.forall_mem_cons.mpr ⟨hmore _, hnil⟩⟩
      · refine ⟨_, _, rfl, hlead _ (by omega) (by omega), ?_⟩
        refine List.forall_mem_cons.mpr ⟨hmore _, List.forall_mem_cons.mpr ⟨hmore _, ?_⟩⟩
        exact List.forall_mem_cons.mpr ⟨hmore _, hnil⟩

theorem le_of_isContinuation {k : UInt8} (h : isContinuation k = true) : 0x80 ≤ k := by
  rw [UInt8.le_iff_toNat_le]
  exact (isContinuation_iff.mp h).1

/-- A text does not start inside a character. -/
theorem ne_encode_of_isContinuation {k : UInt8} {tail : List UInt8} (hk : isContinuation k = true)
    (text : List Char) : k :: tail ≠ encode text := by
  intro he
  cases text with
  | nil => cases he
  | cons d text =>
    obtain ⟨first, more, hencode, hfirst, _⟩ := exists_encodeChar_eq d
    rw [encode_cons, hencode] at he
    obtain rfl := (List.cons.inj he).1
    rw [hk] at hfirst
    cases hfirst

/-- A broken byte that is collected is not followed by what would make the whole a text. -/
theorem Broken.not_collected {tail rest : List UInt8} (h : Broken b rest)
    (htail : ∀ more others, tail = more ++ others → (∀ k ∈ more, isContinuation k = true) →
      more <+: rest) (text : List Char) : b :: tail ≠ encode text := by
  intro he
  cases text with
  | nil => cases he
  | cons d text =>
    obtain ⟨first, more, hencode, _, hmore⟩ := exists_encodeChar_eq d
    rw [encode_cons, hencode] at he
    obtain ⟨rfl, hrest⟩ := List.cons.inj he
    obtain ⟨others, hothers⟩ := htail more _ hrest hmore
    exact h d others (by rw [hencode, ← hothers]; rfl)

/-! Bytes one by one. -/

/-- The second byte is the first one, or a question mark for a byte beyond the first 128. -/
inductive Mends : UInt8 → UInt8 → Prop
  | same (b : UInt8) : Mends b b
  | broken {b : UInt8} : 0x80 ≤ b → Mends b (byte '?')

/-- Bytes and the same bytes mended. They may start inside a character, whose last bytes are then
left as they are. -/
def Mended (bytes mended : List UInt8) : Prop :=
  ∃ inside rest, (∀ k ∈ inside, isContinuation k = true) ∧ bytes = inside ++ rest ∧
    mended = inside ++ encode (mend rest)

theorem mended_mend (bytes : List UInt8) : Mended bytes (encode (mend bytes)) :=
  ⟨[], bytes, by simp, rfl, rfl⟩

theorem mended_nil : Mended [] [] := by
  have h := mended_mend []
  rwa [mend_nil] at h

theorem Mended.nil (h : Mended [] mended) : mended = [] := by
  obtain ⟨inside, rest, _, hbytes, rfl⟩ := h
  obtain ⟨rfl, rfl⟩ := List.append_eq_nil_iff.mp hbytes.symm
  simp

theorem Mended.cons (h : Mended (b :: bytes) mended) : ∃ b' mended', mended = b' :: mended' ∧
    Mends b b' ∧ Mended bytes mended' := by
  obtain ⟨inside, rest, hinside, hbytes, rfl⟩ := h
  cases inside with
  | cons k inside =>
    obtain ⟨rfl, rfl⟩ := List.cons.inj hbytes
    exact ⟨b, _, rfl, .same b, inside, rest, fun k hk => hinside k (by simp [hk]), rfl, rfl⟩
  | nil =>
    obtain rfl : b :: bytes = rest := hbytes
    rcases exists_char_or_broken b bytes with ⟨d, others, he⟩ | hbroken
    · obtain ⟨first, more, hencode, _, hmore⟩ := exists_encodeChar_eq d
      refine ⟨first, more ++ encode (mend others), ?_, ?_, more, others, hmore, ?_, rfl⟩
      · rw [he, mend_char, encode_cons, hencode]
        rfl
      · rw [hencode] at he
        obtain rfl := (List.cons.inj he).1
        exact .same b
      · rw [hencode] at he
        exact (List.cons.inj he).2
    · refine ⟨byte '?', encode (mend bytes), ?_, .broken hbroken.le, mended_mend bytes⟩
      rw [mend_broken hbroken, encode_cons_of_lt (by decide)]
      rfl

theorem Mended.length_eq (h : Mended bytes mended) : mended.length = bytes.length := by
  induction bytes generalizing mended with
  | nil => rw [h.nil]
  | cons b bytes ih =>
    obtain ⟨b', mended', rfl, _, h'⟩ := h.cons
    simp [ih h']

theorem mend_encode (chars : List Char) : mend (encode chars) = chars :=
  mend_of_decode (decode_encode chars)

end Utf8

end ShaderBinding
