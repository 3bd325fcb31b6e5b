import ShaderBinding.Proofs.Json.Run

/-! Blanks, words and the signs between values: what the readers of single tokens accept, and that
they accept it. -/

namespace ShaderBinding

namespace Json

theorem exists_blanks (chars : List Char) : ∃ rest, Blanks chars rest ∧
    ∀ c ∈ rest.head?, c ∉ [' ', '\t', '\n', '\r'] := by
  induction chars with
  | nil => exact ⟨[], .none, by simp⟩
  | cons c chars ih =>
    by_cases hc : c ∈ [' ', '\t', '\n', '\r']
    · obtain ⟨rest, hrest, hhead⟩ := ih
      exact ⟨rest, .more hc hrest, hhead⟩
    · refine ⟨c :: chars, .none, ?_⟩
      intro d hd
      obtain rfl : c = d := by simpa using hd
      exact hc

/-- What stands before an element or a member: blanks, and a comma unless it is the first. -/
inductive Before : Bool → List Char → List Char → Prop
  | first {chars rest : List Char} : Blanks chars rest → Before true chars rest
  | next {chars mid rest : List Char} :
      Blanks chars (',' :: mid) → Blanks mid rest → Before false chars rest

end Json

namespace Reader

open Json

variable {α : Type} {chars mid rest : List Char} {c : Char}

theorem reads_token (h : Blanks chars rest)
    (hrest : ∀ c ∈ rest.head?, c ∉ [' ', '\t', '\n', '\r']) :
    Reads token chars (firstByte? rest) rest := by
  induction h with
  | @none rest =>
    refine reads_loop_stop (Reads.bind (reads_look rest) ?_)
    cases rest with
    | nil => exact LeadsTo.refl _ _
    | cons c rest =>
      have hblank : isBlank (lead c) = false := by
        rw [isBlank_lead]
        exact decide_eq_false (hrest c rfl)
      simp only [firstByte?_cons, hblank, Bool.false_eq_true, if_false]
      exact LeadsTo.refl _ _
  | @more c chars rest hc _ ih =>
    have hblank : isBlank (lead c) = true := by
      rw [isBlank_lead]
      exact decide_eq_true hc
    refine LeadsTo.trans (leadsTo_loop_again ?_ (.cons c (List.suffix_refl _))) (ih hrest)
    refine Reads.bind (reads_look _) ?_
    simp only [firstByte?_cons, hblank, if_true]
    exact Reads.bind (reads_eat (toNat_lt_of_mem_blanks hc) chars) (LeadsTo.refl _ _)

theorem reads_token_nil (h : Blanks chars []) : Reads token chars none [] :=
  reads_token h (by simp)

theorem reads_token_cons (h : Blanks chars (c :: rest)) (hc : c ∉ [' ', '\t', '\n', '\r']) :
    Reads token chars (some (lead c)) (c :: rest) := by
  rw [← firstByte?_cons c rest]
  exact reads_token h (by simpa using hc)

theorem accepts_token {next : Option UInt8 → Reader α} {post : α → List Char → Prop}
    (hnone : Blanks chars [] → Accepts (next none) [] post)
    (hsome : ∀ c rest, Blanks chars (c :: rest) → c ∉ [' ', '\t', '\n', '\r'] →
      Accepts (next (some (lead c))) (c :: rest) post) :
    Accepts (token >>= next) chars post := by
  obtain ⟨rest, hrest, hhead⟩ := exists_blanks chars
  cases rest with
  | nil => exact Reads.accepts_bind (reads_token_nil hrest) (hnone hrest)
  | cons c rest =>
    have hc := hhead c rfl
    exact Reads.accepts_bind (reads_token_cons hrest hc) (hsome c rest hrest hc)

theorem accepts_token_some {next : Option UInt8 → Reader α} {post : α → List Char → Prop}
    (hnone : Refuses (next none))
    (hsome : ∀ c rest, Blanks chars (c :: rest) → c ∉ [' ', '\t', '\n', '\r'] →
      Accepts (next (some (lead c))) (c :: rest) post) :
    Accepts (token >>= next) chars post :=
  accepts_token (fun _ => hnone.accepts) hsome

theorem reads_valueStart (h : Blanks chars (c :: rest)) (hc : c ∉ [' ', '\t', '\n', '\r']) :
    Reads valueStart chars (lead c) (c :: rest) :=
  Reads.bind (reads_token_cons h hc) (LeadsTo.refl _ _)

theorem accepts_valueStart {next : UInt8 → Reader α} {post : α → List Char → Prop}
    (h : ∀ c rest, Blanks chars (c :: rest) → Accepts (next (lead c)) (c :: rest) post) :
    Accepts (valueStart >>= next) chars post := by
  refine Accepts.bind (accepts_token_some (refuses_refuseNext _) ?_)
  intro c rest hblanks _
  exact accepts_pure (h c rest hblanks)

theorem leadsTo_if_pos {a : Char} {yes no last : Reader α} (ha : a.toNat < 0x80)
    (h : LeadsTo yes chars last mid) :
    LeadsTo (if lead a = byte a then yes else no) chars last mid := by
  rwa [if_pos (lead_of_lt ha)]

theorem leadsTo_if_neg {a : Char} {yes no last : Reader α} (ha : a.toNat < 0x80) (hc : c ≠ a)
    (h : LeadsTo no chars last mid) :
    LeadsTo (if lead c = byte a then yes else no) chars last mid := by
  rwa [if_neg (fun he => hc ((lead_eq_byte_iff ha).mp he))]

theorem accepts_if {a : Char} {yes no : Reader α} {post : α → List Char → Prop}
    (ha : a.toNat < 0x80) (hyes : c = a → Accepts yes chars post)
    (hno : c ≠ a → Accepts no chars post) :
    Accepts (if lead c = byte a then yes else no) chars post := by
  by_cases hc : c = a
  · rw [if_pos ((lead_eq_byte_iff ha).mpr hc)]
    exact hyes hc
  · rw [if_neg (fun he => hc ((lead_eq_byte_iff ha).mp he))]
    exact hno hc

/-- After a test the only accepted character is the one that is eaten. -/
theorem accepts_if_eat {a : Char} {no : Reader Unit} {post : List Char → Prop}
    (ha : a.toNat < 0x80) (hno : Refuses no) (h : c = a → post rest) :
    Accepts (if lead c = byte a then eat else no) (c :: rest) fun _ last => post last := by
  refine accepts_if ha ?_ (fun _ => hno.accepts)
  rintro rfl
  exact LeadsTo.accepts (reads_eat ha rest) (accepts_pure (h rfl))

theorem reads_word {letters : List Char} (hlow : letters.all (fun c => c.toNat < 0x80) = true)
    (rest : List Char) : Reads (word letters) (letters ++ rest) () rest := by
  induction letters with
  | nil => exact LeadsTo.refl _ _
  | cons c letters ih =>
    obtain ⟨hc, hrest⟩ := Bool.and_eq_true_iff.mp hlow
    refine Reads.bind (reads_next (of_decide_eq_true hc) _) ?_
    simp only [lead_of_lt (of_decide_eq_true hc), if_true]
    exact ih hrest

theorem accepts_word {letters : List Char} (hlow : letters.all (fun c => c.toNat < 0x80) = true) :
    Accepts (word letters) chars fun _ rest => chars = letters ++ rest := by
  induction letters generalizing chars with
  | nil => exact accepts_pure rfl
  | cons c letters ih =>
    obtain ⟨hdecide, hrest⟩ := Bool.and_eq_true_iff.mp hlow
    have hc : c.toNat < 0x80 := of_decide_eq_true hdecide
    refine accepts_next (refuses_refuse _) ?_ ?_
    · rintro d rest rfl _
      refine accepts_if hc ?_ (fun _ => (refuses_refuse _).accepts)
      rintro rfl
      exact (ih hrest).mono fun _ last hlast => by
        rw [hlast, List.cons_append]
    · intro b hb
      simp only [ne_byte_of_le hb hc, if_false]
      exact refuses_refuse _

theorem reads_colon (h : Blanks chars (':' :: rest)) : Reads colon chars () rest := by
  refine Reads.bind (reads_token_cons h (by decide)) ?_
  exact leadsTo_if_pos (by decide) (reads_eat (by decide) rest)

theorem accepts_colon : Accepts colon chars fun _ rest => Blanks chars (':' :: rest) := by
  refine accepts_token_some (refuses_refuseNext _) ?_
  intro c rest hblanks _
  refine accepts_if_eat (by decide) (refuses_refuseNext _) ?_
  rintro rfl
  exact hblanks

theorem reads_comma (bracket : Part) (rest : List Char) :
    Reads (comma bracket (lead ',')) (',' :: rest) () rest :=
  leadsTo_if_pos (by decide) (reads_eat (by decide) rest)

theorem accepts_comma (bracket : Part) (c : Char) (rest : List Char) :
    Accepts (comma bracket (lead c)) (c :: rest) fun _ last => c = ',' ∧ last = rest :=
  accepts_if_eat (by decide) (refuses_refuseNext _) (fun hc => ⟨hc, rfl⟩)

theorem reads_keyStart (rest : List Char) :
    Reads (keyStart (lead '"')) ('"' :: rest) () ('"' :: rest) :=
  leadsTo_if_pos (by decide) (LeadsTo.refl _ _)

theorem accepts_keyStart (c : Char) (rest : List Char) :
    Accepts (keyStart (lead c)) (c :: rest) fun _ last => c = '"' ∧ last = c :: rest :=
  accepts_if (by decide) (fun hc => accepts_pure ⟨hc, rfl⟩) (fun _ => (refuses_refuseNext _).accepts)

/-! The signs that stand in a list or an object after what has been read. -/

theorem reads_hasElement_stop (first : Bool) (h : Blanks chars (']' :: rest)) :
    Reads (hasElement first) chars false (']' :: rest) := by
  refine Reads.bind (reads_token_cons h (by decide)) ?_
  exact leadsTo_if_pos (by decide) (LeadsTo.refl _ _)

theorem reads_hasElement {first : Bool} (h : Before first chars (c :: rest))
    (hc : c ∉ [' ', '\t', '\n', '\r']) (hc' : c ≠ ']') :
    Reads (hasElement first) chars true (c :: rest) := by
  cases h with
  | first hblanks =>
    refine Reads.bind (reads_token_cons hblanks hc) ?_
    exact leadsTo_if_neg (by decide) hc' (LeadsTo.refl _ _)
  | next hcomma hblanks =>
    refine Reads.bind (reads_token_cons hcomma (by decide)) ?_
    refine leadsTo_if_neg (by decide) (by decide) ?_
    refine Reads.bind (reads_comma .list _) (Reads.bind (reads_token_cons hblanks hc) ?_)
    exact leadsTo_if_neg (by decide) hc' (LeadsTo.refl _ _)

theorem accepts_hasElement (first : Bool) :
    Accepts (hasElement first) chars fun more rest =>
      match more with
      | true => Before first chars rest
      | false => Blanks chars rest ∧ ∃ last, rest = ']' :: last := by
  refine accepts_token_some (refuses_refuseNext _) ?_
  intro c rest hblanks _
  refine accepts_if (by decide) ?_ ?_
  · rintro rfl
    exact accepts_pure ⟨hblanks, rest, rfl⟩
  · intro _
    cases first with
    | true => exact accepts_pure (.first hblanks)
    | false =>
      refine Accepts.bind ((accepts_comma .list c rest).mono ?_)
      rintro _ _ ⟨rfl, rfl⟩
      refine accepts_token_some (refuses_refuseNext _) ?_
      intro d last hblanks' _
      refine accepts_if (by decide) (fun _ => (refuses_refuseNext _).accepts) ?_
      intro _
      exact accepts_pure (.next hblanks hblanks')

theorem reads_hasMember_stop (first : Bool) (h : Blanks chars ('}' :: rest)) :
    Reads (hasMember first) chars false ('}' :: rest) := by
  refine Reads.bind (reads_token_cons h (by decide)) ?_
  exact leadsTo_if_pos (by decide) (LeadsTo.refl _ _)

theorem reads_hasMember {first : Bool} (h : Before first chars ('"' :: rest)) :
    Reads (hasMember first) chars true ('"' :: rest) := by
  have hkey : LeadsTo (do keyStart (lead '"'); pure true : Reader Bool) ('"' :: rest) (pure true)
      ('"' :: rest) := Reads.bind (reads_keyStart rest) (LeadsTo.refl _ _)
  cases h with
  | first hblanks =>
    refine Reads.bind (reads_token_cons hblanks (by decide)) ?_
    exact leadsTo_if_neg (by decide) (by decide) hkey
  | next hcomma hblanks =>
    refine Reads.bind (reads_token_cons hcomma (by decide)) ?_
    refine leadsTo_if_neg (by decide) (by decide) ?_
    refine Reads.bind (reads_comma .object _) ?_
    refine Reads.bind (reads_token_cons hblanks (by decide)) ?_
    exact leadsTo_if_neg (by decide) (by decide) hkey

theorem accepts_hasMember (first : Bool) :
    Accepts (hasMember first) chars fun more rest =>
      match more with
      | true => Before first chars rest ∧ ∃ last, rest = '"' :: last
      | false => Blanks chars rest ∧ ∃ last, rest = '}' :: last := by
  refine accepts_token_some (refuses_refuseNext _) ?_
  intro c rest hblanks _
  refine accepts_if (by decide) ?_ ?_
  · rintro rfl
    exact accepts_pure ⟨hblanks, rest, rfl⟩
  · intro _
    cases first with
    | true =>
      refine Accepts.bind ((accepts_keyStart c rest).mono ?_)
      rintro _ _ ⟨rfl, rfl⟩
      exact accepts_pure ⟨.first hblanks, rest, rfl⟩
    | false =>
      refine Accepts.bind ((accepts_comma .object c rest).mono ?_)
      rintro _ _ ⟨rfl, rfl⟩
      refine accepts_token_some (refuses_refuseNext _) ?_
      intro d last hblanks' _
      refine accepts_if (by decide) (fun _ => (refuses_refuseNext _).accepts) ?_
      intro _
      refine Accepts.bind ((accepts_keyStart d last).mono ?_)
      rintro _ _ ⟨rfl, rfl⟩
      exact accepts_pure ⟨.next hblanks hblanks', last, rfl⟩

theorem reads_listEnd (h : Blanks chars (']' :: rest)) : Reads listEnd chars () rest := by
  refine Reads.bind (reads_token_cons h (by decide)) ?_
  exact leadsTo_if_pos (by decide) (reads_eat (by decide) rest)

theorem accepts_listEnd : Accepts listEnd chars fun _ rest => Blanks chars (']' :: rest) := by
  refine accepts_token_some (refuses_refuseNext _) ?_
  intro c rest hblanks _
  refine accepts_if_eat (by decide) ?_ ?_
  · split
    · refine Refuses.bind fun _ => Refuses.bind fun next => ?_
      split
      · split <;> exact refuses_refuseNext _
      · exact refuses_refuseNext _
    · exact refuses_refuseNext _
  · rintro rfl
    exact hblanks

theorem reads_objectEnd (h : Blanks chars ('}' :: rest)) : Reads objectEnd chars () rest := by
  refine Reads.bind (reads_token_cons h (by decide)) ?_
  exact leadsTo_if_pos (by decide) (reads_eat (by decide) rest)

theorem accepts_objectEnd : Accepts objectEnd chars fun _ rest => Blanks chars ('}' :: rest) := by
  refine accepts_token_some (refuses_refuseNext _) ?_
  intro c rest hblanks _
  refine accepts_if_eat (by decide) ?_ ?_
  · split <;> exact refuses_refuseNext _
  · rintro rfl
    exact hblanks

end Reader

end ShaderBinding
