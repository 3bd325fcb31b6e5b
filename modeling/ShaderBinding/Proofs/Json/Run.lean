import ShaderBinding.Proofs.Json.Lead

/-! Runs of readers over texts. A run is described by the characters ahead at its start and at its
end; what lies behind, and what is held, do not matter to it. -/

namespace ShaderBinding

namespace Reader

variable {α β σ : Type}

/-- Before some characters the first reader does what the second does before the others. -/
def LeadsTo (first : Reader α) (chars : List Char) (second : Reader α) (rest : List Char) : Prop :=
  ∀ cursor : Cursor, cursor.ahead = Utf8.encode chars → ∃ after : Cursor,
    after.ahead = Utf8.encode rest ∧ first .text cursor = second .text after

/-- A reader that succeeds with a value, and the characters that it leaves. -/
abbrev Reads (reader : Reader α) (chars : List Char) (value : α) (rest : List Char) : Prop :=
  LeadsTo reader chars (pure value) rest

/-- Whatever a reader accepts meets a condition on the value and on the characters left. -/
def Accepts (reader : Reader α) (chars : List Char) (post : α → List Char → Prop) : Prop :=
  ∀ cursor value after, cursor.ahead = Utf8.encode chars →
    reader .text cursor = .done value after →
      ∃ rest, after.ahead = Utf8.encode rest ∧ post value rest

def Refuses (reader : Reader α) : Prop :=
  ∀ cursor value after, reader .text cursor ≠ .done value after

theorem Refuses.not_done {reader : Reader α} {cursor after : Cursor} {value : α}
    (h : Refuses reader) : ¬ reader .text cursor = .done value after :=
  h cursor value after

variable {first second third : Reader α} {next : α → Reader β} {chars mid rest : List Char}

theorem LeadsTo.refl (reader : Reader α) (chars : List Char) :
    LeadsTo reader chars reader chars :=
  fun cursor hcursor => ⟨cursor, hcursor, rfl⟩

theorem LeadsTo.trans (h : LeadsTo first chars second mid) (h' : LeadsTo second mid third rest) :
    LeadsTo first chars third rest := by
  intro cursor hcursor
  obtain ⟨between, hbetween, he⟩ := h cursor hcursor
  obtain ⟨after, hafter, he'⟩ := h' between hbetween
  exact ⟨after, hafter, he.trans he'⟩

theorem bind_apply (reader : Reader α) (next : α → Reader β) (delivery : Delivery)
    (cursor : Cursor) : (reader >>= next) delivery cursor =
      match reader delivery cursor with
      | .done value after => next value delivery after
      | .failed fault after => .failed fault after := rfl

theorem bind_assoc {γ : Type} (reader : Reader α) (next : α → Reader β) (last : β → Reader γ) :
    (reader >>= next) >>= last = reader >>= fun value => next value >>= last := by
  funext delivery cursor
  simp only [bind_apply]
  cases reader delivery cursor <;> rfl

theorem exists_of_bind_done {first : Reader α} {next : α → Reader β} {delivery : Delivery}
    {cursor : Cursor} {value : β} {after : Cursor}
    (h : (first >>= next) delivery cursor = .done value after) :
    ∃ between cursor', first delivery cursor = .done between cursor' ∧
      next between delivery cursor' = .done value after := by
  rw [bind_apply] at h
  cases hfirst : first delivery cursor with
  | failed fault cursor' => simp [hfirst] at h
  | done between cursor' =>
    rw [hfirst] at h
    exact ⟨between, cursor', rfl, h⟩

theorem LeadsTo.bind (h : LeadsTo first chars second rest) (next : α → Reader β) :
    LeadsTo (first >>= next) chars (second >>= next) rest := by
  intro cursor hcursor
  obtain ⟨after, hafter, he⟩ := h cursor hcursor
  exact ⟨after, hafter, by rw [bind_apply, bind_apply, he]⟩

theorem Reads.bind {value : α} {last : Reader β} (h : Reads first chars value mid)
    (h' : LeadsTo (next value) mid last rest) : LeadsTo (first >>= next) chars last rest :=
  LeadsTo.trans (LeadsTo.bind h next) h'

theorem Accepts.mono {post post' : α → List Char → Prop} (h : Accepts first chars post)
    (himp : ∀ value rest, post value rest → post' value rest) : Accepts first chars post' := by
  intro cursor value after hcursor hdone
  obtain ⟨rest, hrest, hpost⟩ := h cursor value after hcursor hdone
  exact ⟨rest, hrest, himp value rest hpost⟩

theorem LeadsTo.accepts {post : α → List Char → Prop} (h : LeadsTo first chars second rest)
    (h' : Accepts second rest post) : Accepts first chars post := by
  intro cursor value after hcursor hdone
  obtain ⟨between, hbetween, he⟩ := h cursor hcursor
  exact h' between value after hbetween (he ▸ hdone)

theorem accepts_pure {post : α → List Char → Prop} {value : α} (h : post value chars) :
    Accepts (pure value) chars post := by
  rintro cursor _ _ hcursor ⟨⟩
  exact ⟨chars, hcursor, h⟩

theorem Accepts.bind {post : β → List Char → Prop}
    (h : Accepts first chars fun value rest => Accepts (next value) rest post) :
    Accepts (first >>= next) chars post := by
  intro cursor value after hcursor hdone
  rw [bind_apply] at hdone
  cases hfirst : first .text cursor with
  | failed fault between => simp [hfirst] at hdone
  | done between cursor' =>
    rw [hfirst] at hdone
    obtain ⟨mid, hmid, hnext⟩ := h cursor between cursor' hcursor hfirst
    exact hnext cursor' value after hmid hdone

theorem Reads.accepts_bind {post : β → List Char → Prop} {value : α}
    (h : Reads first chars value mid) (h' : Accepts (next value) mid post) :
    Accepts (first >>= next) chars post :=
  LeadsTo.accepts (LeadsTo.bind h next) h'

theorem Refuses.accepts {post : α → List Char → Prop} (h : Refuses first) :
    Accepts first chars post :=
  fun cursor value after _ hdone => absurd hdone (h cursor value after)

theorem Refuses.bind_left (h : Refuses first) (next : α → Reader β) :
    Refuses (first >>= next) := by
  intro cursor value after hdone
  rw [bind_apply] at hdone
  cases hfirst : first .text cursor with
  | failed fault between => simp [hfirst] at hdone
  | done between cursor' => exact h cursor between cursor' hfirst

theorem Refuses.bind (h : ∀ value, Refuses (next value)) : Refuses (first >>= next) := by
  intro cursor value after hdone
  rw [bind_apply] at hdone
  cases hfirst : first .text cursor with
  | failed fault between => simp [hfirst] at hdone
  | done between cursor' =>
    rw [hfirst] at hdone
    exact h between cursor' value after hdone

theorem refuses_refuse (cause : ParseCause) : Refuses (refuse cause : Reader α) := by
  rintro _ _ _ ⟨⟩

theorem refuses_refuseNext (cause : ParseCause) : Refuses (refuseNext cause : Reader α) := by
  rintro _ _ _ ⟨⟩

theorem refuses_mismatch (cause : SchemaCause) : Refuses (mismatch cause : Reader α) := by
  rintro _ _ _ ⟨⟩

/-! Single bytes. -/

theorem reads_look (chars : List Char) : Reads look chars (firstByte? chars) chars := by
  intro cursor hcursor
  unfold firstByte?
  cases hbytes : Utf8.encode chars with
  | nil =>
    refine ⟨cursor, hcursor.trans hbytes, ?_⟩
    have hahead : cursor.ahead = [] := hcursor.trans hbytes
    simp only [look, hahead]
    rfl
  | cons b rest =>
    refine ⟨{ cursor with held := true }, hcursor.trans hbytes, ?_⟩
    have hahead : cursor.ahead = b :: rest := hcursor.trans hbytes
    simp only [look, hahead]
    rfl

theorem ahead_advance {cursor : Cursor} {b : UInt8} {bytes : List UInt8}
    (h : cursor.ahead = b :: bytes) : cursor.advance.ahead = bytes := by
  obtain ⟨behind, ahead, held, left, hleft⟩ := cursor
  obtain rfl : ahead = b :: bytes := h
  rfl

theorem reads_eat {c : Char} (hc : c.toNat < 0x80) (rest : List Char) :
    Reads eat (c :: rest) () rest := by
  intro cursor hcursor
  rw [encode_cons_of_lt hc] at hcursor
  exact ⟨cursor.advance, ahead_advance hcursor, rfl⟩

theorem reads_next {c : Char} (hc : c.toNat < 0x80) (rest : List Char) :
    Reads Reader.next (c :: rest) (some (lead c)) rest := by
  refine Reads.bind (reads_look _) (Reads.bind (reads_eat hc rest) ?_)
  rw [firstByte?_cons]
  exact LeadsTo.refl _ _

theorem reads_next_nil : Reads Reader.next [] none [] := by
  intro cursor hcursor
  obtain ⟨after, hafter, he⟩ := reads_look [] cursor hcursor
  refine ⟨after.advance, ?_, ?_⟩
  · obtain ⟨behind, ahead, held, left, hleft⟩ := after
    obtain rfl : ahead = [] := hafter
    rfl
  · simp only [Reader.next, bind_apply, he]
    rfl

/-- A byte is the first one of a character, which it is the whole of, or it is beyond the first
128. -/
theorem accepts_next {next : Option UInt8 → Reader β} {post : β → List Char → Prop}
    (hnil : Refuses (next none))
    (hlow : ∀ c rest, chars = c :: rest → c.toNat < 0x80 →
      Accepts (next (some (lead c))) rest post)
    (hhigh : ∀ b : UInt8, 0x80 ≤ b → Refuses (next (some b))) :
    Accepts (Reader.next >>= next) chars post := by
  cases chars with
  | nil => exact Reads.accepts_bind reads_next_nil hnil.accepts
  | cons c rest =>
    by_cases hc : c.toNat < 0x80
    · exact Reads.accepts_bind (reads_next hc rest) (hlow c rest rfl hc)
    · intro cursor value after hcursor hdone
      obtain ⟨between, _, he⟩ := reads_look (c :: rest) cursor hcursor
      have hrun : (Reader.next >>= next) .text cursor =
          next (some (lead c)) .text between.advance := by
        rw [firstByte?_cons] at he
        simp only [Reader.next, bind_apply, he]
        rfl
      exact absurd (hrun.symm.trans hdone) (hhigh _ (le_lead (Nat.le_of_not_lt hc)) _ _ _)

/-! Loops. -/

theorem loop_stop {turn : σ → Reader (Turn σ α)} {state : σ} {delivery : Delivery} {value : α}
    {cursor after : Cursor} (h : turn state delivery cursor = .done (.stop value) after) :
    loop turn state delivery cursor = .done value after := by
  rw [loop, h]

theorem loop_again {turn : σ → Reader (Turn σ α)} {state state' : σ} {delivery : Delivery}
    {cursor after : Cursor} (h : turn state delivery cursor = .done (.again state') after)
    (hlt : after.left < cursor.left) :
    loop turn state delivery cursor = loop turn state' delivery after := by
  rw [loop, h]
  exact if_pos hlt

/-- A loop that is done was done with its first turn, or it went on after some bytes. -/
theorem loop_done {turn : σ → Reader (Turn σ α)} {state : σ} {delivery : Delivery}
    {cursor after : Cursor} {value : α} (h : loop turn state delivery cursor = .done value after) :
    turn state delivery cursor = .done (.stop value) after ∨
      ∃ state' between, turn state delivery cursor = .done (.again state') between ∧
        between.left < cursor.left ∧ loop turn state' delivery between = .done value after := by
  rw [loop] at h
  cases hturn : turn state delivery cursor with
  | failed fault between => simp [hturn] at h
  | done turned between =>
    rw [hturn] at h
    cases turned with
    | stop stopped =>
      obtain ⟨rfl, rfl⟩ := Outcome.done.inj h
      exact .inl rfl
    | again state' =>
      dsimp only at h
      split at h
      · rename_i hlt
        exact .inr ⟨state', between, rfl, hlt, h⟩
      · cases h

theorem reads_loop_stop {turn : σ → Reader (Turn σ α)} {state : σ} {value : α}
    (h : Reads (turn state) chars (.stop value) rest) : Reads (loop turn state) chars value rest := by
  intro cursor hcursor
  obtain ⟨after, hafter, he⟩ := h cursor hcursor
  exact ⟨after, hafter, loop_stop he⟩

theorem length_encode_lt (c : Char) (rest : List Char) :
    (Utf8.encode rest).length < (Utf8.encode (c :: rest)).length := by
  have hpos := List.length_pos_iff.mpr (String.utf8EncodeChar_ne_nil (c := c))
  rw [Utf8.encode_cons, List.length_append]
  omega

theorem length_encode_lt_of_isTail (h : Json.IsTail rest chars) :
    (Utf8.encode rest).length < (Utf8.encode chars).length := by
  obtain ⟨⟨front, rfl⟩, hlt⟩ := h
  cases front with
  | nil => simp at hlt
  | cons c front =>
    have hcons := length_encode_lt c (front ++ rest)
    rw [Utf8.encode_append, List.length_append] at hcons
    rw [List.cons_append]
    omega

theorem leadsTo_loop_again {turn : σ → Reader (Turn σ α)} {state state' : σ}
    (h : Reads (turn state) chars (.again state') mid) (htail : Json.IsTail mid chars) :
    LeadsTo (loop turn state) chars (loop turn state') mid := by
  intro cursor hcursor
  obtain ⟨after, hafter, he⟩ := h cursor hcursor
  refine ⟨after, hafter, loop_again he ?_⟩
  rw [cursor.left_eq, after.left_eq, hcursor, hafter]
  exact length_encode_lt_of_isTail htail

theorem token_stop {delivery : Delivery} {cursor after : Cursor} {next : Option UInt8}
    (hlook : look delivery cursor = .done next after) (hnext : next.any isBlank = false) :
    token delivery cursor = .done next after := by
  refine loop_stop ?_
  cases next with
  | none => simp only [bind_apply, hlook]; rfl
  | some b =>
    have hblank : isBlank b = false := hnext
    simp only [bind_apply, hlook, hblank]
    rfl

theorem token_blank {delivery : Delivery} {b : UInt8} (hblank : isBlank b = true)
    (behind rest : List UInt8) (held : Bool) :
    token delivery (.between behind (b :: rest) held) =
      token delivery (.between (b :: behind) rest false) := by
  refine loop_again ?_ (Nat.lt_succ_self rest.length)
  simp only [bind_apply, look, Cursor.between, hblank]
  rfl

/-- A loop that takes one turn for each of some bytes. -/
theorem loop_bytes {turn : σ → Reader (Turn σ α)} (step : σ → UInt8 → σ) {bytes : List UInt8}
    (h : ∀ b ∈ bytes, ∀ state cursor ahead, cursor.ahead = b :: ahead → ∃ after : Cursor,
      after.ahead = ahead ∧ turn state .text cursor = .done (.again (step state b)) after)
    {state : σ} {cursor : Cursor} {ahead : List UInt8} (hahead : cursor.ahead = bytes ++ ahead) :
    ∃ after : Cursor, after.ahead = ahead ∧
      loop turn state .text cursor = loop turn (bytes.foldl step state) .text after := by
  induction bytes generalizing state cursor with
  | nil => exact ⟨cursor, hahead, rfl⟩
  | cons b bytes ih =>
    obtain ⟨between, hbetween, hturn⟩ := h b (by simp) state cursor (bytes ++ ahead) hahead
    have hlt : between.left < cursor.left := by
      rw [between.left_eq, cursor.left_eq, hbetween, hahead]
      simp
    obtain ⟨after, hafter, he⟩ := ih (fun d hd => h d (by simp [hd])) hbetween
    exact ⟨after, hafter, (loop_again hturn hlt).trans he⟩

/-- What holds at the end of every turn that stops, and goes back over every other turn, holds at
the end of a loop. Several turns may be taken as one. -/
theorem accepts_loop_of {turn : σ → Reader (Turn σ α)}
    (post : σ → List Char → α → List Char → Prop)
    (h : ∀ state chars,
      (∃ state' c rest, chars = c :: rest ∧
        LeadsTo (loop turn state) chars (loop turn state') rest ∧
          ∀ value last, post state' rest value last → post state chars value last) ∨
      Accepts (turn state) chars fun done rest =>
        match done with
        | .stop value => post state chars value rest
        | .again state' => ∀ value last, post state' rest value last → post state chars value last)
    (state : σ) (chars : List Char) : Accepts (loop turn state) chars (post state chars) := by
  intro cursor value after hcursor hdone
  generalize hleft : cursor.left = left
  induction left using Nat.strongRecOn generalizing state chars cursor with
  | ind left ih =>
    rcases h state chars with ⟨state', c, rest, rfl, hleads, hback⟩ | hturns
    · obtain ⟨between, hbetween, he⟩ := hleads cursor hcursor
      have hlt : between.left < cursor.left := by
        rw [between.left_eq, cursor.left_eq, hbetween, hcursor]
        exact length_encode_lt c rest
      obtain ⟨last, hlast, hpost⟩ := ih between.left (hleft ▸ hlt) state' rest between hbetween
        (he ▸ hdone) rfl
      exact ⟨last, hlast, hback value last hpost⟩
    · rcases loop_done hdone with hstop | ⟨state', between, hagain, hlt, hrest⟩
      · exact hturns cursor _ after hcursor hstop
      · obtain ⟨mid, hmid, hback⟩ := hturns cursor _ between hcursor hagain
        obtain ⟨last, hlast, hpost⟩ := ih between.left (hleft ▸ hlt) state' mid between hmid hrest rfl
        exact ⟨last, hlast, hback value last hpost⟩

theorem accepts_loop {turn : σ → Reader (Turn σ α)}
    (post : σ → List Char → α → List Char → Prop)
    (h : ∀ state chars, Accepts (turn state) chars fun done rest =>
      match done with
      | .stop value => post state chars value rest
      | .again state' => ∀ value last, post state' rest value last → post state chars value last)
    (state : σ) (chars : List Char) : Accepts (loop turn state) chars (post state chars) :=
  accepts_loop_of post (fun state chars => .inr (h state chars)) state chars

/-! Brackets. -/

theorem reads_enclosed {close : Reader Unit} {body : Reader (Except SchemaCause α)} {c : Char}
    {value : α} (hc : c.toNat < 0x80) (hbody : Reads body chars (.ok value) mid)
    (hclose : Reads close mid () rest) : Reads (enclosed close body) (c :: chars) value rest := by
  intro cursor hcursor
  rw [encode_cons_of_lt hc] at hcursor
  obtain ⟨between, hbetween, he⟩ := hbody cursor.advance (ahead_advance hcursor)
  have he' : body .text cursor.advance = .done (.ok value) between := he
  have hclosed : Reads (do close; pure value : Reader α) mid value rest :=
    Reads.bind hclose (LeadsTo.refl _ _)
  obtain ⟨after, hafter, hdone⟩ := hclosed between hbetween
  refine ⟨after, hafter, ?_⟩
  simp only [enclosed, he']
  exact hdone

theorem accepts_enclosed {close : Reader Unit} {body : Reader (Except SchemaCause α)} {c : Char}
    {post : α → List Char → Prop} (hc : c.toNat < 0x80)
    (h : Accepts body chars fun result rest => ∀ value, result = .ok value →
      Accepts close rest fun _ last => post value last) :
    Accepts (enclosed close body) (c :: chars) post := by
  intro cursor value after hcursor hdone
  rw [encode_cons_of_lt hc] at hcursor
  cases hbody : body .text cursor.advance with
  | failed fault between => simp [enclosed, hbody] at hdone
  | done result between =>
    obtain ⟨mid, hmid, hpost⟩ := h cursor.advance result between (ahead_advance hcursor) hbody
    cases result with
    | error cause =>
      simp only [enclosed, hbody] at hdone
      exact absurd hdone (refuses_mismatch _).not_done
    | ok read =>
      simp only [enclosed, hbody] at hdone
      have hclosed : Accepts (do close; pure read : Reader α) mid post :=
        Accepts.bind ((hpost read rfl).mono fun _ _ hlast => accepts_pure hlast)
      exact hclosed between value after hmid hdone

end Reader

end ShaderBinding
