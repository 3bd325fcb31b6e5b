import ShaderBinding.Proofs.Json.Lexemes
import ShaderBinding.Proofs.Json.Outcomes

/-! Runs that fail before a text. Few readers find fault with the shape of a value; the others can
only find the text itself at fault. -/

namespace ShaderBinding

/-- A fault that a text can have. It is one of shape only where shapes are looked at. -/
inductive Fault.OfText (shapes : Bool) : Fault → Prop
  | parse (cause : ParseCause) (place : Place) : OfText shapes (.parse cause place)
  | schema (cause : SchemaCause) (place : Place) :
      shapes = true → OfText shapes (.schema cause place)

namespace Reader

variable {α β σ : Type} {first second : Reader α} {next : α → Reader β} {chars mid rest : List Char}
  {cause : SchemaCause} {shapes : Bool}

def Faults (shapes : Bool) (reader : Reader α) : Prop :=
  ∀ cursor fault after, reader .text cursor = .failed fault after → fault.OfText shapes

theorem Faults.bind (h : Faults shapes first) (h' : ∀ value, Faults shapes (next value)) :
    Faults shapes (first >>= next) := by
  intro cursor fault after hfailed
  rw [bind_apply] at hfailed
  cases hfirst : first .text cursor with
  | done value between =>
    rw [hfirst] at hfailed
    exact h' value between fault after hfailed
  | failed fault between =>
    rw [hfirst] at hfailed
    obtain ⟨rfl, rfl⟩ := Outcome.failed.inj hfailed
    exact h cursor fault between hfirst

theorem faults_pure (value : α) : Faults shapes (pure value : Reader α) := by
  rintro _ _ _ ⟨⟩

theorem faults_eat : Faults shapes eat := by
  rintro _ _ _ ⟨⟩

theorem faults_refuseNext (cause : ParseCause) : Faults shapes (refuseNext cause : Reader α) := by
  rintro _ _ _ ⟨⟩
  exact .parse _ _

theorem Built.faults {reader : Reader α} (h : Built shapes reader) : Faults shapes reader := by
  intro cursor fault after hfailed
  have hrun := h.sound .text cursor
  rw [hfailed] at hrun
  cases hrun.fault_of with
  | stream hdelivery => cases hdelivery
  | parse cause _ => exact .parse cause _
  | schema cause hshapes _ => exact .schema cause _ hshapes

theorem Faults.not_failed (h : Faults false first) (cursor : Cursor) (cause : SchemaCause)
    (place : Place) (after : Cursor) :
    first .text cursor ≠ .failed (.schema cause place) after := by
  intro hfailed
  cases h cursor _ after hfailed with
  | schema _ _ hshapes => cases hshapes

/-! What a reader finds to be a misfit. -/

/-- Whatever a reader finds to be a misfit meets a condition on the cause. -/
def Blames (reader : Reader α) (chars : List Char) (post : SchemaCause → Prop) : Prop :=
  ∀ cursor cause place after, cursor.ahead = Utf8.encode chars →
    reader .text cursor = .failed (.schema cause place) after → post cause

theorem Faults.blames {post : SchemaCause → Prop} (h : Faults false first) :
    Blames first chars post :=
  fun cursor cause place after _ hfailed => absurd hfailed (h.not_failed cursor cause place after)

theorem Blames.mono {post post' : SchemaCause → Prop} (h : Blames first chars post)
    (himp : ∀ cause, post cause → post' cause) : Blames first chars post' :=
  fun cursor cause place after hcursor hfailed =>
    himp cause (h cursor cause place after hcursor hfailed)

theorem Blames.bind {post : SchemaCause → Prop} (h : Blames first chars post)
    (h' : Accepts first chars fun value rest => Blames (next value) rest post) :
    Blames (first >>= next) chars post := by
  intro cursor cause place after hcursor hfailed
  rw [bind_apply] at hfailed
  cases hfirst : first .text cursor with
  | done value between =>
    rw [hfirst] at hfailed
    obtain ⟨rest, hrest, hnext⟩ := h' cursor value between hcursor hfirst
    exact hnext between cause place after hrest hfailed
  | failed fault between =>
    rw [hfirst] at hfailed
    obtain ⟨rfl, rfl⟩ := Outcome.failed.inj hfailed
    exact h cursor cause place between hcursor hfirst

theorem Blames.bind_faults {post : SchemaCause → Prop} (h : Blames first chars post)
    (h' : ∀ value, Faults false (next value)) : Blames (first >>= next) chars post := by
  intro cursor cause place after hcursor hfailed
  rw [bind_apply] at hfailed
  cases hfirst : first .text cursor with
  | done value between =>
    rw [hfirst] at hfailed
    exact absurd hfailed ((h' value).not_failed between cause place after)
  | failed fault between =>
    rw [hfirst] at hfailed
    obtain ⟨rfl, rfl⟩ := Outcome.failed.inj hfailed
    exact h cursor cause place between hcursor hfirst

/-- A reader that looks at no shapes passes over what is before the misfit. -/
theorem Faults.blames_bind {post : SchemaCause → Prop} (h : Faults false first)
    (h' : Accepts first chars fun value rest => Blames (next value) rest post) :
    Blames (first >>= next) chars post :=
  h.blames.bind h'

theorem LeadsTo.blames {post : SchemaCause → Prop} (h : LeadsTo first chars second rest)
    (h' : Blames second rest post) : Blames first chars post := by
  intro cursor cause place after hcursor hfailed
  obtain ⟨between, hbetween, he⟩ := h cursor hcursor
  exact h' between cause place after hbetween (he ▸ hfailed)

theorem Reads.blames_bind {post : SchemaCause → Prop} {value : α}
    (h : Reads first chars value mid) (h' : Blames (next value) mid post) :
    Blames (first >>= next) chars post :=
  LeadsTo.blames (LeadsTo.bind h next) h'

theorem blames_mismatch {post : SchemaCause → Prop} (h : post cause) :
    Blames (mismatch cause : Reader α) chars post := by
  rintro cursor _ _ _ _ ⟨⟩
  exact h

/-- What holds of a misfit in the next turn goes back over every turn that another follows. -/
theorem blames_loop {turn : σ → Reader (Turn σ α)} (post : σ → List Char → SchemaCause → Prop)
    (h : ∀ state chars, Blames (turn state) chars (post state chars))
    (h' : ∀ state chars, Accepts (turn state) chars fun done rest => ∀ state',
      done = .again state' → ∀ cause, post state' rest cause → post state chars cause)
    (state : σ) (chars : List Char) : Blames (loop turn state) chars (post state chars) := by
  intro cursor cause place after hcursor hfailed
  generalize hleft : cursor.left = left
  induction left using Nat.strongRecOn generalizing state chars cursor with
  | ind left ih =>
    rw [loop] at hfailed
    cases hturn : turn state .text cursor with
    | failed fault between =>
      rw [hturn] at hfailed
      obtain ⟨rfl, rfl⟩ := Outcome.failed.inj hfailed
      exact h state chars cursor cause place between hcursor hturn
    | done turned between =>
      obtain ⟨rest, hrest, hback⟩ := h' state chars cursor turned between hcursor hturn
      rw [hturn] at hfailed
      cases turned with
      | stop value => cases hfailed
      | again state' =>
        dsimp only at hfailed
        split at hfailed
        · rename_i hlt
          exact hback state' rfl cause
            (ih between.left (hleft ▸ hlt) state' rest between hrest hfailed rfl)
        · cases hfailed

/-- The misfit of a body is found while it is read, or it is what the body comes to. -/
theorem blames_enclosed {close : Reader Unit} {body : Reader (Except SchemaCause α)} {c : Char}
    {post : SchemaCause → Prop} (hc : c.toNat < 0x80) (hclose : Faults false close)
    (h : Blames body chars post)
    (h' : Accepts body chars fun result _ => ∀ cause, result = .error cause → post cause) :
    Blames (enclosed close body) (c :: chars) post := by
  intro cursor cause place after hcursor hfailed
  rw [encode_cons_of_lt hc] at hcursor
  have hahead := ahead_advance hcursor
  rw [enclosed] at hfailed
  cases hbody : body .text cursor.advance with
  | failed fault between =>
    rw [hbody] at hfailed
    obtain ⟨rfl, _⟩ := Outcome.failed.inj hfailed
    exact h cursor.advance cause place between hahead hbody
  | done result between =>
    rw [hbody] at hfailed
    cases result with
    | error found =>
      obtain ⟨_, _, hpost⟩ := h' cursor.advance (.error found) between hahead hbody
      obtain ⟨hfault, _⟩ := Outcome.failed.inj hfailed
      obtain ⟨rfl, _⟩ := Fault.schema.inj hfault
      exact hpost found rfl
    | ok value =>
      have hend : Faults false (do close; pure value : Reader α) :=
        hclose.bind fun _ => faults_pure value
      exact absurd hfailed (hend.not_failed between cause place after)

theorem blames_if {a c : Char} {yes no : Reader α} {post : SchemaCause → Prop} (ha : a.toNat < 0x80)
    (hyes : c = a → Blames yes chars post) (hno : c ≠ a → Blames no chars post) :
    Blames (if lead c = byte a then yes else no) chars post := by
  by_cases hc : c = a
  · rw [if_pos ((lead_eq_byte_iff ha).mpr hc)]
    exact hyes hc
  · rw [if_neg (fun he => hc ((lead_eq_byte_iff ha).mp he))]
    exact hno hc

theorem blames_token {next : Option UInt8 → Reader α} {post : SchemaCause → Prop}
    (hnone : Faults false (next none))
    (hsome : ∀ c rest, Json.Blanks chars (c :: rest) →
      Blames (next (some (lead c))) (c :: rest) post) :
    Blames (token >>= next) chars post := by
  obtain ⟨rest, hrest, hhead⟩ := Json.exists_blanks chars
  cases rest with
  | nil => exact (reads_token_nil hrest).blames_bind hnone.blames
  | cons c rest => exact (reads_token_cons hrest (hhead c rfl)).blames_bind (hsome c rest hrest)

theorem blames_valueStart {next : UInt8 → Reader α} {post : SchemaCause → Prop}
    (h : ∀ c rest, Json.Blanks chars (c :: rest) → Blames (next (lead c)) (c :: rest) post) :
    Blames (valueStart >>= next) chars post := by
  have hstart : Accepts valueStart chars fun b rest =>
      ∃ c more, rest = c :: more ∧ b = lead c ∧ Json.Blanks chars rest :=
    accepts_token_some (refuses_refuseNext _)
      fun c rest hblanks _ => accepts_pure ⟨c, rest, rfl, rfl, hblanks⟩
  refine built_valueStart.faults.blames_bind (hstart.mono ?_)
  rintro _ _ ⟨c, rest, rfl, rfl, hblanks⟩
  exact h c rest hblanks

/-! Runs that are known to fail. -/

variable {why : Place → Fault}

/-- Every run before some characters fails, with a fault that is known up to its place. -/
def Fails (reader : Reader α) (chars : List Char) (why : Place → Fault) : Prop :=
  ∀ cursor : Cursor, cursor.ahead = Utf8.encode chars →
    ∃ place after, reader .text cursor = .failed (why place) after

theorem LeadsTo.fails (h : LeadsTo first chars second rest) (h' : Fails second rest why) :
    Fails first chars why := by
  intro cursor hcursor
  obtain ⟨between, hbetween, he⟩ := h cursor hcursor
  obtain ⟨place, after, hfailed⟩ := h' between hbetween
  exact ⟨place, after, he.trans hfailed⟩

theorem Fails.bind (h : Fails first chars why) (next : α → Reader β) :
    Fails (first >>= next) chars why := by
  intro cursor hcursor
  obtain ⟨place, after, hfailed⟩ := h cursor hcursor
  exact ⟨place, after, by rw [bind_apply, hfailed]⟩

theorem Reads.fails_bind {value : α} (h : Reads first chars value mid)
    (h' : Fails (next value) mid why) : Fails (first >>= next) chars why :=
  LeadsTo.fails (LeadsTo.bind h next) h'

theorem fails_mismatch (cause : SchemaCause) (chars : List Char) :
    Fails (mismatch cause : Reader α) chars (.schema cause) :=
  fun _ _ => ⟨_, _, rfl⟩

theorem fails_refuse (cause : ParseCause) (chars : List Char) :
    Fails (refuse cause : Reader α) chars (.parse cause) :=
  fun _ _ => ⟨_, _, rfl⟩

theorem fails_refuseNext (cause : ParseCause) (chars : List Char) :
    Fails (refuseNext cause : Reader α) chars (.parse cause) :=
  fun _ _ => ⟨_, _, rfl⟩

theorem fails_loop {turn : σ → Reader (Turn σ α)} {state : σ}
    (h : Fails (turn state) chars why) : Fails (loop turn state) chars why := by
  intro cursor hcursor
  obtain ⟨place, after, hfailed⟩ := h cursor hcursor
  exact ⟨place, after, by rw [loop, hfailed]⟩

theorem fails_if_pos {a : Char} {yes no : Reader α} (ha : a.toNat < 0x80)
    (h : Fails yes chars why) : Fails (if lead a = byte a then yes else no) chars why := by
  rwa [if_pos (lead_of_lt ha)]

theorem fails_if_neg {a c : Char} {yes no : Reader α} (ha : a.toNat < 0x80) (hc : c ≠ a)
    (h : Fails no chars why) : Fails (if lead c = byte a then yes else no) chars why := by
  rwa [if_neg (fun he => hc ((lead_eq_byte_iff ha).mp he))]

variable {close : Reader Unit} {body body' : Reader (Except SchemaCause α)} {c : Char}

/-- What a body fails with is not changed by the closing bracket. -/
theorem Fails.enclosed (hc : c.toNat < 0x80) (h : Fails body chars why) :
    Fails (enclosed close body) (c :: chars) why := by
  intro cursor hcursor
  rw [encode_cons_of_lt hc] at hcursor
  obtain ⟨place, after, hfailed⟩ := h cursor.advance (ahead_advance hcursor)
  exact ⟨place, _, by rw [Reader.enclosed, hfailed]⟩

theorem Reads.fails_enclosed {value : α} (hc : c.toNat < 0x80)
    (h : Reads body chars (.ok value) mid) (h' : Fails close mid why) :
    Fails (Reader.enclosed close body) (c :: chars) why := by
  intro cursor hcursor
  rw [encode_cons_of_lt hc] at hcursor
  obtain ⟨between, hbetween, he⟩ := h cursor.advance (ahead_advance hcursor)
  have hdone : body .text cursor.advance = .done (.ok value) between := he
  obtain ⟨place, after, hfailed⟩ := h'.bind (fun _ => pure value) between hbetween
  exact ⟨place, after, by rw [Reader.enclosed, hdone]; exact hfailed⟩

/-- Inside brackets a misfit is what the body comes to, or what it fails with. -/
def BodyMisfits (body : Reader (Except SchemaCause α)) (chars : List Char)
    (cause : SchemaCause) : Prop :=
  ∀ cursor : Cursor, cursor.ahead = Utf8.encode chars →
    (∃ after, body .text cursor = .done (.error cause) after) ∨
      ∃ place after, body .text cursor = .failed (.schema cause place) after

theorem BodyMisfits.enclosed (hc : c.toNat < 0x80) (h : BodyMisfits body chars cause) :
    Fails (Reader.enclosed close body) (c :: chars) (.schema cause) := by
  intro cursor hcursor
  rw [encode_cons_of_lt hc] at hcursor
  rcases h cursor.advance (ahead_advance hcursor) with ⟨after, hdone⟩ | ⟨place, after, hfailed⟩
  · exact ⟨_, _, by rw [Reader.enclosed, hdone]; rfl⟩
  · exact ⟨place, _, by rw [Reader.enclosed, hfailed]⟩

theorem Fails.bodyMisfits (h : Fails body chars (.schema cause)) : BodyMisfits body chars cause :=
  fun cursor hcursor => .inr (h cursor hcursor)

theorem Reads.bodyMisfits (h : Reads body chars (.error cause) rest) :
    BodyMisfits body chars cause := by
  intro cursor hcursor
  obtain ⟨after, _, hdone⟩ := h cursor hcursor
  exact .inl ⟨after, hdone⟩

theorem LeadsTo.bodyMisfits (h : LeadsTo body chars body' rest)
    (h' : BodyMisfits body' rest cause) : BodyMisfits body chars cause := by
  intro cursor hcursor
  obtain ⟨between, hbetween, he⟩ := h cursor hcursor
  rw [he]
  exact h' between hbetween

end Reader

end ShaderBinding
