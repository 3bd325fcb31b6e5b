import ShaderBinding.Table.Reader

/-! Every reader is put together from single steps. What holds of the steps, and is kept when steps
are put together, then holds of the reader of tables, whatever its input is. -/

namespace ShaderBinding

namespace Reader

variable {α β σ : Type} {shapes : Bool}

/-- A reader that first asks for a byte, so that a stream that fails at its end is noticed there. -/
def Asks (reader : Reader α) : Prop :=
  ∀ fault cursor, cursor.ahead = [] →
    ∃ after, reader (.stream (some fault)) cursor = .failed (.stream fault) after

/-- Where a stream has failed, no turn of a loop is followed by another. -/
def Waits (turn : Reader (Turn σ α)) : Prop :=
  ∀ fault cursor, cursor.ahead = [] → ∀ state after,
    turn (.stream (some fault)) cursor ≠ .done (.again state) after

theorem asks_look : Asks look := by
  intro fault cursor hend
  exact ⟨cursor, by simp only [look, hend]⟩

theorem Asks.bind {first : Reader α} (h : Asks first) (next : α → Reader β) :
    Asks (first >>= next) := by
  intro fault cursor hend
  obtain ⟨after, hfailed⟩ := h fault cursor hend
  exact ⟨after, by simp only [Bind.bind, hfailed]⟩

theorem Asks.waits {turn : Reader (Turn σ α)} (h : Asks turn) : Waits turn := by
  intro fault cursor hend state after hdone
  obtain ⟨_, hfailed⟩ := h fault cursor hend
  rw [hfailed] at hdone
  cases hdone

theorem Asks.loop {turn : σ → Reader (Turn σ α)} {state : σ} (h : Asks (turn state)) :
    Asks (Reader.loop turn state) := by
  intro fault cursor hend
  obtain ⟨after, hfailed⟩ := h fault cursor hend
  exact ⟨after, by rw [Reader.loop, hfailed]⟩

theorem asks_token : Asks token := (asks_look.bind _).loop

theorem asks_next : Asks next := asks_look.bind _

theorem asks_stringByte : Asks stringByte := asks_next.bind _

theorem asks_plainByte : Asks plainByte := asks_look.bind _

theorem asks_valueStart : Asks valueStart := asks_token.bind _

theorem asks_hasElement (first : Bool) : Asks (hasElement first) := asks_token.bind _

theorem asks_hasMember (first : Bool) : Asks (hasMember first) := asks_token.bind _

theorem asks_skipStart : Asks skipStart := asks_valueStart.bind _

/-- Readers by what they are put together from. The flag says whether they may find fault with the
shape of a value, which only few of them do. -/
inductive Built (shapes : Bool) : {α : Type} → Reader α → Prop
  | pure {α : Type} (value : α) : Built shapes (Pure.pure value : Reader α)
  | bind {α β : Type} {first : Reader α} {next : α → Reader β} :
      Built shapes first → (∀ value, Built shapes (next value)) → Built shapes (first >>= next)
  | look : Built shapes look
  | eat : Built shapes eat
  | refuse {α : Type} (cause : ParseCause) : Built shapes (Reader.refuse cause : Reader α)
  | refuseNext {α : Type} (cause : ParseCause) : Built shapes (Reader.refuseNext cause : Reader α)
  | refuseBack {α : Type} (cause : ParseCause) (bytes : Nat) :
      Built shapes (Reader.refuseBack cause bytes : Reader α)
  | mismatch {α : Type} (cause : SchemaCause) :
      shapes = true → Built shapes (Reader.mismatch cause : Reader α)
  | loop {σ α : Type} {turn : σ → Reader (Turn σ α)} (state : σ) :
      (∀ state, Built shapes (turn state)) → (∀ state, Waits (turn state)) →
      Built shapes (Reader.loop turn state)
  | enclosed {α : Type} {close : Reader Unit} {body : Reader (Except SchemaCause α)} :
      shapes = true → Built shapes close → Built shapes body →
      Built shapes (Reader.enclosed close body)
  | plainByte : Built shapes plainByte
  | listEnd : Built shapes token → Built shapes listEnd

theorem Built.map {reader : Reader α} (h : Built shapes reader) (f : α → β) :
    Built shapes (f <$> reader) :=
  .bind h fun value => .pure (f value)

theorem built_next : Built shapes next :=
  .bind .look fun _ => .bind .eat fun _ => .pure _

/-! Tokens. -/

theorem built_token : Built shapes token := by
  refine .loop () (fun _ => .bind .look fun next => ?_) fun _ => (asks_look.bind _).waits
  split
  · exact .pure _
  · split
    · exact .bind .eat fun _ => .pure _
    · exact .pure _

theorem built_valueStart : Built shapes valueStart := by
  refine .bind built_token fun next => ?_
  split
  · exact .pure _
  · exact .refuseNext _

theorem built_word (letters : List Char) : Built shapes (word letters) := by
  induction letters with
  | nil => exact .pure _
  | cons c letters ih =>
    refine .bind built_next fun next => ?_
    split
    · exact .refuse _
    · split
      · exact ih
      · exact .refuse _

theorem built_colon : Built shapes colon := by
  refine .bind built_token fun next => ?_
  split
  · exact .refuseNext _
  · split
    · exact .eat
    · exact .refuseNext _

theorem built_comma (bracket : Part) (b : UInt8) : Built shapes (comma bracket b) := by
  unfold comma
  split
  · exact .eat
  · exact .refuseNext _

theorem built_hasElement (first : Bool) : Built shapes (hasElement first) := by
  refine .bind built_token fun next => ?_
  split
  · exact .refuseNext _
  · split
    · exact .pure _
    · split
      · exact .pure _
      · refine .bind (built_comma _ _) fun _ => .bind built_token fun next => ?_
        split
        · exact .refuseNext _
        · split
          · exact .refuseNext _
          · exact .pure _

theorem built_keyStart (b : UInt8) : Built shapes (keyStart b) := by
  unfold keyStart
  split
  · exact .pure _
  · exact .refuseNext _

theorem built_hasMember (first : Bool) : Built shapes (hasMember first) := by
  refine .bind built_token fun next => ?_
  split
  · exact .refuseNext _
  · split
    · exact .pure _
    · split
      · exact .bind (built_keyStart _) fun _ => .pure _
      · refine .bind (built_comma _ _) fun _ => .bind built_token fun next => ?_
        split
        · exact .refuseNext _
        · split
          · exact .refuseNext _
          · exact .bind (built_keyStart _) fun _ => .pure _

theorem built_listEnd : Built shapes listEnd := .listEnd built_token

theorem built_objectEnd : Built shapes objectEnd := by
  refine .bind built_token fun next => ?_
  split
  · exact .refuseNext _
  · split
    · exact .eat
    · split
      · exact .refuseNext _
      · exact .refuseNext _

/-! Strings. -/

theorem built_stringByte : Built shapes stringByte := by
  refine .bind built_next fun next => ?_
  split
  · exact .pure _
  · exact .refuse _

theorem built_hexUnit : Built shapes hexUnit := by
  refine .bind built_stringByte fun _ => .bind built_stringByte fun _ => ?_
  refine .bind built_stringByte fun _ => .bind built_stringByte fun _ => ?_
  split
  · exact .pure _
  · exact .refuse _

theorem built_pairByte (c : Char) : Built shapes (pairByte c) := by
  refine .bind built_stringByte fun _ => ?_
  split
  · exact .pure _
  · exact .refuse _

theorem built_hexEscape : Built shapes hexEscape := by
  refine .bind built_hexUnit fun unit => ?_
  split
  · exact .refuse _
  · split
    · refine .bind (built_pairByte _) fun _ => .bind (built_pairByte _) fun _ => ?_
      refine .bind built_hexUnit fun second => ?_
      split
      · exact .pure _
      · exact .refuse _
    · exact .pure _

theorem built_escape : Built shapes escape := by
  refine .bind built_stringByte fun _ => ?_
  split
  · exact built_hexEscape
  · split
    · exact .pure _
    · exact .refuse _

theorem built_string : Built shapes string := by
  refine .bind (.loop [] (fun collected => .bind built_stringByte fun _ => ?_)
    fun _ => (asks_stringByte.bind _).waits) fun bytes => ?_
  · split
    · exact .pure _
    · split
      · exact .bind built_escape fun _ => .pure _
      · split
        · exact .refuse _
        · exact .pure _
  · split
    · exact .pure _
    · exact .refuseBack _ _

/-! Numbers. -/

theorem built_skipDigitsFrom (count : Nat) : Built shapes (loop skipDigitsTurn count) := by
  refine .loop count (fun count => .bind .look fun next => ?_) fun _ => (asks_look.bind _).waits
  split
  · exact .pure _
  · split
    · exact .bind .eat fun _ => .pure _
    · exact .pure _

theorem built_skipDigits : Built shapes skipDigits := built_skipDigitsFrom 0

theorem built_gatherDigits (start : Nat) : Built shapes (gatherDigits start) := by
  refine .loop (start, 0) (fun ⟨whole, count⟩ => .bind .look fun next => ?_)
    fun _ => (asks_look.bind _).waits
  split
  · exact .pure _
  · split
    · exact .bind .eat fun _ => .pure _
    · exact .pure _

theorem built_double (negative : Bool) (whole : Nat) (power : Int) :
    Built shapes (double negative whole power) := by
  unfold double
  split
  · exact .pure _
  · exact .refuse _

theorem built_exponentDigits (first : Nat) : Built shapes (exponentDigits first) := by
  refine .loop first (fun exponent => .bind .look fun next => ?_)
    fun _ => (asks_look.bind _).waits
  split
  · exact .pure _
  · split
    · refine .bind .eat fun _ => ?_
      dsimp only
      split
      · exact .pure _
      · exact .pure _
    · exact .pure _

theorem built_exponentSign : Built shapes exponentSign := by
  refine .bind .look fun next => ?_
  split
  · split
    · exact .bind .eat fun _ => .pure _
    · split
      · exact .bind .eat fun _ => .pure _
      · exact .pure _
  · exact .pure _

theorem built_exponent (negative : Bool) (whole : Nat) (power : Int) :
    Built shapes (exponent negative whole power) := by
  refine .bind .eat fun _ => .bind built_exponentSign fun _ => .bind built_next fun next => ?_
  split
  · exact .refuse _
  · split
    · refine .bind (built_exponentDigits _) fun size => ?_
      split
      · exact built_double _ _ _
      · split
        · exact .refuse _
        · exact .bind built_skipDigits fun _ => .pure _
    · exact .refuse _

theorem built_scaled (negative : Bool) (whole : Nat) (power : Int) :
    Built shapes (scaled negative whole power) := by
  refine .bind .look fun next => ?_
  split
  · split
    · exact built_exponent _ _ _
    · exact built_double _ _ _
  · exact built_double _ _ _

theorem built_fraction (negative : Bool) (whole : Nat) (power : Int) :
    Built shapes (fraction negative whole power) := by
  refine .bind .eat fun _ => .bind (built_gatherDigits _) fun ⟨whole, count⟩ => ?_
  refine .bind built_skipDigits fun dropped => ?_
  split
  · refine .bind .look fun next => ?_
    split
    · exact .refuseNext _
    · exact .refuseNext _
  · exact built_scaled _ _ _

theorem built_integer (negative : Bool) (whole : Nat) : Built shapes (integer negative whole) := by
  unfold integer
  split
  · exact .pure _
  · split
    · exact .pure _
    · exact built_double _ _ _

theorem built_afterWhole (negative : Bool) (whole dropped : Nat) :
    Built shapes (afterWhole negative whole dropped) := by
  have hplain : Built shapes (afterWhole.plain negative whole dropped) := by
    unfold afterWhole.plain
    split
    · exact built_integer _ _
    · exact built_double _ _ _
  refine .bind .look fun next => ?_
  split
  · split
    · exact built_fraction _ _ _
    · split
      · exact built_exponent _ _ _
      · exact hplain
  · exact hplain

theorem built_number (negative : Bool) : Built shapes (number negative) := by
  refine .bind built_next fun next => ?_
  split
  · exact .refuse _
  · split
    · refine .bind .look fun next => ?_
      split
      · split
        · exact .refuseNext _
        · exact built_afterWhole _ _ _
      · exact built_afterWhole _ _ _
    · split
      · refine .bind (built_gatherDigits _) fun ⟨whole, _⟩ => ?_
        exact .bind built_skipDigits fun _ => built_afterWhole _ _ _
      · exact .refuse _

/-! Values that are passed over. -/

theorem built_skipEscape : Built shapes skipEscape := by
  refine .bind built_stringByte fun _ => ?_
  split
  · exact .bind built_hexUnit fun _ => .pure _
  · split
    · exact .pure _
    · exact .refuse _

theorem built_skipString : Built shapes skipString := by
  refine .loop () (fun _ => .bind .plainByte fun _ => ?_) fun _ => (asks_plainByte.bind _).waits
  split
  · exact .pure _
  · split
    · exact .bind built_skipEscape fun _ => .pure _
    · exact .pure _

theorem built_skipExponent : Built shapes skipExponent := by
  refine .bind .look fun next => ?_
  split
  · exact .pure _
  · split
    · refine .bind .eat fun _ => .bind built_exponentSign fun _ => .bind built_next fun next => ?_
      split
      · exact .refuse _
      · split
        · exact .bind built_skipDigits fun _ => .pure _
        · exact .refuse _
    · exact .pure _

theorem built_skipFraction : Built shapes skipFraction := by
  refine .bind .look fun next => ?_
  split
  · exact .pure _
  · split
    · refine .bind .eat fun _ => .bind built_skipDigits fun count => ?_
      split
      · exact .refuseNext _
      · exact built_skipExponent
    · exact built_skipExponent

theorem built_skipNumber : Built shapes skipNumber := by
  refine .bind built_next fun next => ?_
  split
  · exact .refuse _
  · split
    · refine .bind .look fun next => ?_
      split
      · split
        · exact .refuseNext _
        · exact built_skipFraction
      · exact built_skipFraction
    · split
      · exact .bind built_skipDigits fun _ => built_skipFraction
      · exact .refuse _

theorem built_skipStart : Built shapes skipStart := by
  have hleaf : ∀ {rest : Reader Unit}, Built shapes rest → Built shapes (skipStart.leaf rest) :=
    fun h => .bind .eat fun _ => .bind h fun _ => .pure _
  refine .bind built_valueStart fun b => ?_
  repeat' split
  · exact hleaf (built_word _)
  · exact hleaf (built_word _)
  · exact hleaf (built_word _)
  · exact hleaf built_skipNumber
  · exact .bind built_skipNumber fun _ => .pure _
  · exact hleaf built_skipString
  · exact .bind .eat fun _ => .pure _
  · exact .bind .eat fun _ => .pure _
  · exact .refuseNext _

theorem built_closeBrackets (brackets : List Bracket) (fresh : Bool) :
    Built shapes (closeBrackets brackets fresh) := by
  have hwaits : ∀ state, Waits (closeTurn state) := by
    rintro ⟨brackets, fresh⟩
    cases brackets with
    | nil => exact fun _ _ _ _ _ => nofun
    | cons top rest => exact (asks_token.bind _).waits
  refine .loop (brackets, fresh) (fun ⟨brackets, fresh⟩ => ?_) hwaits
  cases brackets with
  | nil => exact .pure _
  | cons top rest =>
    refine .bind built_token fun next => ?_
    split
    · exact .refuseNext _
    · split
      · exact .bind .eat fun _ => .pure _
      · split
        · exact .pure _
        · exact .bind (built_comma _ _) fun _ => .pure _

theorem built_skipKey : Built shapes skipKey := by
  refine .bind built_token fun next => ?_
  split
  · exact .refuseNext _
  · refine .bind (built_keyStart _) fun _ => .bind .eat fun _ => ?_
    exact .bind built_skipString fun _ => built_colon

theorem built_skipValue : Built shapes skipValue := by
  refine .loop [] (fun brackets => .bind built_skipStart fun opened => ?_)
    fun _ => (asks_skipStart.bind _).waits
  refine .bind (built_closeBrackets _ _) fun left => ?_
  split
  · exact .pure _
  · exact .pure _
  · exact .bind built_skipKey fun _ => .pure _

/-! Tables. -/

theorem built_found (b : UInt8) : Built shapes (found b) := by
  have hleaf : ∀ value letters, Built shapes (found.leaf value letters) :=
    fun _ _ => .bind .eat fun _ => .bind (built_word _) fun _ => .pure _
  unfold found
  repeat' split
  · exact hleaf _ _
  · exact hleaf _ _
  · exact hleaf _ _
  · exact .bind .eat fun _ => (built_number true).map _
  · exact (built_number false).map _
  · exact .bind .eat fun _ => built_string.map _
  · exact .pure _
  · exact .pure _
  · exact .refuseNext _

theorem built_refuseShape (expected : Expected) (b : UInt8) :
    Built true (refuseShape expected b : Reader α) :=
  .bind (built_found b) fun _ => .mismatch _ rfl

theorem built_symbol : Built true symbol := by
  refine .bind built_token fun next => ?_
  split
  · exact .refuseNext _
  · split
    · exact .bind .eat fun _ => .bind (built_word _) fun _ => .pure _
    · split
      · exact .bind .eat fun _ => built_string.map _
      · exact built_refuseShape _ _

theorem built_members : Built true members := by
  refine .loop (true, []) (fun ⟨first, members⟩ => .bind (built_hasMember first) fun more => ?_)
    fun ⟨first, members⟩ => ((asks_hasMember first).bind _).waits
  split
  · refine .bind .eat fun _ => .bind built_string fun key => ?_
    split
    · split
      · exact .pure _
      · exact .bind built_colon fun _ => .bind built_symbol fun _ => .pure _
    · exact .bind built_colon fun _ => .bind built_skipValue fun _ => .pure _
  · exact .pure _

theorem built_fields (count : Nat) (stages : List Stage) (read : Members) :
    Built true (fields count stages read) := by
  induction stages generalizing count read with
  | nil => exact .pure _
  | cons stage stages ih =>
    refine .bind (built_hasElement _) fun more => ?_
    split
    · exact .bind built_symbol fun _ => ih _ _
    · exact .pure _

theorem built_record : Built true record := by
  refine .bind built_valueStart fun b => ?_
  split
  · exact (Built.enclosed rfl built_objectEnd built_members).map _
  · split
    · exact (Built.enclosed rfl built_listEnd (built_fields _ _ _)).map _
    · exact built_refuseShape _ _

theorem built_table : Built true table := by
  refine .bind built_valueStart fun b => ?_
  split
  · have hrecords : Built true records := by
      refine .loop [] (fun records => .bind (built_hasElement _) fun more => ?_)
        fun _ => ((asks_hasElement _).bind _).waits
      split
      · exact .bind built_record fun _ => .pure _
      · exact .pure _
    refine .bind (.enclosed rfl built_listEnd (hrecords.map _)) fun _ => .bind built_token fun next => ?_
    split
    · exact .pure _
    · exact .refuseNext _
  · exact built_refuseShape _ _

end Reader

end ShaderBinding
