import ShaderBinding.Proofs.Json.Built
import ShaderBinding.Proofs.Json.Continuation
import ShaderBinding.Proofs.Json.Run

/-! What a single run can come to. It does not change the input and does not go back; it fails with
the failure of its stream, or for a cause whose place lies in the input. -/

namespace ShaderBinding

/-- A place at which some first bytes of an input end. -/
def Place.IsIn (place : Place) (input : List UInt8) : Prop :=
  ∃ behind ahead, input = behind.reverse ++ ahead ∧ place = .after behind

/-- Going back stays on the line, and stops at its beginning. -/
theorem Place.IsIn.back {place : Place} {input : List UInt8} (h : place.IsIn input) (bytes : Nat) :
    (place.back bytes).IsIn input := by
  obtain ⟨behind, ahead, rfl, rfl⟩ := h
  induction bytes generalizing behind ahead with
  | zero => exact ⟨behind, ahead, rfl, rfl⟩
  | succ bytes ih =>
    -- Only a byte that ends no line can be given back.
    have hstay : (Place.after behind).column = 0 →
        ((Place.after behind).back (bytes + 1)).IsIn (behind.reverse ++ ahead) := by
      intro hcolumn
      exact ⟨behind, ahead, rfl, by rw [Place.back, hcolumn, Nat.zero_sub, ← hcolumn]⟩
    cases behind with
    | nil => exact hstay rfl
    | cons b behind =>
      by_cases hb : b = Place.lineBreak
      · exact hstay (by simp [Place.after, hb])
      · have hback : (Place.after (b :: behind)).back (bytes + 1) = (Place.after behind).back bytes := by
          simp [Place.after, Place.back, hb]
        rw [hback, List.reverse_cons, List.append_assoc]
        exact ih behind (b :: ahead)

namespace Cursor

theorem isIn_after (cursor : Cursor) : (Place.after cursor.behind).IsIn cursor.input :=
  ⟨cursor.behind, cursor.ahead, rfl, rfl⟩

theorem isIn_reach (cursor : Cursor) : (Place.after cursor.reach).IsIn cursor.input := by
  obtain ⟨behind, ahead, held, left, hleft⟩ := cursor
  cases ahead with
  | nil => exact ⟨behind, [], rfl, rfl⟩
  | cons b rest => exact ⟨b :: behind, rest, by simp [input], rfl⟩

theorem isIn_place (cursor : Cursor) (delivery : Delivery) :
    (cursor.place delivery).IsIn cursor.input := by
  cases delivery with
  | text => exact cursor.isIn_after
  | stream failure =>
    simp only [place]
    split
    · exact cursor.isIn_reach
    · exact cursor.isIn_after

theorem isIn_nextPlace (cursor : Cursor) (delivery : Delivery) :
    (cursor.nextPlace delivery).IsIn cursor.input := by
  cases delivery with
  | text => exact cursor.isIn_reach
  | stream failure => exact cursor.isIn_place (.stream failure)

/-- A point further on in the same input, or the same point. -/
structure Reaches (cursor after : Cursor) : Prop where
  input_eq : after.input = cursor.input
  left_le : after.left ≤ cursor.left

variable {cursor between after : Cursor}

theorem Reaches.refl (cursor : Cursor) : Reaches cursor cursor := ⟨rfl, Nat.le_refl _⟩

theorem Reaches.trans (h : Reaches cursor between) (h' : Reaches between after) :
    Reaches cursor after :=
  ⟨h'.input_eq.trans h.input_eq, Nat.le_trans h'.left_le h.left_le⟩

theorem reaches_advance (cursor : Cursor) : Reaches cursor cursor.advance :=
  ⟨cursor.input_advance, cursor.left_advance_le⟩

end Cursor

/-- The faults that a reader may find in an input. One of shape is found only where shapes are looked
at. -/
inductive Fault.Of (shapes : Bool) (delivery : Delivery) (input : List UInt8) : Fault → Prop
  | stream {fault : IoFault} : delivery = .stream (some fault) → Of shapes delivery input (.stream fault)
  | parse (cause : ParseCause) {place : Place} :
      place.IsIn input → Of shapes delivery input (.parse cause place)
  | schema (cause : SchemaCause) {place : Place} :
      shapes = true → place.IsIn input → Of shapes delivery input (.schema cause place)

/-- What a run from a cursor may come to. -/
inductive Outcome.From (shapes : Bool) (delivery : Delivery) (cursor : Cursor) {α : Type} :
    Outcome α → Prop
  | done (value : α) {after : Cursor} :
      cursor.Reaches after → From shapes delivery cursor (.done value after)
  | failed {fault : Fault} {after : Cursor} :
      cursor.Reaches after → fault.Of shapes delivery cursor.input →
        From shapes delivery cursor (.failed fault after)

namespace Outcome

variable {α : Type} {shapes : Bool} {delivery : Delivery} {cursor between after : Cursor}
  {outcome : Outcome α} {fault : Fault}

theorem From.reaches (h : outcome.From shapes delivery cursor) : cursor.Reaches outcome.cursor := by
  cases h with
  | done _ hreaches => exact hreaches
  | failed hreaches _ => exact hreaches

theorem From.fault_of (h : (.failed fault after : Outcome α).From shapes delivery cursor) :
    fault.Of shapes delivery cursor.input := by
  cases h with
  | failed _ hfault => exact hfault

/-- A run may begin with steps that succeed. -/
theorem From.prepend (hreaches : cursor.Reaches between)
    (h : outcome.From shapes delivery between) : outcome.From shapes delivery cursor := by
  cases h with
  | done value hafter => exact .done value (hreaches.trans hafter)
  | failed hafter hfault => exact .failed (hreaches.trans hafter) (hreaches.input_eq ▸ hfault)

end Outcome

namespace Reader

variable {α β σ : Type} {shapes : Bool}

def Sound (shapes : Bool) (reader : Reader α) : Prop :=
  ∀ delivery cursor, (reader delivery cursor).From shapes delivery cursor

theorem Sound.pure (value : α) : Sound shapes (Pure.pure value : Reader α) :=
  fun _ cursor => .done value (.refl cursor)

theorem Sound.bind {first : Reader α} {next : α → Reader β} (h : Sound shapes first)
    (h' : ∀ value, Sound shapes (next value)) : Sound shapes (first >>= next) := by
  intro delivery cursor
  rw [bind_apply]
  have hfirst := h delivery cursor
  cases hrun : first delivery cursor with
  | failed fault after =>
    rw [hrun] at hfirst
    exact .failed hfirst.reaches hfirst.fault_of
  | done value after =>
    rw [hrun] at hfirst
    exact .prepend hfirst.reaches (h' value delivery after)

theorem sound_look : Sound shapes look := by
  intro delivery cursor
  unfold look
  split
  · exact .done _ ⟨rfl, Nat.le_refl _⟩
  · split
    · exact .failed (.refl cursor) (.stream rfl)
    · exact .done _ (.refl cursor)

theorem sound_eat : Sound shapes eat := fun _ cursor => .done () cursor.reaches_advance

theorem sound_refuse (cause : ParseCause) : Sound shapes (refuse cause : Reader α) :=
  fun delivery cursor => .failed (.refl cursor) (.parse cause (cursor.isIn_place delivery))

theorem sound_refuseNext (cause : ParseCause) : Sound shapes (refuseNext cause : Reader α) :=
  fun delivery cursor => .failed (.refl cursor) (.parse cause (cursor.isIn_nextPlace delivery))

theorem sound_refuseBack (cause : ParseCause) (bytes : Nat) :
    Sound shapes (refuseBack cause bytes : Reader α) :=
  fun delivery cursor =>
    .failed (.refl cursor) (.parse cause ((cursor.isIn_place delivery).back bytes))

theorem sound_mismatch (hshapes : shapes = true) (cause : SchemaCause) :
    Sound shapes (mismatch cause : Reader α) :=
  fun delivery cursor => .failed (.refl cursor) (.schema cause hshapes (cursor.isIn_place delivery))

theorem Sound.loop {turn : σ → Reader (Turn σ α)} (h : ∀ state, Sound shapes (turn state))
    (state : σ) : Sound shapes (Reader.loop turn state) := by
  intro delivery cursor
  generalize hleft : cursor.left = left
  induction left using Nat.strongRecOn generalizing state cursor with
  | ind left ih =>
    rw [Reader.loop]
    have hturn := h state delivery cursor
    cases hrun : turn state delivery cursor with
    | failed fault after =>
      rw [hrun] at hturn
      exact .failed hturn.reaches hturn.fault_of
    | done turned after =>
      rw [hrun] at hturn
      cases turned with
      | stop value => exact .done value hturn.reaches
      | again state' =>
        dsimp only
        split
        · rename_i hlt
          exact .prepend hturn.reaches (ih after.left (hleft ▸ hlt) state' after rfl)
        · exact .prepend hturn.reaches (sound_refuse _ delivery after)

theorem Sound.enclosed {close : Reader Unit} {body : Reader (Except SchemaCause α)}
    (hshapes : shapes = true) (hclose : Sound shapes close) (hbody : Sound shapes body) :
    Sound shapes (Reader.enclosed close body) := by
  intro delivery cursor
  refine .prepend cursor.reaches_advance ?_
  simp only [Reader.enclosed]
  have hrun := hbody delivery cursor.advance
  cases hresult : body delivery cursor.advance with
  | failed fault after =>
    rw [hresult] at hrun
    exact .failed (hrun.reaches.trans (hclose delivery after).reaches) hrun.fault_of
  | done result after =>
    rw [hresult] at hrun
    refine .prepend hrun.reaches ?_
    cases result with
    | error cause =>
      exact .prepend (hclose delivery after).reaches (sound_mismatch hshapes cause delivery _)
    | ok value => exact hclose.bind (fun _ => .pure value) delivery after

theorem sound_plainByte : Sound shapes plainByte := by
  have hdelivery : Sound shapes delivery := fun delivery cursor => .done delivery (.refl cursor)
  refine .bind sound_look fun next => ?_
  split
  · exact sound_refuse _
  · refine .bind hdelivery fun how => ?_
    split
    · exact sound_refuse _
    · exact .bind sound_eat fun _ => sound_refuse _
    · exact .bind sound_eat fun _ => .pure _

theorem sound_listEnd (h : Sound shapes token) : Sound shapes listEnd := by
  have htoken : Sound shapes tokenOrFailure := by
    intro delivery cursor
    have hrun := h delivery cursor
    rw [tokenOrFailure]
    split
    · rename_i hfailed
      rw [hfailed] at hrun
      exact .done none hrun.reaches
    · exact hrun
  refine .bind h fun next => ?_
  split
  · exact sound_refuseNext _
  · split
    · exact sound_eat
    · split
      · refine .bind sound_eat fun _ => .bind htoken fun next => ?_
        split
        · split <;> exact sound_refuseNext _
        · exact sound_refuseNext _
      · exact sound_refuseNext _

theorem Built.sound {reader : Reader α} (h : Built shapes reader) : Sound shapes reader := by
  induction h with
  | pure value => exact .pure value
  | bind _ _ ih ih' => exact .bind ih ih'
  | look => exact sound_look
  | eat => exact sound_eat
  | refuse cause => exact sound_refuse cause
  | refuseNext cause => exact sound_refuseNext cause
  | refuseBack cause bytes => exact sound_refuseBack cause bytes
  | mismatch cause hshapes => exact sound_mismatch hshapes cause
  | loop state _ _ ih => exact .loop ih state
  | enclosed hshapes _ _ ih ih' => exact .enclosed hshapes ih ih'
  | plainByte => exact sound_plainByte
  | listEnd _ ih => exact sound_listEnd ih

theorem Built.left_le {reader : Reader α} (h : Built shapes reader)
    {delivery : Delivery} {cursor : Cursor} {value : α} {after : Cursor}
    (hdone : reader delivery cursor = .done value after) :
    after.left ≤ cursor.left := by
  have hrun := h.sound delivery cursor
  rw [hdone] at hrun
  exact hrun.reaches.left_le

end Reader

end ShaderBinding
