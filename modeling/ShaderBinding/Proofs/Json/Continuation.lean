import ShaderBinding.Json.Reader

/-! An input beside one that starts with the same bytes and goes on. Two runs over them stand at the
same point until the shorter input is used up. -/

namespace ShaderBinding

namespace Cursor

/-- All bytes of the input of a cursor, in their order. -/
def input (cursor : Cursor) : List UInt8 := cursor.behind.reverse ++ cursor.ahead

/-- The same point in an input that goes on. -/
def extend (cursor : Cursor) (more : List UInt8) : Cursor :=
  between cursor.behind (cursor.ahead ++ more) cursor.held

theorem left_extend (cursor : Cursor) (more : List UInt8) :
    (cursor.extend more).left = cursor.left + more.length := by
  rw [cursor.left_eq]
  exact List.length_append

theorem left_eq_zero_iff (cursor : Cursor) : cursor.left = 0 ↔ cursor.ahead = [] := by
  rw [cursor.left_eq, List.length_eq_zero_iff]

theorem left_advance_le (cursor : Cursor) : cursor.advance.left ≤ cursor.left := by
  obtain ⟨behind, ahead, held, left, hleft⟩ := cursor
  cases ahead with
  | nil => exact Nat.le_refl _
  | cons b rest => exact Nat.sub_le _ _

theorem input_advance (cursor : Cursor) : cursor.advance.input = cursor.input := by
  obtain ⟨behind, ahead, held, left, hleft⟩ := cursor
  cases ahead with
  | nil => rfl
  | cons b rest => simp [advance, input]

/-- Two cursors at the same point, or the first one at the end of its input and the second one
beyond. -/
inductive Beside (more : List UInt8) : Cursor → Cursor → Prop
  | level (cursor : Cursor) : Beside more cursor (cursor.extend more)
  | ended {cursor other : Cursor} :
      cursor.ahead = [] → other.left ≤ more.length → Beside more cursor other

variable {more : List UInt8} {cursor other : Cursor}

theorem Beside.left_le (h : Beside more cursor other) : other.left ≤ cursor.left + more.length := by
  cases h with
  | level => exact Nat.le_of_eq (left_extend cursor more)
  | ended _ hleft => omega

theorem Beside.eq_extend (h : Beside more cursor other) (hahead : cursor.ahead ≠ []) :
    other = cursor.extend more := by
  cases h with
  | level => rfl
  | ended hend _ => exact absurd hend hahead

theorem Beside.advance (h : Beside more cursor other) : Beside more cursor.advance other.advance := by
  cases h with
  | ended hend hleft =>
    refine .ended ?_ (Nat.le_trans other.left_advance_le hleft)
    rw [← left_eq_zero_iff] at hend ⊢
    have hle := cursor.left_advance_le
    omega
  | level =>
    rw [cursor.eq_between]
    generalize cursor.behind = behind, cursor.ahead = ahead, cursor.held = held
    cases ahead with
    | nil => exact .ended rfl (left_advance_le _)
    | cons b rest => exact .level (.between (b :: behind) rest false)

end Cursor

end ShaderBinding
