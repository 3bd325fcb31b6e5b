import ShaderBinding.Json.Fault

/-! Readers consume bytes one by one, looking at most one byte ahead. A text and a stream hold the
same bytes, but they name the place of a fault differently, and only a stream can fail. -/

namespace ShaderBinding

/-- How bytes reach a reader. A stream may fail in place of its end. -/
inductive Delivery where
  | text
  | stream (failure : Option IoFault)
  deriving DecidableEq, Repr

/-- A point in the input: the bytes consumed, last first, and those to come, which are counted. The
next byte is held once it has been looked at. -/
structure Cursor where
  behind : List UInt8
  ahead : List UInt8
  held : Bool
  left : Nat
  left_eq : left = ahead.length
  deriving DecidableEq, Repr

namespace Cursor

def between (behind ahead : List UInt8) (held : Bool) : Cursor :=
  ⟨behind, ahead, held, ahead.length, rfl⟩

def start (bytes : List UInt8) : Cursor := between [] bytes false

/-- The count is no information of its own. -/
theorem eq_between (cursor : Cursor) : cursor = between cursor.behind cursor.ahead cursor.held := by
  cases cursor
  simp_all [between]

/-- The bytes behind a cursor together with the next one, if there is one. -/
def reach (cursor : Cursor) : List UInt8 :=
  match cursor.ahead with
  | [] => cursor.behind
  | byte :: _ => byte :: cursor.behind

def advance : Cursor → Cursor
  | ⟨behind, [], held, left, h⟩ => ⟨behind, [], held, left, h⟩
  | ⟨behind, byte :: rest, _, left, h⟩ => ⟨byte :: behind, rest, false, left - 1, by simp [h]⟩

@[simp] theorem advance_between_nil (behind : List UInt8) (held : Bool) :
    (between behind [] held).advance = between behind [] held := rfl

@[simp] theorem advance_between_cons (behind rest : List UInt8) (byte : UInt8) (held : Bool) :
    (between behind (byte :: rest) held).advance = between (byte :: behind) rest false := rfl

/-- The place of a fault in the bytes consumed. A stream counts the byte that it holds. -/
def place (cursor : Cursor) : Delivery → Place
  | .text => .after cursor.behind
  | .stream _ => .after (if cursor.held then cursor.reach else cursor.behind)

/-- The place of a fault in the next byte. A text counts that byte in any case. -/
def nextPlace (cursor : Cursor) : Delivery → Place
  | .text => .after cursor.reach
  | .stream failure => cursor.place (.stream failure)

end Cursor

inductive Outcome (α : Type) where
  | done (value : α) (cursor : Cursor)
  | failed (fault : Fault) (cursor : Cursor)

def Outcome.cursor {α : Type} : Outcome α → Cursor
  | done _ cursor => cursor
  | failed _ cursor => cursor

def Reader (α : Type) : Type := Delivery → Cursor → Outcome α

namespace Reader

variable {α β σ : Type}

instance : Monad Reader where
  pure value := fun _ cursor => .done value cursor
  bind first next := fun delivery cursor =>
    match first delivery cursor with
    | .done value cursor => next value delivery cursor
    | .failed fault cursor => .failed fault cursor

/-- The next byte, which stays ahead; none at the end of the input. -/
def look : Reader (Option UInt8) := fun delivery cursor =>
  match cursor.ahead with
  | byte :: _ => .done (some byte) { cursor with held := true }
  | [] =>
    match delivery with
    | .stream (some failure) => .failed (.stream failure) cursor
    | _ => .done none cursor

def eat : Reader Unit := fun _ cursor => .done () cursor.advance

def next : Reader (Option UInt8) := do
  let byte ← look
  eat
  pure byte

/-- Fails for what has been consumed. -/
def refuse (cause : ParseCause) : Reader α := fun delivery cursor =>
  .failed (.parse cause (cursor.place delivery)) cursor

def refuseNext (cause : ParseCause) : Reader α := fun delivery cursor =>
  .failed (.parse cause (cursor.nextPlace delivery)) cursor

/-- Fails for a piece that ended with the last byte and went wrong some bytes earlier. -/
def refuseBack (cause : ParseCause) (bytes : Nat) : Reader α := fun delivery cursor =>
  .failed (.parse cause ((cursor.place delivery).back bytes)) cursor

def mismatch (cause : SchemaCause) : Reader α := fun delivery cursor =>
  .failed (.schema cause (cursor.place delivery)) cursor

def delivery : Reader Delivery := fun delivery cursor => .done delivery cursor

inductive Turn (σ α : Type) where
  | again (state : σ)
  | stop (value : α)

/-- Repeats a turn until it stops. Another turn needs that the last one has consumed a byte, so the
input bounds the loop. -/
def loop (turn : σ → Reader (Turn σ α)) (state : σ) : Reader α := fun delivery cursor =>
  match turn state delivery cursor with
  | .failed fault cursor => .failed fault cursor
  | .done (.stop value) cursor => .done value cursor
  | .done (.again state) after =>
    if after.left < cursor.left then loop turn state delivery after
    else refuse .expectedValue delivery after
termination_by _ cursor => cursor.left

/-- Reads what stands between two brackets: the opening bracket, the body, then the closing one.
A failed body still has `close` run, whose own failure is then ignored. A misfit, which a body
reports as its value, is placed only after that. -/
def enclosed (close : Reader Unit) (body : Reader (Except SchemaCause α)) : Reader α :=
  fun delivery cursor =>
    match body delivery cursor.advance with
    | .failed fault cursor => .failed fault (close delivery cursor).cursor
    | .done (.error cause) cursor => mismatch cause delivery (close delivery cursor).cursor
    | .done (.ok value) cursor => (do close; pure value : Reader α) delivery cursor

end Reader

end ShaderBinding
