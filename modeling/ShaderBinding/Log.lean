/-! Log entries, and computations that log. An entry is made when it is admitted; the value of a
computation does not depend on what is admitted. -/

namespace ShaderBinding

inductive Level where
  | error
  | warn
  | info
  | debug
  | trace
  deriving DecidableEq, Repr

namespace Level

def name : Level → String
  | error => "ERROR"
  | warn => "WARN"
  | info => "INFO"
  | debug => "DEBUG"
  | trace => "TRACE"

/-- How much is logged at a level: each level includes those before it. -/
def verbosity : Level → Nat
  | error => 1
  | warn => 2
  | info => 3
  | debug => 4
  | trace => 5

def includes (threshold level : Level) : Bool := level.verbosity ≤ threshold.verbosity

theorem trace_includes (level : Level) : trace.includes level = true := by
  cases level <;> rfl

end Level

structure Entry where
  level : Level
  target : String
  message : String
  deriving DecidableEq, Repr

def Entry.text (entry : Entry) : String :=
  entry.level.name ++ " " ++ entry.target ++ ": " ++ entry.message

/-- A value and the entries made on the way, given which entries are admitted. -/
def Logged (α : Type) : Type := (Entry → Bool) → α × List Entry

namespace Logged

variable {α : Type}

instance : Monad Logged where
  pure value := fun _ => (value, [])
  bind first next := fun admits =>
    let (value, entries) := first admits
    let (result, later) := next value admits
    (result, entries ++ later)

def log (entry : Entry) : Logged Unit := fun admits =>
  ((), if admits entry then [entry] else [])

def value (logged : Logged α) : α := (logged fun _ => false).1

def entries (logged : Logged α) (threshold : Option Level) : List Entry :=
  (logged fun entry => threshold.any (fun level => level.includes entry.level)).2

end Logged

end ShaderBinding
