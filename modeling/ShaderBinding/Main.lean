import Std.Time.DateTime
import ShaderBinding.CommandLine.Run

/-! The program on a real system: files, the two outputs, the clock, and the environment. -/

namespace ShaderBinding

namespace CommandLine

def padded (width n : Nat) : String :=
  let digits := toString n
  String.ofList (List.replicate (width - digits.length) '0') ++ digits

def timeText (time : Std.Time.PlainDateTime) : String :=
  padded 4 time.date.year.toInt.toNat ++ "-" ++ padded 2 time.date.month.val.toNat
    ++ "-" ++ padded 2 time.date.day.val.toNat ++ "T" ++ padded 2 time.time.hour.val.toNat
    ++ ":" ++ padded 2 time.time.minute.val.toNat ++ ":" ++ padded 2 time.time.second.val.toNat
    ++ "Z"

/-- A number of nanoseconds, given as the whole and the fraction of the greatest unit below it. -/
def durationText (nanoseconds : Nat) : String :=
  if nanoseconds < 1000 then toString nanoseconds ++ "ns"
  else if nanoseconds < 1000000 then decimal 1000 3 ++ "µs"
  else if nanoseconds < 1000000000 then decimal 1000000 6 ++ "ms"
  else decimal 1000000000 9 ++ "s"
where
  decimal (unit places : Nat) : String :=
    let fraction := (padded places (nanoseconds % unit)).toList.reverse.dropWhile (· == '0')
    let whole := toString (nanoseconds / unit)
    if fraction.isEmpty then whole else whole ++ "." ++ String.ofList fraction.reverse

def codeAndDetails? : IO.Error → Option (UInt32 × String)
  | .noFileOrDirectory _ code details => some (code, details)
  | .permissionDenied _ code details => some (code, details)
  | .inappropriateType _ code details => some (code, details)
  | .invalidArgument _ code details => some (code, details)
  | .resourceExhausted _ code details => some (code, details)
  | .noSuchThing _ code details => some (code, details)
  | .hardwareFault code details => some (code, details)
  | .resourceBusy code details => some (code, details)
  | .otherError code details => some (code, details)
  | _ => none

/-- What a system error means for a file. Some numbers arrive with the sign changed. -/
def faultOf (error : IO.Error) : IoFault :=
  match codeAndDetails? error with
  | none => .other (toString error)
  | some (code, details) =>
    let number := if code < 0x80000000 then code.toNat else (0 - code).toNat
    match SystemError.ofCode? number with
    | some known => .system known
    | none => .other (details ++ " (os error " ++ toString number ++ ")")

/-- Runs an action on a path. No file has a path with the character that ends a name. -/
def onPath {α : Type} (path : String) (action : IO α) : IO (Except IoFault α) := do
  if path.toList.contains '\x00' then return .error .nulInPath
  try
    return .ok (← action)
  catch error => return .error (faultOf error)

def systemHost (stopwatch : IO.Ref Nat) : Host IO where
  read path := onPath path do
    return (← IO.FS.readBinFile path).toList
  write path text := onPath path (IO.FS.writeFile path text)
  print := IO.print
  notify notice := do
    let seconds := (← Std.Time.Timestamp.now).toSecondsSinceUnixEpoch
    let time := Std.Time.PlainDateTime.ofWallTime (.ofSeconds seconds)
    IO.eprint (notice.text (timeText time))
  restart := do stopwatch.set (← IO.monoNanosNow)
  elapsed := return durationText ((← IO.monoNanosNow) - (← stopwatch.get))

end CommandLine

end ShaderBinding

open ShaderBinding.CommandLine in
def main (arguments : List String) : IO UInt32 := do
  let host := systemHost (← IO.mkRef 0)
  let status ← program host (← IO.getEnv "RUST_LOG") arguments
  return status.code
