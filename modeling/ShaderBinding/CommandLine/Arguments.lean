import ShaderBinding.CommandLine.Setting
import ShaderBinding.Text.Visible

/-! Arguments are read from left to right. A value that stands in an argument of its own waits
until the next option, or the end, before it is checked; an argument that nothing accounts for is
refused before that. -/

namespace ShaderBinding

namespace CommandLine

inductive UsageError where
  | unexpectedArgument (argument : String)
  | unexpectedValue (flag : Flag) (value : String)
  | missingValue (setting : Setting)
  | repeated (setting : Setting)
  | invalidValue (setting : Setting) (value : String)
  deriving DecidableEq, Repr

namespace UsageError

def text : UsageError → String
  | unexpectedArgument argument => "unexpected argument '" ++ visible argument ++ "' found"
  | unexpectedValue flag value =>
    "unexpected value '" ++ visible value ++ "' for '--" ++ flag.long ++
      "' found; no more were expected"
  | missingValue setting =>
    "a value is required for '" ++ setting.usage ++ "' but none was supplied"
  | repeated setting => "the argument '" ++ setting.usage ++ "' cannot be used multiple times"
  | invalidValue setting value =>
    "invalid value '" ++ visible value ++ "' for '" ++ setting.usage ++ "'"

def line (error : UsageError) : String :=
  String.ofList (("error: " ++ error.text).toList.takeWhile (· ≠ '\n'))

end UsageError

inductive Request where
  | run (options : Options)
  | briefHelp
  | fullHelp
  | version
  deriving DecidableEq, Repr

def Values.add (values : Values) (setting : Setting) (value : String) :
    Except UsageError Values :=
  if (values.lookup setting).isSome then .error (.repeated setting)
  else if value.isEmpty && !setting.allowsEmpty then .error (.missingValue setting)
  else if !setting.choices.isEmpty && (setting.choices.lookup value).isNone then
    .error (.invalidValue setting value)
  else .ok (values ++ [(setting, value)])

/-- A setting whose value is not checked yet, or has not come yet. -/
structure Pending where
  setting : Setting
  value : Option String
  deriving DecidableEq, Repr

structure Progress where
  values : Values
  pending : Option Pending
  deriving DecidableEq, Repr

namespace Progress

def start : Progress := ⟨[], none⟩

def settle (progress : Progress) : Except UsageError Values :=
  match progress.pending with
  | none => .ok progress.values
  | some ⟨setting, some value⟩ => progress.values.add setting value
  | some ⟨setting, none⟩ => .error (.missingValue setting)

/-- Takes up a setting. An attached value is checked at once. -/
def give (progress : Progress) (setting : Setting) (attached : Option String) :
    Except UsageError Progress := do
  let values ← progress.settle
  match attached with
  | some value => .ok ⟨← values.add setting value, none⟩
  | none => .ok ⟨values, some ⟨setting, none⟩⟩

def waiting? (progress : Progress) : Option Setting :=
  match progress.pending with
  | some ⟨setting, none⟩ => some setting
  | _ => none

end Progress

/-- An argument either leaves more to be read or settles what is asked for. -/
inductive Advance where
  | more (progress : Progress)
  | request (request : Request)

def splitAtEquals (chars : List Char) : List Char × Option (List Char) :=
  match chars.dropWhile (· ≠ '=') with
  | [] => (chars, none)
  | _ :: value => (chars.takeWhile (· ≠ '='), some value)

def longArgument (progress : Progress) (chars : List Char) : Except UsageError Advance :=
  let (name, attached) := splitAtEquals chars
  let name := String.ofList name
  match Setting.ofLong? name, Flag.ofLong? name, attached with
  | some setting, _, attached => do
    .ok (.more (← progress.give setting (attached.map String.ofList)))
  | none, some flag, some value => .error (.unexpectedValue flag (String.ofList value))
  | none, some flag, none => do
    let _ ← progress.settle
    .ok (.request (match flag with | .help => .fullHelp | .version => .version))
  | none, none, _ => .error (.unexpectedArgument ("--" ++ name))

/-- The value attached to a short option: what follows its letter, less an equals sign. -/
def attachedShort : List Char → Option (List Char)
  | [] => none
  | '=' :: value => some value
  | value => some value

/-- An argument after one dash. A flag acts at once, a setting takes up the rest. -/
def shortArgument (progress : Progress) (char : Char) (rest : List Char) :
    Except UsageError Advance :=
  match Setting.ofShort? char, Flag.ofShort? char with
  | some setting, _ => do
    .ok (.more (← progress.give setting ((attachedShort rest).map String.ofList)))
  | none, some flag => do
    let _ ← progress.settle
    .ok (.request (match flag with | .help => .briefHelp | .version => .version))
  | none, none => .error (.unexpectedArgument (String.ofList ['-', char]))

def valueArgument (progress : Progress) (argument : String) : Except UsageError Advance :=
  match progress.waiting? with
  | some setting => .ok (.more ⟨progress.values, some ⟨setting, some argument⟩⟩)
  | none => .error (.unexpectedArgument argument)

/-- One argument, two dashes alone excepted. -/
def argument (progress : Progress) (argument : String) : Except UsageError Advance :=
  match argument.toList with
  | '-' :: '-' :: chars => longArgument progress chars
  | '-' :: char :: rest => shortArgument progress char rest
  | _ => valueArgument progress argument

/-- Reads arguments. Two dashes end the options, and nothing may follow them. -/
def readArguments (progress : Progress) : List String → Except UsageError Request
  | [] => do
    let values ← progress.settle
    .ok (.run values.options)
  | next :: rest =>
    if next = "--" then
      match rest with
      | [] => do
        let values ← progress.settle
        .ok (.run values.options)
      | extra :: _ => .error (.unexpectedArgument extra)
    else do
      match ← argument progress next with
      | .more progress => readArguments progress rest
      | .request request => .ok request

def Request.ofArguments (arguments : List String) : Except UsageError Request :=
  readArguments .start arguments

end CommandLine

end ShaderBinding
