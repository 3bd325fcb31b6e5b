import ShaderBinding.CommandLine.Arguments
import ShaderBinding.CommandLine.Help
import ShaderBinding.Log.Filter
import ShaderBinding.Text.Visible

/-! A run of the program, given by what its host can do: read and write files, print, and measure
time. -/

namespace ShaderBinding

namespace CommandLine

inductive Step where
  | loadTable (path : String)
  | readShader (path : String)
  | writeOut (path : String)
  deriving DecidableEq, Repr

def Step.text : Step → String
  | loadTable path => "failed to load table " ++ quoted path
  | readShader path => "failed to read shader " ++ quoted path
  | writeOut path => "failed to write " ++ quoted path

structure Failure where
  step : Step
  error : Error
  deriving DecidableEq, Repr

/-- The report of a failure: what failed, and the chain of its causes, numbered if there are two. -/
def Failure.lines (failure : Failure) : List String :=
  ["Error: " ++ failure.step.text, "", "Caused by:"] ++
    match failure.error.source? with
    | none => ["    " ++ failure.error.message]
    | some source => ["    0: " ++ failure.error.message, "    1: " ++ source]

inductive Notice where
  | complaint (complaint : Log.Complaint)
  | entry (entry : Entry)
  | usage (error : UsageError)
  | failure (failure : Failure)
  deriving DecidableEq, Repr

namespace Notice

/-- A line of the log as a plain output shows it; further lines of a message are indented. -/
def entryText (time : String) (entry : Entry) : String :=
  let padding := String.ofList (List.replicate (5 - entry.level.name.length) ' ')
  let message := entry.message.toList.flatMap fun char =>
    if char = '\n' then '\n' :: List.replicate 4 ' ' else [char]
  visible ("[" ++ time ++ " " ++ entry.level.name ++ padding ++ " " ++ entry.target ++ "] "
    ++ String.ofList message ++ "\n")

def text (time : String) : Notice → String
  | complaint c => c.text ++ "\n"
  | entry e => entryText time e
  | usage error => error.line ++ "\n"
  | failure f => linesText f.lines

end Notice

/-- What a run asks of the system that it runs on. -/
structure Host (m : Type → Type) where
  read : String → m (Except IoFault (List UInt8))
  write : String → String → m (Except IoFault Unit)
  print : String → m Unit
  notify : Notice → m Unit
  restart : m Unit
  elapsed : m String

def logTarget : String := "sbtgen"

section

variable {m : Type → Type} [Monad m]

def Host.log (host : Host m) (filter : Log.Filter) (level : Level) (message : String) : m Unit :=
  let entry : Entry := ⟨level, logTarget, message⟩
  if filter.admits entry then host.notify (.entry entry) else pure ()

def Host.logRecords (host : Host m) (filter : Log.Filter) (table : Table) : m Unit :=
  table.records.zipIdx.forM fun (record, index) =>
    host.log filter .info ("[" ++ toString index ++ "] " ++ record.summary)

def loadTable (host : Host m) (filter : Log.Filter) (path : String) :
    m (Except Failure Table) := do
  host.restart
  match Table.ofFile path (← host.read path) with
  | .error error => pure (.error ⟨.loadTable path, error⟩)
  | .ok table =>
    host.logRecords filter table
    let time ← host.elapsed
    host.log filter .info ("Loaded " ++ toString table.size ++ " records in " ++ time)
    pure (.ok table)

def generate (host : Host m) (filter : Log.Filter) (variant : Variant) (table : Table)
    (base : String) : m String := do
  host.restart
  let (dispatches, entries) := Artifact.generate table variant filter.admits
  entries.forM fun entry => host.notify (.entry entry)
  dispatches.forM fun dispatch =>
    host.log filter .debug
      ("Generated " ++ dispatch.spec.kind.name ++ " dispatch:\n" ++ dispatch.render)
  let time ← host.elapsed
  host.log filter .info
    ("Generated " ++ toString dispatches.length ++ " dispatch functions in " ++ time)
  pure (Artifact.compose base dispatches)

def writeOut (host : Host m) (filter : Log.Filter) (path artifact : String) :
    m (Except Failure Unit) := do
  host.log filter .info ("Writing shader to " ++ quoted path)
  match ← host.write path artifact with
  | .error fault => pure (.error ⟨.writeOut path, .io path fault⟩)
  | .ok () => pure (.ok ())

def run (host : Host m) (filter : Log.Filter) (options : Options) : m (Except Failure Unit) := do
  match ← loadTable host filter options.paths.table with
  | .error failure => pure (.error failure)
  | .ok table =>
    match readText options.paths.shader (← host.read options.paths.shader) with
    | .error error => pure (.error ⟨.readShader options.paths.shader, error⟩)
    | .ok base =>
      let artifact ← generate host filter options.variant table base
      writeOut host filter options.paths.out artifact

inductive Status where
  | success
  | failure
  | usage
  deriving DecidableEq, Repr

def Status.code : Status → UInt32
  | success => 0
  | failure => 1
  | usage => 2

def serve (host : Host m) (filter : Log.Filter) : Request → m Status
  | .briefHelp => do
    host.print (linesText briefHelpLines)
    pure .success
  | .fullHelp => do
    host.print (linesText fullHelpLines)
    pure .success
  | .version => do
    host.print versionText
    pure .success
  | .run options => do
    match ← run host filter options with
    | .ok () => pure .success
    | .error failure =>
      host.notify (.failure failure)
      pure .failure

/-- The program, given its arguments and the setting of its log. What is wrong with the setting is
said before anything else. -/
def program (host : Host m) (logSetting : Option String) (arguments : List String) :
    m Status := do
  let (filter, complaints) := Log.Filter.ofSetting logSetting
  complaints.forM fun complaint => host.notify (.complaint complaint)
  match Request.ofArguments arguments with
  | .ok request => serve host filter request
  | .error error => do
    host.notify (.usage error)
    pure .usage

end

end CommandLine

end ShaderBinding
