import ShaderBinding.CommandLine.Run

/-! A host that is a value: a file system, the text printed, and the notices given so far, the last
one first. Its stopwatch shows one text at all times. -/

namespace ShaderBinding

namespace CommandLine

structure Console where
  files : FileSystem
  printed : String
  given : List Notice

namespace Console

def notices (console : Console) : List Notice := console.given.reverse

def start (files : FileSystem) : Console := ⟨files, "", []⟩

def host (duration : String) : Host (StateM Console) where
  read path := fun console => (console.files.read path, console)
  write path text := fun console =>
    match console.files.write path (utf8Bytes text) with
    | .ok files => (.ok (), { console with files })
    | .error fault => (.error fault, console)
  print text := fun console => ((), { console with printed := console.printed ++ text })
  notify notice := fun console => ((), { console with given := notice :: console.given })
  restart := pure ()
  elapsed := pure duration

def run (duration : String) (files : FileSystem) (logSetting : Option String)
    (arguments : List String) : Status × Console :=
  program (host duration) logSetting arguments (start files)

/-- The text on the error output, if all of it was written at one time. -/
def errorText (time : String) (console : Console) : String :=
  String.join (console.notices.map (Notice.text time))

end Console

end CommandLine

end ShaderBinding
