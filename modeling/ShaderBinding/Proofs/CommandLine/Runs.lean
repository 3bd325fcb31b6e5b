import ShaderBinding.Proofs.Artifact.Repetition
import ShaderBinding.Proofs.CommandLine.Spellings
import ShaderBinding.Proofs.CommandLine.Notices

/-! The program beside a run on the same files. Between the parts of a run the program only gives
notices, so it does to the files what the run does, and its last notice is of the failure. -/

namespace ShaderBinding

namespace CommandLine

namespace Console

variable {duration : String}

variable {paths : Artifact.Paths} {variant : Variant} {path text base : String} {error : Error}
  {table : Table} {files' : FileSystem}

section

variable (duration) (filter : Log.Filter) (console : Console)

end

/-! The whole program. -/

end Console

end CommandLine

end ShaderBinding
