import ShaderBinding.Pattern.Refusal

/-! What can be wrong with the setting of the log. The rest of the setting counts all the same. -/

namespace ShaderBinding

namespace Log

inductive Complaint where
  /-- An item, or the part of it that should be a level. -/
  | item (text : List Char)
  /-- The setting as a whole has more parts than the items and a pattern. -/
  | parts (text : List Char)
  | pattern (text : List Char) (refusal : Pattern.Refusal)
  deriving DecidableEq, Repr

namespace Complaint

def reason : Complaint → String
  | item text => "invalid logging spec '" ++ String.ofList text ++ "'"
  | parts text => "invalid logging spec '" ++ String.ofList text ++ "' (too many '/'s)"
  | pattern text refusal =>
    "invalid regex filter - " ++ "\n".intercalate (refusal.lines text)

def text (complaint : Complaint) : String :=
  "warning: " ++ complaint.reason ++ ", ignoring it"

end Complaint

end Log

end ShaderBinding
